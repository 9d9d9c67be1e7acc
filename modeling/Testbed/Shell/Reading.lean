import Testbed.Shell.Surrounding

/-!
# Reading scripts

A script is read line by line, so that what stands before a fault is carried out before the fault
is found. The depth of the reading is bounded by the length of the text.

* `readPieces` reads a part of a word, up to the end of what it stands in;
* `readToken` reads a token, `readCommand` a command and `readList` commands in order;
* `Source.readLine` reads the commands of a line, and the lines that belong to them.
-/

namespace Testbed.Shell

/-- What is read of a simple command. -/
structure Parts where
  assignments : List (Bytes × Word)
  words : List Word
  redirections : List Redirection

/-- A part of nothing. -/
def Parts.none : Parts := ⟨[], [], []⟩

/-- How a list of commands ends. -/
inductive Extent
  /-- At the end of its line. -/
  | line
  /-- At a word that closes it, with at least one command before. -/
  | block
  /-- At a word that closes it. -/
  | branch
  deriving DecidableEq, Repr

/-- The commands that change the shell itself; no function has such a name. -/
def specialNames : List String :=
  [".", ":", "break", "continue", "eval", "exec", "exit", "export", "readonly", "return", "set",
    "shift", "times", "trap", "unset"]

/-- Whether a name is that of a command that changes the shell itself. -/
def isSpecialName (name : Bytes) : Bool := specialNames.any fun s => utf8 s == name

/-- What a word names a function, if it can name one. -/
def functionName? (w : Word) : Option Bytes :=
  match plainText? w with
  | some name => if isName name && !isSpecialName name then some name else none
  | none => none

namespace Reader

/-- Passes over blanks, joined lines and a comment. -/
def skipBlanks : Nat → Reader Unit
  | 0 => return
  | fuel + 1 => do
    discard (takeWhile isBlankByte)
    match (← get).text with
    | 92 :: 10 :: _ => do
      skip
      skip
      skipBlanks fuel
    | 35 :: _ => discard (takeWhile (· != 10))
    | _ => return

/-- Takes the word that ends a text from the script, and whether a part of it is quoted. -/
def takeMark : Nat → Bool → Bytes → Bool → Reader (Bytes × Bool)
  | 0, _, done, quoted => return (done, quoted)
  | fuel + 1, inside, done, quoted => do
    match ← peek with
    | none => if inside then fail "Unterminated quoted string" else return (done, quoted)
    | some 34 => do
      skip
      takeMark fuel (!inside) done true
    | some 92 => do
      skip
      match ← next with
      | none => return (done ++ [92], true)
      | some 10 => takeMark fuel inside done quoted
      | some b =>
        if inside && !(Surrounding.escapes .quotes b) then
          takeMark fuel inside (done ++ [92, b]) true
        else takeMark fuel inside (done ++ [b]) true
    | some b =>
      if b = 39 && !inside then
        skip
        takeMark fuel inside (done ++ (← takeSingle)) true
      else if endsWord b && !inside then return (done, quoted)
      else
        skip
        takeMark fuel inside (done ++ [b]) quoted

/-- Reads something from another text, and comes back to this one. -/
def within {α : Type} (inner : Source) (read : Reader α) : Reader α := do
  let outer ← get
  set inner
  let a ← read
  set outer
  return a

/-- The start of a redirection after its first byte. -/
def takeRedirect (outward : Bool) : Reader Redirect := do
  if outward then
    if ← takes 62 then return .file .onto
    if ← takes 124 then return .file .over
    if ← takes 38 then return .duplicate
    return .file .into
  else
    if ← takes 60 then return .document (← takes 45)
    if ← takes 38 then return .duplicate
    if ← takes 62 then return .file .inAndOut
    return .file .outOf

/-- The token that starts with a byte, if that byte starts one that is no word. -/
def takeOperator : Reader (Option Token) := do
  match ← peek with
  | none => return some .endOfText
  | some 10 => do
    skip
    return some .newline
  | some 38 => do
    skip
    return some (if ← takes 38 then .andThen else .ampersand)
  | some 124 => do
    skip
    return some (if ← takes 124 then .orElse else .bar)
  | some 59 => do
    skip
    return some (if ← takes 59 then .branchEnd else .semicolon)
  | some 40 => do
    skip
    return some .openParen
  | some 41 => do
    skip
    return some .closeParen
  | some 60 => do
    skip
    return some (.redirect 0 (← takeRedirect false))
  | some 62 => do
    skip
    return some (.redirect 1 (← takeRedirect true))
  | some _ => return none

/-- The redirection of a descriptor that is given by a digit, if there is one. -/
def takeNumbered : Reader (Option Token) := do
  match (← get).text with
  | d :: b :: _ =>
    if isDigitByte d && (b = 60 || b = 62) then
      skip
      skip
      return some (.redirect (d.toNat - 48) (← takeRedirect (b == 62)))
    else return none
  | _ => return none

end Reader

open Reader

mutual

/-- Reads pieces up to the end of what they stand in, after those read before, of which the last
one stands first. -/
def readPieces : Nat → Surrounding → List Piece → Reader (List Piece)
  | 0, _, _ => fail "word is too deep"
  | fuel + 1, s, done => do
    let plain ← takeWhile isOrdinary
    let done := if plain.isEmpty then done else pushBytes s.isQuoted plain done
    match ← peek with
    | none =>
      match s.fault? with
      | some message => fail message
      | none => return done.reverse
    | some b =>
      if b = 92 then
        skip
        match ← peek with
        | none => readPieces fuel s (pushByte true 92 done)
        | some 10 => do
          skip
          readPieces fuel s done
        | some c => do
          skip
          readPieces fuel s
            (pushBytes true (if s.escapes c then [c] else [92, c]) done)
      else if b = 36 then
        skip
        readPieces fuel s (← readValue fuel s.isQuoted done)
      else if b = 96 then
        skip
        match splitBackquote s.isQuoted [] (← get).text with
        | none => fail "EOF in backquote substitution"
        | some (inside, rest) => do
          let before ← get
          let lines := (before.text.take (before.text.length - rest.length)).count 10
          let inner : Source := { Source.ofText inside with aliases := before.aliases }
          let script ← within inner (readWhole fuel)
          set { before with text := rest, line := before.line + lines }
          readPieces fuel s (.output s.isQuoted script :: done)
      else
        match s with
        | .word =>
          if b = 39 then
            skip
            readPieces fuel s (pushBytes true (← takeSingle) done)
          else if b = 34 then
            skip
            let inside ← readPieces fuel .quotes []
            readPieces fuel s ((quotedPieces inside).reverse ++ done)
          else if endsWord b then return done.reverse
          else do
            skip
            readPieces fuel s (pushByte false b done)
        | .braces =>
          if b = 39 then
            skip
            readPieces fuel s (pushBytes true (← takeSingle) done)
          else if b = 34 then
            skip
            let inside ← readPieces fuel .quotes []
            readPieces fuel s ((quotedPieces inside).reverse ++ done)
          else if b = 125 then
            skip
            return done.reverse
          else do
            skip
            readPieces fuel s (pushByte false b done)
        | .quotes =>
          skip
          if b = 34 then return done.reverse
          else readPieces fuel s (pushByte true b done)
        | .quotedBraces inner =>
          skip
          if b = 34 then readPieces fuel (.quotedBraces (!inner)) (pushBytes true [] done)
          else if b = 125 && !inner then return done.reverse
          else readPieces fuel s (pushByte true b done)
        | .expression depth =>
          skip
          if b = 40 then readPieces fuel (.expression (depth + 1)) (pushByte true b done)
          else if b = 41 then
            if 0 < depth then readPieces fuel (.expression (depth - 1)) (pushByte true b done)
            else if ← takes 41 then return done.reverse
            else readPieces fuel s (pushByte true b done)
          else readPieces fuel s (pushByte true b done)
        | .document =>
          skip
          readPieces fuel s (pushByte true b done)

/-- Reads what follows a dollar sign. -/
def readValue : Nat → Bool → List Piece → Reader (List Piece)
  | 0, _, _ => fail "word is too deep"
  | fuel + 1, quoted, done => do
    if ← takes 40 then
      if ← takes 40 then
        return .number quoted (← readPieces fuel (.expression 0) []) :: done
      else
        let script ← readList fuel .branch true []
        let t ← readToken fuel
        match t with
        | .closeParen => return .output quoted script :: done
        | _ => unexpected t (some .closeParen)
    else if ← takes 123 then return (← readBraces fuel quoted) :: done
    else
      match ← peek with
      | none => return pushByte quoted 36 done
      | some b =>
        if startsName b then
          return .value quoted (.variable (← takeWhile inName)) .none :: done
        else if isDigitByte b then
          skip
          return .value quoted (.argument (b.toNat - 48)) .none :: done
        else
          match markParameter? b with
          | some p => do
            skip
            return .value quoted p .none :: done
          | none => return pushByte quoted 36 done

/-- Reads a parameter in braces after the first of them. -/
def readBraces : Nat → Bool → Reader Piece
  | 0, _ => fail "word is too deep"
  | fuel + 1, quoted => do
    let text := (← get).text
    match text with
    | 35 :: b :: c :: _ =>
      if inName b then
        skip
        let name ← takeWhile inName
        let p := if isDigitByte b then .argument (digitsValue name) else .variable name
        if ← takes 125 then return .value quoted p .length
        else unknownValue fuel quoted
      else if b ≠ 125 && c = 125 then
        match markParameter? b with
        | some p => do
          skip
          skip
          skip
          return .value quoted p .length
        | none => unknownValue fuel quoted
      else
        skip
        readModifier fuel quoted .argumentCount
    | b :: _ =>
      if startsName b then
        let name ← takeWhile inName
        readModifier fuel quoted (.variable name)
      else if isDigitByte b then
        let digits ← takeWhile isDigitByte
        readModifier fuel quoted (.argument (digitsValue digits))
      else
        match markParameter? b with
        | some p => do
          skip
          readModifier fuel quoted p
        | none => unknownValue fuel quoted
    | [] => unknownValue fuel quoted

/-- Reads what is done with a parameter, up to the closing brace. -/
def readModifier : Nat → Bool → Parameter → Reader Piece
  | 0, _, _ => fail "word is too deep"
  | fuel + 1, quoted, p => do
    let inside : Surrounding := if quoted then .quotedBraces false else .braces
    if ← takes 125 then return .value quoted p .none
    else if ← takes 37 then
      let longest ← takes 37
      return .value quoted p (.trimmed true longest (← readPieces fuel .braces []))
    else if ← takes 35 then
      let longest ← takes 35
      return .value quoted p (.trimmed false longest (← readPieces fuel .braces []))
    else
      let emptyToo ← takes 58
      match (← peek).bind alternative? with
      | some a => do
        skip
        let word ← readPieces fuel inside []
        return .value quoted p (.otherwise a emptyToo (withHome word))
      | none => unknownValue fuel quoted

/-- Reads what cannot be understood, up to the closing brace. -/
def unknownValue : Nat → Bool → Reader Piece
  | 0, _ => fail "word is too deep"
  | fuel + 1, quoted => do
    discard (readPieces fuel (if quoted then .quotedBraces false else .braces) [])
    return .value quoted .process .unknown

/-- Reads a token. -/
def readToken : Nat → Reader Token
  | 0 => fail "text is too deep"
  | fuel + 1 => do
    match (← get).pushed with
    | some t => do
      modify fun s => { s with pushed := none }
      return t
    | none => do
      skipBlanks fuel
      match ← takeNumbered with
      | some t => return t
      | none =>
        match ← takeOperator with
        | some t => return t
        | none => return .word (← readPieces fuel .word [])

/-- Reads a token where a reserved word has its meaning; newlines before it are passed over. -/
def readKeyword : Nat → Bool → Reader Token
  | 0, _ => fail "text is too deep"
  | fuel + 1, pastNewlines => do
    match ← readToken fuel with
    | .newline => if pastNewlines then readKeyword fuel true else return .newline
    | t => return t.recognised

/-- Reads a reserved word. -/
def readReserved : Nat → String → Reader Unit
  | 0, _ => fail "text is too deep"
  | fuel + 1, name => do
    let t ← readKeyword fuel true
    if t.isReserved name then return else unexpected t (some (.reserved name))

/-- Reads commands in order, after those read before, of which the last one stands first. `first`
says whether none has been read. -/
def readList : Nat → Extent → Bool → List Command → Reader (List Command)
  | 0, _, _, _ => fail "text is too deep"
  | fuel + 1, extent, first, done => do
    let t ← readKeyword fuel (extent != .line)
    match t with
    | .newline => return done.reverse
    | .endOfText => do
      pushBack t
      return done.reverse
    | _ => do
      pushBack t
      if extent != .line && (extent == .branch || !first) && t.closes then return done.reverse
      else
        let c ← readChain fuel
        match ← readToken fuel with
        | .endOfText => do
          pushBack .endOfText
          return (c :: done).reverse
        | .newline => do
          pushBack .newline
          readList fuel extent false (c :: done)
        | .semicolon => readList fuel extent false (c :: done)
        | .ampersand => readList fuel extent false (.background c :: done)
        | t =>
          if extent == .line then unexpected t none
          else do
            pushBack t
            return (c :: done).reverse

/-- Reads commands up to the end of the text. -/
def readWhole : Nat → Reader (List Command)
  | 0 => fail "text is too deep"
  | fuel + 1 => do
    let script ← readList fuel .branch true []
    let t ← readToken fuel
    match t with
    | .endOfText => return script
    | _ => unexpected t none

/-- Reads commands that depend on each other. -/
def readChain : Nat → Reader Command
  | 0 => fail "text is too deep"
  | fuel + 1 => do
    let c ← readPipe fuel false
    continueChain fuel c

/-- Goes on with what depends on a command. -/
def continueChain : Nat → Command → Reader Command
  | 0, _ => fail "text is too deep"
  | fuel + 1, c => do
    match ← readToken fuel with
    | .andThen => do
      let d ← readPipe fuel true
      continueChain fuel (.both c d)
    | .orElse => do
      let d ← readPipe fuel true
      continueChain fuel (.either c d)
    | t => do
      pushBack t
      return c

/-- Reads commands of which each one reads what the one before prints. -/
def readPipe : Nat → Bool → Reader Command
  | 0, _ => fail "text is too deep"
  | fuel + 1, pastNewlines => do
    let t ← readKeyword fuel pastNewlines
    if t.isReserved "!" then
      let c ← readCommand fuel false
      return .negated (← continuePipe fuel c [])
    else
      pushBack t
      let c ← readCommand fuel false
      continuePipe fuel c []

/-- Goes on with what reads the output of a command, after those before it in reverse. -/
def continuePipe : Nat → Command → List Command → Reader Command
  | 0, _, _ => fail "text is too deep"
  | fuel + 1, c, before => do
    match ← readToken fuel with
    | .bar => do
      let d ← readCommand fuel true
      continuePipe fuel d (c :: before)
    | t => do
      pushBack t
      return if before.isEmpty then c else .pipe (c :: before).reverse

/-- Reads the first token of a command, where words may stand for texts; those that are given do not
any more. -/
def readStart : Nat → Bool → List Bytes → Reader Token
  | 0, _, _ => fail "text is too deep"
  | fuel + 1, pastNewlines, used => do
    let t ← readKeyword fuel pastNewlines
    match ← unfoldAlias used t with
    | some name => readStart fuel pastNewlines (name :: used)
    | none => return t

/-- Reads one command. -/
def readCommand : Nat → Bool → Reader Command
  | 0, _ => fail "text is too deep"
  | fuel + 1, pastNewlines => do
    let t ← readStart fuel pastNewlines []
    let line ← Reader.line
    match t with
    | .word _ => do
      pushBack t
      readSimple fuel line .none
    | .redirect _ _ => do
      pushBack t
      readSimple fuel line .none
    | .openParen => do
      let body ← readList fuel .block true []
      match ← readToken fuel with
      | .closeParen => return .subshell line body (← readRedirections fuel [])
      | t => unexpected t (some .closeParen)
    | .reserved name => do
      let c ←
        if name = "\x7b" then do
          let body ← readList fuel .block true []
          readReserved fuel "\x7d"
          pure (Command.group body)
        else if name = "if" then readConditional fuel
        else if name = "while" then readLoop fuel false
        else if name = "until" then readLoop fuel true
        else if name = "for" then readEach fuel line
        else if name = "case" then readChoice fuel line
        else unexpected t none
      match ← readRedirections fuel [] with
      | [] => return c
      | redirections => return .redirected line c redirections
    | _ => unexpected t none

/-- Reads a simple command, after what is read of it. -/
def readSimple : Nat → Nat → Parts → Reader Command
  | 0, _, _ => fail "text is too deep"
  | fuel + 1, line, p => do
    match ← readToken fuel with
    | .word w =>
      match p.words, assignment? w with
      | [], some a => readSimple fuel line { p with assignments := p.assignments ++ [a] }
      | _, _ => readSimple fuel line { p with words := p.words ++ [withHome w] }
    | .redirect d r => do
      let r ← readRedirection fuel d r
      readSimple fuel line { p with redirections := p.redirections ++ [r] }
    | t => do
      match t, p with
      | .openParen, ⟨[], [w], []⟩ => do
        match ← readToken fuel with
        | .closeParen =>
          match functionName? w with
          | none => fail "Bad function name"
          | some name => return .define line name (← readCommand fuel true)
        | t => unexpected t (some .closeParen)
      | _, _ => do
        pushBack t
        return .simple line p.assignments p.words p.redirections

/-- Reads redirections, after those read before, of which the last one stands first. -/
def readRedirections : Nat → List Redirection → Reader (List Redirection)
  | 0, _ => fail "text is too deep"
  | fuel + 1, done => do
    match ← readKeyword fuel false with
    | .redirect d r => do
      let r ← readRedirection fuel d r
      readRedirections fuel (r :: done)
    | t => do
      pushBack t
      return done.reverse

/-- Reads what follows the mark of a redirection. -/
def readRedirection : Nat → Nat → Redirect → Reader Redirection
  | 0, _, _ => fail "text is too deep"
  | fuel + 1, d, r => do
    match r with
    | .document withoutTabs => do
      skipBlanks fuel
      match (← peek).filter (!endsWord ·) with
      | none => do
        let t ← readToken fuel
        unexpected t none
      | some _ => do
        let (last, quoted) ← takeMark fuel false [] false
        let text ← takeDocument withoutTabs last
        if quoted then return .document d [.literal true text]
        else
          let inner : Source := { (← get) with text := text, passed := 0 }
          return .document d (← within inner (readPieces fuel .document []))
    | .file direction => do
      match ← readToken fuel with
      | .word w => return .file d direction (withHome w)
      | t => unexpected t none
    | .duplicate => do
      match ← readToken fuel with
      | .word w => return .duplicate d w
      | t => unexpected t none

/-- Reads a condition after its first word. -/
def readConditional : Nat → Reader Command
  | 0 => fail "text is too deep"
  | fuel + 1 => do
    let test ← readList fuel .block true []
    readReserved fuel "then"
    let yes ← readList fuel .block true []
    let t ← readKeyword fuel true
    if t.isReserved "elif" then return .conditional test yes [← readConditional fuel]
    else if t.isReserved "else" then
      let no ← readList fuel .block true []
      readReserved fuel "fi"
      return .conditional test yes no
    else if t.isReserved "fi" then return .conditional test yes []
    else unexpected t (some (.reserved "fi"))

/-- Reads a loop after its first word. -/
def readLoop : Nat → Bool → Reader Command
  | 0, _ => fail "text is too deep"
  | fuel + 1, whileFails => do
    let test ← readList fuel .block true []
    readReserved fuel "do"
    let body ← readList fuel .block true []
    readReserved fuel "done"
    return .loop whileFails test body

/-- Reads a loop over words after its first word. -/
def readEach : Nat → Nat → Reader Command
  | 0, _ => fail "text is too deep"
  | fuel + 1, line => do
    let t ← readToken fuel
    let name? := match t with
      | .word w => (plainText? w).filter isName
      | _ => none
    match name? with
    | none => fail "Bad for loop variable"
    | some name => do
      let t ← readKeyword fuel true
      let words ←
        if t.isReserved "in" then readWords fuel []
        else do
          match t with
          | .semicolon => pure ()
          | _ => pushBack t
          pure [[.value true .arguments .none]]
      readReserved fuel "do"
      let body ← readList fuel .block true []
      readReserved fuel "done"
      return .each line name words body

/-- Reads words up to the end of their line, after those read before, of which the last one stands
first. -/
def readWords : Nat → List Word → Reader (List Word)
  | 0, _ => fail "text is too deep"
  | fuel + 1, done => do
    match ← readToken fuel with
    | .word w => readWords fuel (withHome w :: done)
    | .newline => return done.reverse
    | .semicolon => return done.reverse
    | t => unexpected t none

/-- Reads a choice after its first word. -/
def readChoice : Nat → Nat → Reader Command
  | 0, _ => fail "text is too deep"
  | fuel + 1, line => do
    match ← readToken fuel with
    | .word subject => do
      readReserved fuel "in"
      return .choose line (withHome subject) (← readBranches fuel [])
    | t => unexpected t (some (.word []))

/-- Reads the branches of a choice, after those read before, of which the last one stands first. -/
def readBranches : Nat → List (List Word × List Command) →
    Reader (List (List Word × List Command))
  | 0, _ => fail "text is too deep"
  | fuel + 1, done => do
    let t ← readKeyword fuel true
    if t.isReserved "esac" then return done.reverse
    else
      let t ← match t with
        | .openParen => readToken fuel
        | t => pure t
      let patterns ← readPatterns fuel t []
      let body ← readList fuel .branch true []
      let t ← readKeyword fuel true
      if t.isReserved "esac" then return ((patterns, body) :: done).reverse
      else
        match t with
        | .branchEnd => readBranches fuel ((patterns, body) :: done)
        | _ => unexpected t (some .branchEnd)

/-- Reads the patterns of a branch of which the first token is given, up to the closing
parenthesis. -/
def readPatterns : Nat → Token → List Word → Reader (List Word)
  | 0, _, _ => fail "text is too deep"
  | fuel + 1, t, done => do
    let w : Word := match t with
      | .word w => w
      | .reserved name => [.literal false (utf8 name)]
      | _ => []
    match ← readToken fuel with
    | .bar => do
      let t ← readToken fuel
      readPatterns fuel t (w :: done)
    | .closeParen => return (w :: done).reverse
    | t => unexpected t (some .closeParen)

end

/-- A bound for the depth of the reading of a text. -/
def Source.depth (s : Source) : Nat := 24 * s.text.length + 64

/-- Reads the commands of a line, and the lines that belong to them; none at the end of the
text. -/
def Source.readLine (s : Source) : Except SyntaxError (Option (List Command) × Source) :=
  match readList s.depth .line true [] s with
  | .error e => .error e
  | .ok (script, s) =>
    match script, s.pushed with
    | [], some .endOfText => .ok (none, s)
    | _, _ => .ok (some script, s)

end Testbed.Shell
