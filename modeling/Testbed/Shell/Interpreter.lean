import Testbed.Shell.Duties
import Testbed.Shell.Reading
import Testbed.Shell.Redirecting

/-!
# Carrying out scripts

The commands of a script are carried out in order, line by line. How deep they may be in each other
is bounded.

* `allFields`, `withVariables` and `trace` prepare the words of a command;
* `forEach` and `repeatWhile` carry out loops over what they are given;
* `runCommand`, `runScript` and `runText` carry commands and texts out, and `process` the end of a
  process that does so.
-/

namespace Testbed.Shell

open Host Act

/-! ## Words of commands -/

/-- Whether a word sets a variable. -/
def isAssignment (w : Word) : Bool := (assignment? w).isSome

/-- The fields of the words of a command. Those of a command that sets variables are not cut if they
look like it. -/
def commandFields (run : Capture) : Bool → List Word → Act (List Bytes)
  | _, [] => return []
  | assigns, w :: rest => do
    if assigns && isAssignment w then
      match assignment? w with
      | some (name, value) => do
        let field := name ++ 61 :: (← flat run value)
        return field :: (← commandFields run assigns rest)
      | none => commandFields run assigns rest
    else
      let fields ← fieldsOf run w
      return fields ++ (← commandFields run assigns rest)

/-- The fields of the words of a command, where the first field says how the others are cut. -/
def allFields (run : Capture) (words : List Word) : Act (List Bytes) := do
  match words with
  | [] => return []
  | first :: rest => do
    let fields ← fieldsOf run first
    let assigns := ((fields.head?.bind Builtin.ofName?).map (·.assigns)).getD false
    return fields ++ (← commandFields run assigns rest)

/-- The values of assignments, each seen by the ones after it. -/
def assignEach (run : Capture) : List (Bytes × Word) → Act (List (Bytes × Bytes))
  | [] => return []
  | (name, w) :: rest => do
    let value ← flat run w
    assign name value
    return (name, value) :: (← assignEach run rest)

/-- Carries something out with variables that are only set meanwhile. -/
def withVariables {α : Type} (run : Capture) (assignments : List (Bytes × Word))
    (act : List (Bytes × Bytes) → Act α) : Act α := do
  let before := (← get).assigned
  let names := assignments.map Prod.fst
  let restore : Act Unit := modify fun m =>
    names.foldl (fun m name => m.put name (before.lookup name)) m
  thenAlways
    (do
      let values ← assignEach run assignments
      modify fun m =>
        values.foldl (fun m v => m.put v.1 (some ⟨some v.2, true, false⟩)) m
      act values)
    restore

/-- What stands before a command that is shown. Commands whose output is a part of that are not
shown themselves. -/
def traceMark (run : Capture) : Act Bytes := do
  let m ← get
  let source := Source.ofText ((m.value? (utf8 "PS4")).getD [])
  match readPieces source.depth .document [] source with
  | .error _ => return source.text
  | .ok (w, _) => do
    set { m with options := m.options.filter (· != 120) }
    let mark ← flat run w
    modify fun after => { after with options := m.options, status := m.status }
    return mark

/-- Shows a command before it is carried out, if that is asked for. -/
def trace (run : Capture) (assignments : List (Bytes × Bytes)) (fields : List Bytes) :
    Act Unit := do
  if (← get).has 120 then
    let shown := assignments.map fun v => v.1 ++ 61 :: v.2
    print 2 ((← traceMark run) ++ Machine.joinWords (shown ++ fields) ++ [10])

/-! ## Loops -/

/-- Carries out one round of a loop, and says whether another one may follow. -/
def oneRound (body : Act Unit) : Act Bool :=
  tryCatch (body *> pure true) fun
    | .leaves n => if n ≤ 1 then pure false else stop (.leaves (n - 1))
    | .repeats n => if n ≤ 1 then pure true else stop (.repeats (n - 1))
    | s => stop s

/-- Carries something out inside a loop. -/
def inLoop (act : Act Unit) : Act Unit := do
  modify fun m => { m with loops := m.loops + 1 }
  thenAlways act (modify fun m => { m with loops := m.loops - 1 })

/-- Carries out a body with each field in a variable. -/
def forEach (name : Bytes) (body : Act Unit) : List Bytes → Act Unit
  | [] => return
  | field :: rest => do
    assign name field
    if ← oneRound body then forEach name body rest

/-- Carries out a body as long as a test succeeds, or fails, for at most the given number of rounds.
The exit code is that of the last body. -/
def repeatWhile (whileFails : Bool) (test body : Act Unit) : Nat → Nat → Act Unit
  | 0, _ => return
  | rounds + 1, code => do
    -- a round that the test ends has the exit code of the body before it
    let tested ← oneRoundOf test
    match tested with
    | some again => if again then repeatWhile whileFails test body rounds code else setStatus code
    | none =>
      if ((← get).status == 0) == whileFails then setStatus code
      else if ← oneRound body then repeatWhile whileFails test body rounds (← get).status
where
  /-- Carries out a test; if it ends its round, says whether another one may follow. -/
  oneRoundOf (test : Act Unit) : Act (Option Bool) :=
    tryCatch (test *> pure none) fun
      | .leaves n => if n ≤ 1 then pure (some false) else stop (.leaves (n - 1))
      | .repeats n => if n ≤ 1 then pure (some true) else stop (.repeats (n - 1))
      | s => stop s

/-! ## Commands -/

/-- Ends a command: one that failed ends the script if that is asked for, unless its outcome is
tested. -/
def settle (place : Place) : Act Unit := do
  let m ← get
  if !place.tested && m.has 101 && m.status != 0 then stop .exits

/-- Gives variables back what they were before a function made them its own. -/
def leaveScope : Act Unit :=
  modify fun m =>
    match m.scopes with
    | scope :: outer => scope.foldl (fun m v => m.put v.1 v.2) { m with scopes := outer }
    | [] => m

/-- How deep functions may call each other. -/
def maxCalls : Nat := 1000

/-- Carries something out as the body of a function with arguments. -/
def asFunction (args : List Bytes) (body : Act Unit) : Act Unit := do
  let m ← get
  if maxCalls ≤ m.scopes.length then
    fail (utf8 "Maximum function recursion depth (1000) reached")
  set { m with args := args, loops := 0, letters := 0, scopes := [] :: m.scopes }
  thenAlways
    (tryCatch body fun
      | .returns => pure ()
      | s => stop s)
    (do
      leaveScope
      modify fun n => { n with args := m.args, loops := m.loops, letters := m.letters })

/-- Shows the lines between two places of a text if the script asks for that. -/
def showLines (source rest : Source) : Act Unit := do
  if source.shown && (← get).has 118 then
    print 2 (source.text.take (source.text.length - rest.text.length))

mutual

/-- Carries out a command. The first argument bounds the depth. -/
def runCommand (l : Launcher) : Nat → Place → Command → Act Unit
  | 0, _, _ => stop .exits
  | fuel + 1, place, c => do
    match c with
    | .simple line assignments words redirections => do
      modify fun m => { m with line := line, outputStatus := 0 }
      runSimple l fuel place assignments words redirections
      settle place
    | .choose line subject branches => do
      modify fun m => { m with line := line }
      let text ← flat (capture l fuel) subject
      runBranches l fuel place text branches
    | .conditional test yes no => do
      runScript l fuel place.test test
      if (← get).status = 0 then runScript l fuel place yes
      else if no.isEmpty then setStatus 0
      else runScript l fuel place no
    | .each line name words body => do
      modify fun m => { m with line := line }
      let fields ← commandFields (capture l fuel) false words
      setStatus 0
      inLoop (forEach name (runScript l fuel place.inner body) fields)
    | .loop whileFails test body =>
      inLoop (repeatWhile whileFails (runScript l fuel place.test test)
        (runScript l fuel place.inner body) fuel 0)
    | .group body => runScript l fuel place body
    | .subshell line body redirections => do
      modify fun m => { m with line := line }
      let inside : Act Unit := do
        let resolved ← redirections.mapM (resolve (capture l fuel))
        resolved.forM follow
        runScript l fuel place.alone body
      if place.last && (← get).traps.isEmpty then
        inside
        stop .exits
      else
        let s ← apart (process l fuel inside)
        receiveSent
        setStatus (← note s)
        settle place
    | .redirected line c redirections => do
      modify fun m => { m with line := line }
      let resolved ← redirections.mapM (resolve (capture l fuel))
      redirecting resolved (runCommand l fuel place.inner c)
    | .negated c => do
      runCommand l fuel place.test c
      setStatus (if (← get).status = 0 then 1 else 0)
    | .pipe stages => do
      runPipe l fuel place none stages
      settle place
    | .both first second => do
      runCommand l fuel place.test first
      if (← get).status = 0 then runCommand l fuel place second
    | .either first second => do
      runCommand l fuel place.test first
      if (← get).status != 0 then runCommand l fuel place second
    | .background c => do
      let number := 1000 + (← get).site.processes + 1
      let n ← openNew .nothing
      let s ← withDescriptors ((← get).descriptors.set 0 n)
        (apart (process l fuel (runCommand l fuel ⟨false, true⟩ c)))
      modify fun m =>
        { m with background := some number, jobs := ⟨number, s, false⟩ :: m.jobs, status := 0 }
      receiveSent
    | .define _ name body => do
      modify fun m =>
        { m with
          functions := (name, body) :: m.functions.filter fun p => p.1 != name
          status := 0 }
    runPending l fuel

/-- Carries out commands in order. -/
def runScript (l : Launcher) : Nat → Place → List Command → Act Unit
  | 0, _, _ => stop .exits
  | _, _, [] => return
  | fuel + 1, place, [c] => runCommand l fuel place c
  | fuel + 1, place, c :: rest => do
    runCommand l fuel place.inner c
    runScript l fuel place rest

/-- Carries out the first branch that has a pattern for a text. -/
def runBranches (l : Launcher) : Nat → Place → Bytes → List (List Word × List Command) → Act Unit
  | 0, _, _, _ => stop .exits
  | _, _, _, [] => setStatus 0
  | fuel + 1, place, text, (patterns, body) :: rest => do
    if ← anyCovers l fuel text patterns then
      if body.isEmpty then setStatus 0 else runScript l fuel place body
    else runBranches l fuel place text rest

/-- Whether one of several patterns covers a text. -/
def anyCovers (l : Launcher) : Nat → Bytes → List Word → Act Bool
  | 0, _, _ => return false
  | _, _, [] => return false
  | fuel + 1, text, w :: rest => do
    let pattern ← patternOf (capture l fuel) w
    if Glob.covers pattern text then return true
    else anyCovers l fuel text rest

/-- Carries out commands of which each one reads what the one before prints, which is given for the
first. -/
def runPipe (l : Launcher) : Nat → Place → Option Bytes → List Command → Act Unit
  | 0, _, _, _ => stop .exits
  | _, _, _, [] => return
  | fuel + 1, place, input, c :: rest => do
    let ds := (← get).descriptors
    let ds ← match input with
      | none => pure ds
      | some text => do pure (ds.set 0 (← openNew (.text text)))
    if rest.isEmpty then
      let s ← withDescriptors ds (apart (process l fuel (runCommand l fuel place.alone c)))
      receiveSent
      setStatus (← note s)
    else
      let out ← openNew (.gathering [])
      let s ← withDescriptors (ds.set 1 out)
        (apart (process l fuel (runCommand l fuel place.alone c)))
      discard (note s)
      let text := (← get).site.gathered [(1, out)] 1
      runPipe l fuel place (some text) rest

/-- What a script prints that runs in a process of its own. -/
def capture (l : Launcher) : Nat → Capture
  | 0, _ => return []
  | fuel + 1, script => do
    let out ← openNew (.gathering [])
    let s ← withDescriptors ((← get).descriptors.set 1 out)
      (apart (process l fuel (runScript l fuel ⟨false, true⟩ script)))
    receiveSent
    let code ← note s
    modify fun m => { m with outputStatus := code, status := code }
    return (← get).site.gathered [(1, out)] 1

/-- Carries something out up to the end of its process, and says how it stops. -/
def process (l : Launcher) : Nat → Act Unit → Act (Option Stop)
  | 0, _ => return some .exits
  | fuel + 1, act => do
    let stop ← attempt act
    match stop with
    | some (.dies n) => return some (.dies n)
    | stop => do
      let m ← get
      match m.trap? 0 with
      | none => return stop
      | some action => do
        let code := m.status
        set { m with
          traps := m.traps.filter fun p => p.1 != 0
          leaving := some code
          loops := 0 }
        match ← attempt (runText l fuel .ordinary (.ofText action)) with
        | some .exits => return some .exits
        | some .fails => return some .exits
        | some (.dies n) => return some (.dies n)
        | _ => do
          setStatus code
          return some .exits

/-- Does what is to be done about signals that came meanwhile. -/
def runPending (l : Launcher) : Nat → Act Unit
  | 0 => return
  | fuel + 1 => do
    let m ← get
    match m.pending with
    | [] => return
    | n :: rest => do
      set { m with pending := rest }
      match m.trap? n with
      | none => pure ()
      | some action => do
        let before := m.leaving
        modify fun m => { m with leaving := some m.status }
        runText l fuel .ordinary (.ofText action)
        modify fun n => { n with status := m.status, leaving := before }
      runPending l fuel

/-- Carries out a simple command. -/
def runSimple (l : Launcher) : Nat → Place → List (Bytes × Word) → List Word →
    List Redirection → Act Unit
  | 0, _, _, _, _ => stop .exits
  | fuel + 1, place, assignments, words, redirections => do
    let run := capture l fuel
    let fields ← allFields run words
    let resolved ← redirections.mapM (resolve run)
    let outer := (← get).descriptors
    match fields with
    | [] => do
      withDescriptors outer do
        let there ← followAll resolved
        let values ← assignEach run assignments
        trace run values []
        modify fun m => { m with status := if there then m.outputStatus else 2 }
    | name :: args => do
      let m ← get
      let builtin := Builtin.ofName? name
      let special := (builtin.map (·.isSpecial)).getD false
      let permanent := builtin = some .exec && args.isEmpty
      let body (there : Bool) : Act Unit := do
        if special then
          let values ← assignEach run assignments
          trace run values fields
          if !there then stop .fails
          runBuiltin l fuel place (builtin.getD .nothing) name args
        else
          withVariables run assignments fun values => do
            trace run values fields
            if there then
              match m.functions.lookup name with
              | some body =>
                asFunction args (runCommand l fuel place.inner body)
              | none =>
                match builtin with
                | some b => do
                  match ← attempt (runBuiltin l fuel place b name args) with
                  | none => pure ()
                  | some .fails => setStatus 2
                  | some s => stop s
                | none => runProgram l place name args (← get).environment
      if permanent then
        let there ← followAll resolved
        body there
      else
        withDescriptors outer do
          let there ← followAll resolved
          body there

/-- Carries out a command of the shell. -/
def runBuiltin (l : Launcher) : Nat → Place → Builtin → Bytes → List Bytes → Act Unit
  | 0, _, _, _, _ => stop .exits
  | fuel + 1, place, b, name, args => do
    let before := (← get).command
    let named (n : Option Bytes) : Act Unit := modify fun m => { m with command := n }
    named (some name)
    thenAlways
      (match b with
      | .eval => runText l fuel place.inner (.ofText (Machine.joinWords args))
      | .dot => runFile l fuel args
      | .exec => do
        match args with
        | [] => setStatus 0
        | name :: args => replaceBy l name args (← get).environment
      | .command => runPlain l fuel place args
      | b => do
        modify fun m => { m with lost := false }
        let code ← Duties.run b args
        if (← get).lost then
          warn (name ++ utf8 ": I/O error")
          setStatus (code ||| 1)
        else setStatus code)
      (named before)

/-- Carries out a command that is no function, or says what its name stands for. -/
def runPlain (l : Launcher) : Nat → Place → List Bytes → Act Unit
  | 0, _, _ => stop .exits
  | fuel + 1, place, args => do
    match args with
    | [] => setStatus 0
    | [45, 118] :: name :: _ => setStatus (← Duties.describe true name)
    | [45, 86] :: name :: _ => setStatus (← Duties.describe false name)
    | [45, 112] :: rest => runPlain l fuel place rest
    | [45, 45] :: rest => runPlain l fuel place rest
    | name :: args => do
      modify fun m => { m with command := none }
      match Builtin.ofName? name with
      | some b => do
        match ← attempt (runBuiltin l fuel place b name args) with
        | none => pure ()
        | some .fails => setStatus 2
        | some s => stop s
      | none => runProgram l place name args (← get).environment

/-- Carries out the text of a file. -/
def runFile (l : Launcher) : Nat → List Bytes → Act Unit
  | 0, _ => stop .exits
  | fuel + 1, args => do
    match args with
    | [] => fail (utf8 "filename argument required")
    | name :: _ => do
      let m ← get
      let path? :=
        if name.contains slash then some name
        else firstFile? m.site.files (Duties.directories m) name
      match path? with
      | none => fail (name ++ utf8 ": not found")
      | some path =>
        match m.site.content m.descriptors path with
        | .error e => fail (openFault .outOf path e)
        | .ok (text, site) => do
          set { m with site := site, command := some path }
          tryCatch (runText l fuel .ordinary (.ofFile text)) fun
            | .returns => pure ()
            | s => stop s

/-- Carries out a text, line by line. -/
def runText (l : Launcher) : Nat → Place → Source → Act Unit
  | 0, _, _ => stop .exits
  | fuel + 1, place, source => do
    if source.text.all fun b => b == 32 || b == 9 || b == 10 then setStatus 0
    runLines l fuel place source

/-- Carries out what is left of a text, line by line. -/
def runLines (l : Launcher) : Nat → Place → Source → Act Unit
  | 0, _, _ => stop .exits
  | fuel + 1, place, source => do
    match { source with aliases := (← get).aliases }.readLine with
    | .error e => do
      modify fun m => { m with line := e.line }
      fail (utf8 ("Syntax error: " ++ e.message))
    | .ok (none, rest) => showLines source rest
    | .ok (some script, rest) => do
      showLines source rest
      let ended := match rest.pushed with
        | some .endOfText => true
        | _ => false
      if !(← get).has 110 then runScript l fuel (if ended then place else place.inner) script
      runLines l fuel place rest

end

end Testbed.Shell
