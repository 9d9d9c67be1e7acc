import Testbed.Host.Programs
import Testbed.Process.Command

/-!
# The host

A host has the programs of the system, some devices, and a directory to work in. Children that are
started on it share one input, from which each goes on reading where the last one stopped.

* `freshFiles` is the file system of such a host before anything is done;
* `children` is how children behave on it.
-/

namespace Testbed.Host

open Shell

/-! ## Files -/

/-- The location of names from the root on, if they can be names. -/
def location? (names : List String) : Option Location :=
  (names.reverse).mapM fun n => FileName.ofBytes? (utf8 n)

/-- The names of the shell besides its own. -/
def shellNames : List String := ["dash", "bash"]

/-- What a host holds besides its root. -/
def freshEntries : List (List String × Entry) :=
  [(["usr"], .directory), (["usr", "bin"], .directory), (["bin"], .link (utf8 "usr/bin"))] ++
    (Tool.all.map fun t => (["usr", "bin", t.name], .tool t)) ++
    (shellNames.map fun n => (["usr", "bin", n], .tool .shell)) ++
    [(["dev"], .directory), (["dev", "null"], .file [] false), (["dev", "stdin"], .file [] false),
      (["dev", "stdout"], .file [] false), (["dev", "stderr"], .file [] false),
      (["tmp"], .directory), (["session"], .directory)]

/-- The file system of a host with nothing but its programs and an empty directory to work in. -/
def freshFiles : FileSystem where
  tree :=
    freshEntries.foldl
      (fun t e =>
        match location? e.1 with
        | some l => t.put l e.2
        | none => t)
      Tree.empty
  cwd := (location? ["session"]).getD []

/-! ## Children -/

/-- How long an argument may be. -/
def maxArgument : Nat := 131071

/-- Starts a child in a site, by the command of its invocation. -/
def spawn (environment : List (Bytes × Bytes)) (i : Invocation) (site : Site) :
    Except LaunchCause WaitStatus × Site :=
  let command := i.toCommand
  if command.refused then (.error .nulByte, site)
  else if command.words.any fun a => maxArgument < a.length then
    (.error (.system .argumentsTooLong), site)
  else
    match findProgram site.files command.program.bytes with
    | .error e => (.error (.system e), site)
    | .ok (path, _) =>
      let (r, site) :=
        (launcher maxStarts).start path
          ⟨command.program.bytes, command.args.map SystemString.bytes, environment,
            Site.startDescriptors⟩ site
      (r.mapError .system, site)

/-- How children behave on a host, where they get the given variables: their state is what is left
of the input that they share. -/
def children (environment : List (Bytes × Bytes)) : Children Bytes where
  spawn i input files :=
    let (outcome, site) := spawn environment i (.start files input)
    { outcome := outcome
      printed := site.printed.reverse
      state := site.readable Site.startDescriptors 0
      files := { site.files with cwd := files.cwd } }

/-- The variables that children get where nothing else is said. -/
def defaultEnvironment : List (Bytes × Bytes) := [(utf8 "PATH", searchPath)]

end Testbed.Host
