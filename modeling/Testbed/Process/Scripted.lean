import Testbed.FileSystem.Effect
import Testbed.Process.Runner

/-!
# Scripted children

A runner that starts nothing: rules say, for invocations whose text holds a needle, how the files
change and what is answered. The first rule that matches is followed; where none does, nothing
changes and the child succeeds.

* `Rule` is a rule and `Rule.runner` the runner that follows a list of them.
-/

namespace Testbed

/-- What to do for invocations whose text holds `needle`. -/
structure Rule where
  needle : String
  /-- The changes to make, going on after one that is refused. -/
  effects : List Effect
  /-- The exit code, or the reason why the child does not start. -/
  outcome : Except String Int

namespace Rule

/-- Whether a rule is about an invocation. -/
def applies (r : Rule) (i : Invocation) : Bool := occursIn r.needle.toList i.display.toList

/-- The runner that follows the first rule that applies. -/
def runner (rules : List Rule) : Runner Unit where
  call i _ files :=
    match rules.find? (·.applies i) with
    | none => ⟨.ok 0, [], (), files⟩
    | some r =>
      { answer :=
          match r.outcome with
          | .ok code => .ok code
          | .error reason => .error ⟨i.program, .other reason⟩
        activity := []
        state := ()
        files := Effect.applyAll files r.effects }

end Rule

end Testbed
