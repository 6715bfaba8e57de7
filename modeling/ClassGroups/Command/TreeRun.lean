import ClassGroups.Command.Outcome
import ClassGroups.Files.Tree

/-!
# Runs on a file tree

A run of a tool may read and write files. It ends with an outcome and the tree that it leaves
behind.
-/

namespace ClassGroups.Command

open Files

/-- What a run of a tool leaves behind. -/
structure TreeRun where
  /-- The outcome. -/
  outcome : Outcome
  /-- The tree after the run. -/
  tree : Tree

/-- A run that broke off with a fault before it printed anything. -/
def TreeRun.broken (fault : Fault) (t : Tree) : TreeRun where
  outcome := .broken fault
  tree := t

/-- The run with warnings before all that was reported. -/
def TreeRun.afterWarnings (r : TreeRun) (warnings : List Text) : TreeRun :=
  { r with outcome := r.outcome.afterWarnings warnings }

/-- A run of a tool from its start: the definitions come into force, then the arguments are looked
at, and then the job is done. -/
def TreeRun.start (grammar : Arguments.Grammar)
    (job : Arguments.Parsed → Environment → Tree → TreeRun) (arguments : List Text)
    (env : Environment) (definitions : Text) (t : Tree) : TreeRun :=
  let warnings := env.warnings definitions
  match env.withDefinitions definitions, grammar.parse arguments with
  | .error e, _ => (TreeRun.broken (.badVariable e) t).afterWarnings warnings
  | .ok _, .error stop => { outcome := .ofStop stop, tree := t }
  | .ok env, .ok p => (job p env t).afterWarnings warnings

end ClassGroups.Command
