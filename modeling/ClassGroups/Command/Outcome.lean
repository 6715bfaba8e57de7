import ClassGroups.Arguments.Parser
import ClassGroups.Command.Fault

/-!
# Outcomes of a run

A run of a command ends with an exit status and has written to two streams, unless a fault breaks it
off. Before it does anything else it reports what it cannot read in the file of definitions; only
wrong arguments are reported alone.
-/

namespace ClassGroups.Command

/-- What a run of a command leaves behind. -/
structure Outcome where
  /-- The exit status. -/
  status : Nat := 0
  /-- What was printed. -/
  output : Text := []
  /-- What was reported. -/
  errors : Text := []
  /-- The fault that broke the run off. -/
  fault? : Option Fault := none

/-- The outcome of a run that broke off before it wrote anything. -/
def Outcome.broken (fault : Fault) : Outcome := { status := 1, fault? := some fault }

/-- The outcome with warnings before all that was reported. -/
def Outcome.afterWarnings (o : Outcome) (warnings : List Text) : Outcome :=
  { o with errors := Text.unlines warnings ++ o.errors }

/-- The outcome of arguments that are not used. -/
def Outcome.ofStop : Arguments.Stop → Outcome
  | .help program => { output := "usage: " ++ program ++ " [-h] ...\n" }
  | .usage program e => { status := 2, errors := program ++ ": error: " ++ e.message ++ "\n" }

/-- The outcome of options that are refused. -/
def Outcome.ofSettingsError (e : SettingsError) : Outcome :=
  { status := 2, errors := "[ERROR] " ++ e.message ++ "\n" }

/-- The outcome of a run that ends with a complaint. -/
def Outcome.complaint (message : Text) : Outcome :=
  { status := 1, errors := "[ERROR] " ++ message ++ "\n" }

/-- The value of an option as a value for a field. An option that is not given has none, and one
whose value was taken away has an empty list. -/
def fieldValue : Option Arguments.Value → Json
  | none => .null
  | some .given => .bool true
  | some (.text s) => .text s
  | some (.integer n) => .int n
  | some .dropped => .list []

/-- The fields that the options of a command line set: each field with the option for it. Headings
can only be turned off. -/
def overrides (p : Arguments.Parsed) (fields : List (Text × Text)) : List (Text × Json) :=
  fields.map (fun (field, option) => (field, fieldValue (p.value? option)))
    ++ [("include_comments".toList,
      if p.has "--no-comments" then Json.bool false else Json.null)]

/-- The options that the environment and the command line describe. -/
def optionsOf (env : Environment) (p : Arguments.Parsed) (fields : List (Text × Text)) :
    Except SettingsError Options := do
  let s ← env.settings (overrides p fields)
  s.check

end ClassGroups.Command
