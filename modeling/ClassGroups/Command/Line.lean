import ClassGroups.Command.Outcome
import ClassGroups.Interactive

/-!
# The command line

Four commands work on class lists: `format` writes one in groups, `interactive` does so with pasted
lines, `classify` names the category of each token, and `group` prints the groups as JSON. `run` is
the whole program as a function of its arguments, its environment, a file of definitions and the
text on its input.
-/

namespace ClassGroups.Command

open Arguments

/-- The names of the commands. -/
def commandNames : List Text := ["format", "interactive", "classify", "group"]

/-- The options that say how class lists are written. -/
def renderOptions : List OptionSpec := [
  ⟨"--format", .value (.choice (OutputFormat.all.map (·.name)))⟩,
  ⟨"--min-tokens", .value .integer⟩,
  ⟨"--no-comments", .flag⟩,
  ⟨"--indent", .value .text⟩,
  ⟨"--verbose", .flag⟩]

/-- The arguments of the program. -/
def programGrammar : Grammar where
  program := "tw-group"
  options := []
  operands := .command "command" commandNames

/-- The arguments of `format`. -/
def formatGrammar : Grammar where
  program := "tw-group format"
  options := ⟨"--check", .flag⟩ :: renderOptions
  operands := .many

/-- The arguments of `interactive`. -/
def interactiveGrammar : Grammar where
  program := "tw-group interactive"
  options := renderOptions
  operands := .absent

/-- The arguments of `classify`. -/
def classifyGrammar : Grammar where
  program := "tw-group classify"
  options := []
  operands := .some "tokens"

/-- The arguments of `group`. -/
def groupGrammar : Grammar where
  program := "tw-group group"
  options := []
  operands := .some "classes"

/-- A command that was chosen. -/
inductive Chosen where
  /-- Write a class list in groups. -/
  | format
  /-- Write pasted class lists in groups. -/
  | interactive
  /-- Name the category of each token. -/
  | classify
  /-- Print groups as JSON. -/
  | group
deriving DecidableEq, Repr

/-- The command of a name; a name that is none of the first three stands for `group`. -/
def Chosen.ofName (name : Text) : Chosen :=
  if name = "format".toList then .format
  else if name = "interactive".toList then .interactive
  else if name = "classify".toList then .classify
  else .group

/-- The arguments of a command. -/
def Chosen.grammar : Chosen → Grammar
  | format => formatGrammar
  | interactive => interactiveGrammar
  | classify => classifyGrammar
  | group => groupGrammar

/-- The command and its arguments. Arguments that the program or the command does not know are
refused in the name of the program, after the faults of the command. -/
def parseLine (arguments : List Text) : Except Stop (Chosen × Parsed) := do
  let top ← programGrammar.parseKnown arguments
  match top.operands with
  | some (name :: rest) =>
    let chosen := Chosen.ofName name
    let p ← chosen.grammar.parseKnown rest
    programGrammar.refuseUnknown (top.unknown ++ p.unknown)
    return (chosen, p)
  | _ => programGrammar.require (.error (.missing ["command"]))

/-- The options of a command line that set fields. -/
def renderFields : List (Text × Text) :=
  [("format", "--format"), ("min_tokens", "--min-tokens"), ("indent", "--indent")]

/-- The log of formatted class lists, which is written only on demand. -/
def formatLog (p : Parsed) (formatted : List Formatted) : Text :=
  if p.has "--verbose" then
    Text.unlines (formatted.map ("[DEBUG] tw_group.formatter: ".toList ++ ·.logMessage))
  else []

/-- Names the category of each token. -/
def runClassify (tokens : List Text) : Outcome where
  output := Text.unlines (tokens.map fun t => t ++ "\t" ++ (ClassGroups.classify t).name)

/-- Prints the groups of a class list as JSON. -/
def runGroup (classes : List Text) : Outcome where
  output :=
    (ClassGroups.group (Text.intercalate " " classes)).toJson.pretty "  " ++ Text.newline

/-- The class list to format: the arguments, or the trimmed input if there are none. -/
def classSource (p : Parsed) (input : Text) : Text :=
  match p.operands.getD [] with
  | [] => Text.trim input
  | classes => Text.intercalate " " classes

/-- Writes a class list in groups, or only says by its exit status whether it would change. -/
def runFormat (o : Options) (p : Parsed) (input : Text) : Outcome :=
  let formatted := ClassGroups.format o (classSource p input)
  let errors := formatLog p [formatted]
  if p.has "--check" then { status := if formatted.changed then 1 else 0, errors }
  else { output := formatted.text ++ Text.newline, errors }

/-- Writes pasted class lists in groups. -/
def runInteractive (o : Options) (p : Parsed) (input : Text) : Outcome where
  output := transcript o input
  errors := formatLog p (pasted o input)

/-- Runs a command. -/
def Chosen.run (chosen : Chosen) (p : Parsed) (env : Environment) (input : Text) : Outcome :=
  match chosen with
  | .classify => runClassify (p.operands.getD [])
  | .group => runGroup (p.operands.getD [])
  | .format =>
    match optionsOf env p renderFields with
    | .error e => .ofSettingsError e
    | .ok o => runFormat o p input
  | .interactive =>
    match optionsOf env p renderFields with
    | .error e => .ofSettingsError e
    | .ok o => runInteractive o p input

/-- The program: its outcome for arguments, an environment, a file of definitions and an input,
whose lines may end in any of the usual ways. The definitions come into force before the arguments
are looked at. -/
def run (arguments : List Text) (env : Environment) (definitions input : Text) : Outcome :=
  let warnings := env.warnings definitions
  match env.withDefinitions definitions, parseLine arguments with
  | .error e, _ => (Outcome.broken (.badVariable e)).afterWarnings warnings
  | .ok _, .error stop => .ofStop stop
  | .ok env, .ok (chosen, p) =>
    (chosen.run p env (Text.normalizeNewlines input)).afterWarnings warnings

end ClassGroups.Command
