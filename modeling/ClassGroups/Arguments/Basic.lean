import ClassGroups.Text.Numeral
import ClassGroups.Text.Quoted

/-!
# Command line grammars

A `Grammar` lists the options of a command and says what its other arguments, the operands, are.
`UsageError` lists what can be wrong with arguments, and `UsageError.message` words it.
-/

namespace ClassGroups.Arguments

/-- What the value of an option must be. -/
inductive ValueKind where
  /-- Any text. -/
  | text
  /-- An integer. -/
  | integer
  /-- One of the listed texts. -/
  | choice (choices : List Text)
deriving DecidableEq, Repr

/-- What an option takes. -/
inductive OptionKind where
  /-- Nothing: it asks for help. -/
  | help
  /-- Nothing: it is given or not. -/
  | flag
  /-- One value. -/
  | value (kind : ValueKind)
deriving DecidableEq, Repr

/-- An option of a command. -/
structure OptionSpec where
  /-- The name with its hyphens. -/
  name : Text
  /-- What it takes. -/
  kind : OptionKind
deriving DecidableEq, Repr

/-- What the arguments of a command are that are neither options nor their values. -/
inductive OperandKind where
  /-- There are none. -/
  | absent
  /-- Any number of them, which may be none. -/
  | many
  /-- At least one of them, called by a name. -/
  | some (name : Text)
  /-- The name of a command, called by a name, and all arguments of that command. -/
  | command (name : Text) (commands : List Text)
deriving DecidableEq, Repr

/-- The arguments that a command takes. Each command takes `-h` and `--help` besides. -/
structure Grammar where
  /-- The name of the program, and of the command if it has several. -/
  program : Text
  /-- The options. -/
  options : List OptionSpec
  /-- The options that must be given. -/
  required : List Text := []
  /-- The operands. -/
  operands : OperandKind
deriving DecidableEq, Repr

/-- The spellings of the option that asks for help. -/
def helpNames : List Text := ["-h", "--help"]

/-- All spellings of options, in the order in which they are listed. -/
def Grammar.spellings (g : Grammar) : List OptionSpec :=
  helpNames.map (⟨·, .help⟩) ++ g.options

/-- The value of an option. -/
inductive Value where
  /-- The option is given and takes none. -/
  | given
  /-- A text. -/
  | text (s : Text)
  /-- An integer. -/
  | integer (n : Int)
  /-- The separator stood where the value should, and was taken away. -/
  | dropped
deriving DecidableEq, Repr

/-- What the arguments of a command are. -/
structure Parsed where
  /-- The options with their values, in the order given. -/
  values : List (Text × Value) := []
  /-- The operands, unless there was no place for any. -/
  operands : Option (List Text) := none
  /-- The arguments that the command does not know. -/
  unknown : List Text := []
deriving DecidableEq, Repr

namespace Parsed

/-- The value of an option, which is the last one that was given. -/
def value? (p : Parsed) (name : Text) : Option Value := p.values.reverse.lookup name

/-- The text that an option has as its value. -/
def text? (p : Parsed) (name : Text) : Option Text :=
  match p.value? name with
  | some (.text s) => some s
  | _ => none

/-- The texts that a repeated option has as its values. -/
def texts (p : Parsed) (name : Text) : List Text :=
  p.values.filterMap fun (given, v) =>
    match v with
    | .text s => if given = name then some s else none
    | _ => none

/-- Whether the value of an option was ever taken away. -/
def lacks (p : Parsed) (name : Text) : Bool := p.values.contains (name, .dropped)

/-- Whether an option is given. -/
def has (p : Parsed) (name : Text) : Bool := (p.value? name).isSome

end Parsed

/-- What is wrong with arguments. -/
inductive UsageError where
  /-- An abbreviation fits several options. -/
  | ambiguous (argument : Text) (candidates : List Text)
  /-- The value of an option is no integer. -/
  | notInteger (option raw : Text)
  /-- An argument is not among the choices. -/
  | notChoice (argument raw : Text) (choices : List Text)
  /-- An option lacks its value. -/
  | valueMissing (option : Text)
  /-- An option has a value and takes none. -/
  | valueIgnored (option raw : Text)
  /-- Options or operands are missing. -/
  | missing (names : List Text)
  /-- Arguments are not known. -/
  | unrecognized (arguments : List Text)
deriving DecidableEq, Repr

/-- The fault in words. -/
def UsageError.message : UsageError → Text
  | ambiguous argument candidates =>
    "ambiguous option: " ++ argument ++ " could match " ++ Text.intercalate ", " candidates
  | notInteger option raw =>
    "argument " ++ option ++ ": invalid int value: " ++ Text.quoted raw
  | notChoice argument raw choices =>
    "argument " ++ argument ++ ": invalid choice: " ++ Text.quoted raw ++ " (choose from "
      ++ Text.intercalate ", " (choices.map Text.quoted) ++ ")"
  | valueMissing option => "argument " ++ option ++ ": expected one argument"
  | valueIgnored option raw =>
    "argument " ++ option ++ ": ignored explicit argument " ++ Text.quoted raw
  | missing names =>
    "the following arguments are required: " ++ Text.intercalate ", " names
  | unrecognized arguments =>
    "unrecognized arguments: " ++ Text.intercalate " " arguments

/-- Why the arguments of a command are not used. -/
inductive Stop where
  /-- Help is asked for. -/
  | help (program : Text)
  /-- The arguments are wrong. -/
  | usage (program : Text) (e : UsageError)
deriving DecidableEq, Repr

end ClassGroups.Arguments
