import ClassGroups.Json.Shown

/-!
# Output formats and what can be wrong with options

`OutputFormat` names the four shapes of output. `ConfigError` lists the reasons for which options
are refused, and `ConfigError.message` words them.
-/

namespace ClassGroups

/-- The shape in which a grouping is written. -/
inductive OutputFormat where
  /-- A call of a class helper with one string for each group. -/
  | clsx
  /-- A list of strings, one for each group. -/
  | array
  /-- A template literal with one line for each group. -/
  | template
  /-- A JSON object from category names to lists of classes. -/
  | mapping
deriving DecidableEq, Repr

namespace OutputFormat

/-- The formats in the order in which they are offered. -/
def all : List OutputFormat := [clsx, array, template, mapping]

/-- The name of a format. -/
def name : OutputFormat → Text
  | clsx => "clsx"
  | array => "array"
  | template => "template"
  | mapping => "mapping"

/-- The other names under which a format is known. -/
def ofAlias? (s : Text) : Option OutputFormat :=
  if s = "object".toList ∨ s = "raw".toList ∨ s = "json".toList then some mapping
  else if s = "templateliteral".toList then some template
  else none

/-- The format with a name or other name. -/
def ofName? (s : Text) : Option OutputFormat :=
  match ofAlias? s with
  | some f => some f
  | none => all.find? (·.name == s)

/-- Whether the format is an expression that can stand in a JSX attribute. -/
def spliceable : OutputFormat → Bool
  | clsx | array => true
  | template | mapping => false

end OutputFormat

/-- Why options are refused. -/
inductive ConfigError where
  /-- The value names no format. -/
  | unknownFormat (value : Json)
  /-- The value stands where a format must have been chosen. -/
  | formatNotChosen (value : Json)
  /-- The value stands where a format must have been chosen, at the time of rendering. -/
  | formatNotRenderable (value : Json)
  /-- The least number of tokens is no whole number. -/
  | thresholdNotInteger (value : Json)
  /-- The least number of tokens is not positive. -/
  | thresholdTooSmall (value : Int)
  /-- An indentation is no text. -/
  | indentNotText
  /-- An indentation holds something other than white space. -/
  | indentNotBlank
  /-- The helper's name is no identifier. -/
  | calleeNotIdentifier (value : Json)
  /-- The format cannot stand in a JSX attribute. -/
  | notSpliceable (format : OutputFormat)
  /-- The variable must hold an integer. -/
  | variableNotInteger (variableName raw : Text)
  /-- The variable must hold a truth value. -/
  | variableNotBoolean (variableName raw : Text)

/-- The reason in words. -/
def ConfigError.message : ConfigError → Text
  | unknownFormat v =>
    "unsupported format " ++ v.shown ++ " (choose from "
      ++ Text.intercalate ", " (OutputFormat.all.map (·.name)) ++ ")"
  | formatNotChosen v => "format must be an OutputFormat, got " ++ v.shown
  | formatNotRenderable v => "unsupported format " ++ v.shown
  | thresholdNotInteger v => "min_tokens must be an integer, got " ++ v.shown
  | thresholdTooSmall n => "min_tokens must be >= 1, got " ++ Text.ofInt n
  | indentNotText => "indent and base_indent must be strings"
  | indentNotBlank => "indent and base_indent may only contain whitespace"
  | calleeNotIdentifier v => "callee must be an identifier, got " ++ v.shown
  | notSpliceable f =>
    "format " ++ Text.quoted f.name ++ " cannot be spliced into JSX (use clsx or array)"
  | variableNotInteger name raw => name ++ " must be an integer, got " ++ Text.quoted raw
  | variableNotBoolean name raw => name ++ " must be true or false, got " ++ Text.quoted raw

end ClassGroups
