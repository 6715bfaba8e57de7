import ClassGroups.Options.Basic
import ClassGroups.Options.Misuse
import ClassGroups.Text.LowerCase

/-!
# Settings

Settings are options as they arrive: each field may hold any value. `Settings.check` turns
admissible settings into `Options` and names the first fault of others; `Settings.create` and
`Settings.revise` set fields by name and check the result. A `Setter` is one of the ways to name
fields.
-/

namespace ClassGroups

/-- The field for the format: a format that was chosen, or a value that was put there unread. -/
inductive FormatSetting where
  /-- A format. -/
  | chosen (format : OutputFormat)
  /-- Any value. -/
  | unread (value : Json)

/-- Options before they are checked. -/
structure Settings where
  /-- The shape of the output. -/
  format : FormatSetting := .chosen .clsx
  /-- The least number of tokens of a class list that is grouped. -/
  minTokens : Json := .int 4
  /-- Whether groups have headings; any value counts as true or false. -/
  includeComments : Json := .bool true
  /-- The indentation of the lines inside the brackets. -/
  indent : Json := .text "  "
  /-- The indentation of every line after the first. -/
  baseIndent : Json := .text ""
  /-- The name of the class helper. -/
  callee : Json := .text "clsx"

/-- A way to set fields by name. Each has a parameter of its own, after which no field can be named.
-/
inductive Setter where
  /-- Settings are made without a check. -/
  | make
  /-- Settings are made and checked. -/
  | create
  /-- Given settings are changed and checked. -/
  | revise
  /-- Settings are made from an environment. -/
  | fromEnvironment
deriving DecidableEq, Repr

namespace Setter

/-- How a message calls the way. -/
def title : Setter → Text
  | make => "RenderOptions.__init__()"
  | create => "RenderOptions.create()"
  | revise => "RenderOptions.with_()"
  | fromEnvironment => "options_from_env()"

/-- The name of its parameter. -/
def reserved : Setter → Text
  | make | revise => "self"
  | create => "cls"
  | fromEnvironment => "environ"

end Setter

/-- Why fields cannot be set or used. -/
inductive SettingsError where
  /-- A value is not admissible. -/
  | config (e : ConfigError)
  /-- There is no field of this name. -/
  | unknownField (fieldName : Text)
  /-- The name is not free. -/
  | reservedField (setter : Setter)
  /-- A value that was not checked cannot be used. -/
  | misuse (m : Misuse)

/-- The reason in words. -/
def SettingsError.message : SettingsError → Text
  | config e => e.message
  | unknownField name =>
    Setter.make.title ++ " got an unexpected keyword argument '" ++ name ++ "'"
  | reservedField setter =>
    setter.title ++ " got multiple values for argument '" ++ setter.reserved ++ "'"
  | misuse m => m.message

instance : MonadLift (Except ConfigError) (Except SettingsError) where
  monadLift
    | .ok a => .ok a
    | .error e => .error (.config e)

instance : MonadLift (Except Misuse) (Except SettingsError) where
  monadLift
    | .ok a => .ok a
    | .error m => .error (.misuse m)

/-- Refuses fields among which one has the reserved name. -/
def Setter.admit (setter : Setter) (fields : List (Text × Json)) : Except SettingsError Unit :=
  if fields.any (·.1 == setter.reserved) then .error (.reservedField setter) else .ok ()

/-- The format that a value names, in any case and with white space around it. -/
def OutputFormat.parse (v : Json) : Except ConfigError OutputFormat :=
  let key : Text :=
    match v with
    | .null => []
    | v => (Text.trim v.plain).lower
  match ofName? key with
  | some f => .ok f
  | none => .error (.unknownFormat v)

namespace Settings

/-- The settings with the field of a name holding a value, if there is such a field. -/
def set? (s : Settings) (field : Text) (v : Json) : Option Settings :=
  if field = "format".toList then some { s with format := .unread v }
  else if field = "min_tokens".toList then some { s with minTokens := v }
  else if field = "include_comments".toList then some { s with includeComments := v }
  else if field = "indent".toList then some { s with indent := v }
  else if field = "base_indent".toList then some { s with baseIndent := v }
  else if field = "callee".toList then some { s with callee := v }
  else none

/-- The settings with several fields set, unless one of them does not exist or has the reserved
name; the first such one counts. -/
def setAll : Settings → List (Text × Json) → Except SettingsError Settings
  | s, [] => .ok s
  | s, (field, v) :: rest =>
    match s.set? field v with
    | some s => s.setAll rest
    | none =>
      .error (if field = Setter.make.reserved then .reservedField .make else .unknownField field)

/-- The format, once it has been chosen. -/
def format? (s : Settings) : Except ConfigError OutputFormat :=
  match s.format with
  | .chosen f => .ok f
  | .unread v => .error (.formatNotChosen v)

/-- The least number of tokens as a whole number. Truth values are not numbers. -/
def threshold? (s : Settings) : Except ConfigError Int :=
  match s.minTokens with
  | .int n => .ok n
  | v => .error (.thresholdNotInteger v)

/-- The two indentations as texts. -/
def indents? (s : Settings) : Except ConfigError (Text × Text) :=
  match s.indent, s.baseIndent with
  | .text i, .text b => .ok (i, b)
  | _, _ => .error .indentNotText

/-- The name of the helper as a text. -/
def callee? (s : Settings) : Except ConfigError Text :=
  match s.callee with
  | .text c => .ok c
  | v => .error (.calleeNotIdentifier v)

/-- The options that admissible settings describe, and the first fault of others: format, threshold,
indentations and helper are looked at in this order. -/
def check (s : Settings) : Except ConfigError Options := do
  let format ← s.format?
  let threshold ← s.threshold?
  if hm : 0 < threshold.toNat then
    let (indent, baseIndent) ← s.indents?
    if hi : Text.Blank indent ∧ Text.Blank baseIndent then
      let callee ← s.callee?
      if hc : isIdentifier callee then
        return {
          format, comments := s.includeComments.truthy, indent, baseIndent, callee
          minTokens := threshold.toNat
          minTokens_pos := hm
          indent_blank := hi.1
          baseIndent_blank := hi.2
          callee_identifier := hc }
      else .error (.calleeNotIdentifier s.callee)
    else .error .indentNotBlank
  else .error (.thresholdTooSmall threshold)

/-- The settings with fields set by name and checked. A value for the format must name one, which is
found out before anything else. -/
def assign (s : Settings) (changes : List (Text × Json)) : Except SettingsError Settings := do
  let format ←
    match changes.lookup "format".toList with
    | some v => FormatSetting.chosen <$> (OutputFormat.parse v : Except ConfigError _)
    | none => pure s.format
  let s ← s.setAll changes
  let s := { s with format }
  let _ ← s.check
  return s

/-- Settings with some fields given by name and the others at their defaults. -/
def create (fields : List (Text × Json)) : Except SettingsError Settings := do
  Setter.create.admit fields
  assign {} fields

/-- The settings with some fields changed. -/
def revise (s : Settings) (changes : List (Text × Json)) : Except SettingsError Settings := do
  Setter.revise.admit changes
  s.assign changes

/-- The number of tokens below which nothing is grouped, for settings that were not checked. There
is none if no class list is long enough. -/
def requiredTokens (s : Settings) : Except Misuse (Option Nat) := leastCount? s.minTokens

end Settings

end ClassGroups
