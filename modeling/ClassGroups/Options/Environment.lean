import ClassGroups.Options.Settings
import ClassGroups.Text.Numeral

/-!
# Options from the environment

Variables whose names start with `TW_GROUP_` set the defaults of the options. Values given
otherwise, for instance on a command line, win over them.
-/

namespace ClassGroups

/-- The variables of a process with their values. -/
abbrev Environment := List (Text × Text)

/-- The integer that a variable holds. -/
def readInteger (name raw : Text) : Except ConfigError Int :=
  match Text.toInt? raw with
  | some n => .ok n
  | none => .error (.variableNotInteger name raw)

/-- The truth value that a variable holds, in any case and with white space around it. -/
def readBoolean (name raw : Text) : Except ConfigError Bool :=
  let key := (Text.trim raw).lower
  if key = "true".toList then .ok true
  else if key = "false".toList then .ok false
  else .error (.variableNotBoolean name raw)

namespace Environment

/-- The value of a variable, or a default if it is not set. -/
def getD (env : Environment) (name fallback : Text) : Text := (env.lookup name).getD fallback

/-- The fields that the variables set. A number or truth value that cannot be read is an error even
if an override would replace it. -/
def fields (env : Environment) : Except ConfigError (List (Text × Json)) := do
  let minTokens ← readInteger "TW_GROUP_MIN_TOKENS" (env.getD "TW_GROUP_MIN_TOKENS" "4")
  let comments ←
    readBoolean "TW_GROUP_INCLUDE_COMMENTS" (env.getD "TW_GROUP_INCLUDE_COMMENTS" "true")
  return [
    ("format", .text (env.getD "TW_GROUP_FORMAT" "clsx")),
    ("min_tokens", .int minTokens),
    ("include_comments", .bool comments),
    ("indent", .text (env.getD "TW_GROUP_INDENT" "  ")),
    ("callee", .text (env.getD "TW_GROUP_CALLEE" "clsx"))]

/-- The fields with an override put in: in its place if the field is there and at the end if not. A
missing value overrides nothing. -/
def override (fields : List (Text × Json)) (change : Text × Json) : List (Text × Json) :=
  match change with
  | (_, .null) => fields
  | (name, v) =>
    if fields.any (·.1 == name) then
      fields.map fun (field, old) => if field = name then (field, v) else (field, old)
    else fields ++ [(name, v)]

/-- The settings that the variables and the overrides describe. -/
def settings (env : Environment) (overrides : List (Text × Json)) :
    Except SettingsError Settings := do
  Setter.fromEnvironment.admit overrides
  let fields ← (env.fields : Except ConfigError _)
  Settings.create (overrides.foldl override fields)

end Environment

end ClassGroups
