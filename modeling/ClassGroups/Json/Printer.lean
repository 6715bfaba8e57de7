import ClassGroups.Json.Shown

/-!
# Printing JSON

A value is printed on one line, or with each item and each entry on a line of its own, indented by
a text once for every level of nesting. Only what JSON requires is escaped.
-/

namespace ClassGroups.Json

/-- A character of a string: quotes, backslashes and control characters are escaped. -/
def escapedChar (c : Char) : Text :=
  if c = '"' then "\\\""
  else if c = '\\' then "\\\\"
  else if c = '\n' then "\\n"
  else if c = '\r' then "\\r"
  else if c = '\t' then "\\t"
  else if c = '\x0c' then "\\f"
  else if c = '\x08' then "\\b"
  else if c.toNat < 0x20 then "\\u" ++ Text.hex 4 c.toNat
  else [c]

/-- A string between its quotes. -/
def printText (s : Text) : Text := '"' :: s.flatMap escapedChar ++ ['"']

/-- What stands between a bracket and an item at a level: a line break and the indentation, or
nothing if the value is printed on one line. -/
def lineBreak (indent : Option Text) (level : Nat) : Text :=
  match indent with
  | none => []
  | some s => '\n' :: (List.replicate level s).flatten

/-- Items between brackets, which stand together when there are none. -/
def bracket (indent : Option Text) (level : Nat) (opening closing : Char) (items : List Text) :
    Text :=
  let gap := if indent.isNone then [' '] else lineBreak indent (level + 1)
  if items.isEmpty then [opening, closing]
  else opening :: lineBreak indent (level + 1) ++ Text.intercalate (',' :: gap) items
    ++ lineBreak indent level ++ [closing]

/-- A number. Infinity and what is no number have names. -/
def printDecimal : Decimal → Text
  | .infinite negative => signText negative ++ "Infinity"
  | .undefined => "NaN"
  | d => d.shown

mutual

/-- A value at a level of nesting. -/
def printAt (indent : Option Text) (level : Nat) : Json → Text
  | .null => "null"
  | .bool b => if b then "true" else "false"
  | .int n => Text.ofInt n
  | .decimal d => printDecimal d
  | .text s => printText s
  | .list items => bracket indent level '[' ']' (printItems indent (level + 1) items)
  | .dict entries => bracket indent level '{' '}' (printEntries indent (level + 1) entries)

/-- The items of a list. -/
def printItems (indent : Option Text) (level : Nat) : List Json → List Text
  | [] => []
  | v :: rest => printAt indent level v :: printItems indent level rest

/-- The entries of an object. -/
def printEntries (indent : Option Text) (level : Nat) : List (Text × Json) → List Text
  | [] => []
  | (k, v) :: rest =>
    (printText k ++ ": " ++ printAt indent level v) :: printEntries indent level rest

end

/-- A value with every item and entry on its own line, indented by `indent` for each level. -/
def pretty (indent : Text) (v : Json) : Text := printAt (some indent) 0 v

/-- A value on one line. -/
def compact (v : Json) : Text := printAt none 0 v

end ClassGroups.Json
