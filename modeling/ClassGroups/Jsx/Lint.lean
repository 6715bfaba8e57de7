import ClassGroups.Formatting
import ClassGroups.Jsx.Literal

/-!
# Linting and fixing a source

A finding is a class list of the source that would be regrouped, together with its replacement. A
fix puts all replacements in. The replacement continues the indentation of the line in which it
starts.
-/

namespace ClassGroups.Jsx

/-- A class list that would be regrouped. -/
structure Finding where
  /-- The shape in which it stands. -/
  kind : LiteralKind
  /-- The line where the part to be replaced starts. -/
  line : Nat
  /-- The column where the part to be replaced starts. -/
  column : Nat
  /-- The place where the part to be replaced starts. -/
  start : Nat
  /-- The place where the part to be replaced ends. -/
  stop : Nat
  /-- What is put there. -/
  replacement : Text
deriving DecidableEq, Repr

/-- What a report says about a finding. -/
def LiteralKind.message : LiteralKind → Text
  | attributeValue => "Tailwind classes should be grouped by category"
  | helperCall => "Tailwind classes in clsx should be grouped by category"

/-- The expression that replaces a class list: a list of strings is joined at run time, and the
value of an attribute needs braces. -/
def wrap (kind : LiteralKind) (format : OutputFormat) (rendered : Text) : Text :=
  let expression := if format = .array then rendered ++ ".join(\" \")" else rendered
  match kind with
  | .attributeValue => '{' :: expression ++ ['}']
  | .helperCall => expression

/-- What becomes of each class list of a source, formatted for its place. -/
def inspect (o : Options) (attributes : List Text) (source : Text) :
    Except ConfigError (List (ClassLiteral × Formatted)) :=
  (literals attributes o.callee source).mapM fun literal => do
    let placed ← o.rebase (lineIndent source literal.start)
    return (literal, format placed literal.value)

/-- The finding for a class list, if it would be regrouped. -/
def finding? (o : Options) (source : Text) (literal : ClassLiteral) : Formatted → Option Finding
  | .kept .. => none
  | .regrouped _ rendered => some {
      kind := literal.kind
      line := line source literal.start
      column := column source literal.start
      start := literal.start
      stop := literal.stop
      replacement := wrap literal.kind o.format rendered }

/-- The findings among inspected class lists. -/
def findingsOf (o : Options) (source : Text) (inspected : List (ClassLiteral × Formatted)) :
    List Finding :=
  inspected.filterMap fun (literal, formatted) => finding? o source literal formatted

/-- The findings of a source, in its order. -/
def lint (o : Options) (attributes : List Text) (source : Text) :
    Except ConfigError (List Finding) := do
  o.requireSpliceable
  let inspected ← inspect o attributes source
  return findingsOf o source inspected

/-- The text with the part of a finding replaced. -/
def splice (text : Text) (f : Finding) : Text :=
  text.take f.start ++ f.replacement ++ text.drop f.stop

/-- The source with the parts of all findings replaced, from the last to the first, so that the
places of those still to come are not moved. -/
def applyFindings (source : Text) (findings : List Finding) : Text :=
  (findings.mergeSort fun a b => b.start ≤ a.start).foldl splice source

/-- The fixed source and the number of its findings. -/
def fix (o : Options) (attributes : List Text) (source : Text) :
    Except ConfigError (Text × Nat) := do
  let findings ← lint o attributes source
  return (applyFindings source findings, findings.length)

end ClassGroups.Jsx

namespace ClassGroups.Settings

/-- The findings of a source under settings, which are checked first. -/
def lint (s : Settings) (attributes : List Text) (source : Text) :
    Except ConfigError (List Jsx.Finding) := do
  let o ← s.check
  Jsx.lint o attributes source

/-- The fixed source and the number of its findings under settings, which are checked first. -/
def fix (s : Settings) (attributes : List Text) (source : Text) :
    Except ConfigError (Text × Nat) := do
  let o ← s.check
  Jsx.fix o attributes source

end ClassGroups.Settings
