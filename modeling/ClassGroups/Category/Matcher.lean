import ClassGroups.Text.Word

/-!
# Matchers

A matcher says which subjects belong to a category. A utility matcher looks at a plain class, a
variant matcher at the variant before a colon, and each kind ignores the subjects of the other.
-/

namespace ClassGroups

/-- A family of variants with a part that can be chosen freely. -/
inductive VariantFamily where
  /-- The state of a marked parent or sibling: `group-` or `peer-` and a selector. -/
  | relational
  /-- An arbitrary width: `min-` or `max-` and a length in square brackets. -/
  | bracketed
deriving DecidableEq, Repr

/-- A test on a plain class or on a variant. -/
inductive Matcher where
  /-- Classes made of a listed stem, a hyphen and a suffix; with `bare` the stem alone counts too.
  -/
  | stems (names : List String) (bare : Bool)
  /-- The listed classes. -/
  | words (names : List String)
  /-- The listed variants and those of a family. -/
  | variants (names : List String) (family : Option VariantFamily)
deriving DecidableEq, Repr

/-- What is left of a text after a given beginning, if it begins so. -/
def Text.after? (beginning s : Text) : Option Text := beginning.isPrefixOf? s

/-- A suffix is at least one character long and stays on one line. -/
def isSuffix (s : Text) : Bool := !s.isEmpty && s.all (· != '\n')

/-- Whether a class is a stem, a hyphen and a suffix. -/
def hasStem (name : String) (s : Text) : Bool :=
  (Text.after? (name.toList ++ ['-']) s).any isSuffix

/-- Whether a character may stand in the selector after `group-` or `peer-`. -/
def isSelectorChar (c : Char) : Bool :=
  isWord c || c == '-' || c == '[' || c == ']' || c == '/' || c == '=' || c == '.'

/-- Whether a text is a nonempty selector. -/
def isSelector (s : Text) : Bool := !s.isEmpty && s.all isSelectorChar

/-- Whether a text is something nonempty followed by its only closing bracket. -/
def isBracketBody (s : Text) : Bool :=
  match s.span (· != ']') with
  | (_ :: _, [_]) => true
  | _ => false

/-- Whether a variant belongs to a family. -/
def VariantFamily.contains : VariantFamily → Text → Bool
  | .relational, s =>
    (Text.after? "group-" s).any isSelector || (Text.after? "peer-" s).any isSelector
  | .bracketed, s =>
    (Text.after? "min-[" s).any isBracketBody || (Text.after? "max-[" s).any isBracketBody

namespace Matcher

/-- Whether the matcher looks at variants. -/
def forVariants : Matcher → Bool
  | variants .. => true
  | _ => false

/-- Whether the matcher accepts a subject. -/
def accepts : Matcher → Text → Bool
  | stems names bare, s => names.any fun n => hasStem n s || (bare && n.toList == s)
  | words names, s => names.any (·.toList == s)
  | variants names family, s => names.any (·.toList == s) || family.any (·.contains s)

end Matcher

end ClassGroups
