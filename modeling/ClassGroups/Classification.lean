import ClassGroups.Category.Table

/-!
# Classification of one class

A class such as `hover:bg-blue-600` carries a variant before its first colon outside square
brackets. The variant alone decides the category of such a class. A class without a variant is
looked up after its important mark and its minus sign are taken off.
-/

namespace ClassGroups

/-- The text cut at its first colon at a bracket depth of zero. The depth is that at the start of
the text, and a closing bracket without an opening one leaves it at zero. A colon counts only if
something stands before it, which `started` says of the start of the text. -/
def variantCut? : Bool → Nat → Text → Option (Text × Text)
  | _, _, [] => none
  | started, depth, c :: s =>
    let onward (depth : Nat) := (variantCut? true depth s).map fun (v, r) => (c :: v, r)
    if c = '[' then onward (depth + 1)
    else if c = ']' then onward (depth - 1)
    else if c = ':' ∧ depth = 0 ∧ started = true then some ([], s)
    else onward depth

/-- The variant of a class, if it has one, and the class after it. -/
def splitVariant (token : Text) : Option Text × Text :=
  match variantCut? false 0 token with
  | some (variant, rest) => (some variant, rest)
  | none => (none, token)

/-- The class without one important mark and one minus sign at its start. -/
def bare (token : Text) : Text := dropSign '-' (dropSign '!' token)
where
  /-- The text without a given first character. -/
  dropSign (sign : Char) : Text → Text
    | c :: s => if c = sign then s else c :: s
    | [] => []

/-- Whether a rule has a matcher of the wanted kind that accepts the subject. -/
def CategoryRule.claims (rule : CategoryRule) (ofVariant : Bool) (subject : Text) : Bool :=
  rule.matchers.any fun m => m.forVariants == ofVariant && m.accepts subject

/-- The category of the first rule that claims the subject. -/
def lookUp (ofVariant : Bool) (subject : Text) : Category :=
  ((categoryTable.find? (·.claims ofVariant subject)).map (·.category)).getD .other

/-- The category of a class. -/
def classify (token : Text) : Category :=
  match (splitVariant token).1 with
  | some variant => lookUp true variant
  | none => lookUp false (bare token)

end ClassGroups
