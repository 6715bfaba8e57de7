import ClassGroups.Grouping
import ClassGroups.Options.Settings

/-!
# The gate

Not every class list is worth grouping. The gate leaves a list alone if it is short, if it is
already spread over several lines, or if all its classes belong to one category.
-/

namespace ClassGroups

/-- Why a class list is left alone. -/
inductive GateReason where
  /-- It has fewer tokens than the threshold. -/
  | tooFewTokens
  /-- It holds a newline. -/
  | multiline
  /-- Its tokens belong to one category. -/
  | singleCategory
deriving DecidableEq, Repr

/-- The name of a reason. -/
def GateReason.name : GateReason → Text
  | tooFewTokens => "too-few-tokens"
  | multiline => "multiline"
  | singleCategory => "single-category"

/-- Why a class list is left alone under a threshold, or nothing if it is to be grouped. -/
def gate (threshold : Nat) (s : Text) : Option GateReason :=
  if (tokenize s).length < threshold then some .tooFewTokens
  else if '\n' ∈ s then some .multiline
  else if (group s).length ≤ 1 then some .singleCategory
  else none

/-- The gate under settings that were not checked. A number may lie between two whole ones or be
infinite. -/
def Settings.gate (s : Settings) (text : Text) : Except Misuse (Option GateReason) := do
  match ← s.requiredTokens with
  | some threshold => return ClassGroups.gate threshold text
  | none => return some .tooFewTokens

end ClassGroups
