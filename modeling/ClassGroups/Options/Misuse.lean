import ClassGroups.Json.Shown

/-!
# Misuse of values

Settings that were not checked may hold values of any kind, and whether a value will do shows only
when it is used. `Misuse` lists the ways in which a use fails, and `Misuse.message` words them.
-/

namespace ClassGroups

open Json (Kind)

/-- How the use of a value fails. -/
inductive Misuse where
  /-- Something is looked up under a value of a kind that cannot be a key. -/
  | notKey (kind : Kind)
  /-- Values are added whose kinds have no sum. -/
  | notAddable (left right : Kind)
  /-- A whole number is added to another number and is too large for that. -/
  | summandTooLarge
  /-- A text is to be repeated, and the number of times is no whole number. -/
  | notCount (kind : Kind)
  /-- A text is to be repeated more often than can be counted. -/
  | countTooLarge
  /-- A text would take more room than there is. -/
  | noRoom
  /-- A whole number is compared with a value that is no number. -/
  | notComparable (kind : Kind)
deriving DecidableEq, Repr

/-- The failure in words. Texts and lists are said to be concatenated. -/
def Misuse.message : Misuse → Text
  | notKey kind => "unhashable type: '" ++ kind.name ++ "'"
  | notAddable left right =>
    if left = .text ∨ left = .list then
      "can only concatenate " ++ left.name ++ " (not \"" ++ right.name ++ "\") to " ++ left.name
    else "unsupported operand type(s) for +: '" ++ left.name ++ "' and '" ++ right.name ++ "'"
  | summandTooLarge => "int too large to convert to float"
  | notCount kind => "can't multiply sequence by non-int of type '" ++ kind.name ++ "'"
  | countTooLarge => "cannot fit 'int' into an index-sized integer"
  | noRoom => ""
  | notComparable kind =>
    "'<' not supported between instances of 'int' and '" ++ kind.name ++ "'"

namespace Json

/-- Whether values of a kind count as numbers. Truth values do. -/
def Kind.isNumeric : Kind → Bool
  | .bool | .int | .decimal => true
  | _ => false

/-- The kind of the sum of two values, if values of these kinds can be added. -/
def Kind.sum? (left right : Kind) : Option Kind :=
  if left.isNumeric && right.isNumeric then
    some (if left = .decimal ∨ right = .decimal then .decimal else .int)
  else if left = right ∧ (left = .text ∨ left = .list) then some left
  else none

/-- Whether values of a kind can be keys. -/
def Kind.isKey : Kind → Bool
  | .list | .dict => false
  | _ => true

end Json

/-- The least whole number that is too large to be added to a number that is none. -/
def minLargeSummand : Nat := Nat.pow 2 1024 - Nat.pow 2 970

/-- Whether a value is a whole number that is too large to be added to one that is none. -/
def Json.isLargeSummand : Json → Bool
  | .int n => minLargeSummand ≤ n.natAbs
  | _ => false

/-- How a sum of three values fails of which the last is a text. -/
def Misuse.ofSum (first second : Json) : Misuse :=
  match first.kind.sum? second.kind with
  | some .decimal =>
    if first.isLargeSummand || second.isLargeSummand then .summandTooLarge
    else .notAddable .decimal .text
  | some kind => .notAddable kind .text
  | none => .notAddable first.kind second.kind

/-- The greatest number that a count can be. -/
def maxCount : Int := 9223372036854775807

/-- The length from which on there is no room for a text. -/
def maxLength : Int := 1099511627776

/-- A number of spaces. There are none if the number is negative. -/
def spaces (n : Int) : Except Misuse Text :=
  if n < -maxCount - 1 ∨ maxCount < n then .error .countTooLarge
  else if maxLength ≤ n then .error .noRoom
  else .ok (List.replicate n.toNat ' ')

/-- The least count that is not below a value, if there is one; the value must be a number. -/
def leastCount? : Json → Except Misuse (Option Nat)
  | .bool b => .ok (some b.toNat)
  | .int n => .ok (some n.toNat)
  | .decimal d => .ok d.leastCount?
  | v => .error (.notComparable v.kind)

end ClassGroups
