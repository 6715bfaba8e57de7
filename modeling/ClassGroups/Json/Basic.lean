import ClassGroups.Text.Basic

/-!
# JSON values

The values that a JSON text can hold. Integers and decimal fractions are kept apart, so `4` and
`4.0` are different values, and an object keeps its entries in the order in which they were written.
-/

namespace ClassGroups

/-- A number that is not written as a whole number. -/
inductive Decimal where
  /-- A number with a point or an exponent: plus or minus `coefficient * 10 ^ exponent`. -/
  | finite (negative : Bool) (coefficient : Nat) (exponent : Int)
  /-- Plus or minus infinity. -/
  | infinite (negative : Bool)
  /-- What is no number, although it counts as one. -/
  | undefined
deriving DecidableEq, Repr

/-- The least integer that is not below plus or minus `coefficient * 10 ^ exponent`. -/
def Decimal.ceil (negative : Bool) (coefficient : Nat) (exponent : Int) : Int :=
  let signed : Int := if negative then -coefficient else coefficient
  if 0 ≤ exponent then signed * Nat.pow 10 exponent.toNat
  else -(-signed / Nat.pow 10 (-exponent).toNat)

/-- The least count that is not below the number, if there is one. Nothing is below what is no
number. -/
def Decimal.leastCount? : Decimal → Option Nat
  | finite negative coefficient exponent => some (ceil negative coefficient exponent).toNat
  | infinite negative => if negative then some 0 else none
  | undefined => some 0

/-- Whether the number is zero. -/
def Decimal.isZero : Decimal → Bool
  | finite _ coefficient _ => coefficient == 0
  | _ => false

/-- A JSON value. -/
inductive Json where
  /-- The missing value. -/
  | null
  /-- A truth value. -/
  | bool (b : Bool)
  /-- A whole number. -/
  | int (n : Int)
  /-- A number written with a point or an exponent. -/
  | decimal (d : Decimal)
  /-- A string. -/
  | text (s : Text)
  /-- A list of values. -/
  | list (items : List Json)
  /-- An object, entry by entry. -/
  | dict (entries : List (Text × Json))
deriving Inhabited

/-- The kinds of values. -/
inductive Json.Kind where
  /-- The kind of the missing value. -/
  | null
  /-- Truth values. -/
  | bool
  /-- Whole numbers. -/
  | int
  /-- Other numbers. -/
  | decimal
  /-- Strings. -/
  | text
  /-- Lists. -/
  | list
  /-- Objects. -/
  | dict
deriving DecidableEq, Repr

/-- The kind of a value. -/
def Json.kind : Json → Kind
  | .null => .null
  | .bool _ => .bool
  | .int _ => .int
  | .decimal _ => .decimal
  | .text _ => .text
  | .list _ => .list
  | .dict _ => .dict

/-- Whether a value counts as true where a truth value is wanted: the missing value, zero and
everything empty count as false. -/
def Json.truthy : Json → Bool
  | .null => false
  | .bool b => b
  | .int n => n != 0
  | .decimal d => !d.isZero
  | .text s => !s.isEmpty
  | .list items => !items.isEmpty
  | .dict entries => !entries.isEmpty

end ClassGroups
