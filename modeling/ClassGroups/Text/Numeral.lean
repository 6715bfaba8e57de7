import ClassGroups.Text.Blank
import ClassGroups.Text.Digit

/-!
# Numerals

An integer is written with the decimal digits of any script, an optional sign before them, single
underscores between them, and white space around the whole.
-/

namespace ClassGroups.Text

/-- The longest numeral that is read, in digits. -/
def maxDigits : Nat := 4300

/-- The values of a row of digits, between which single underscores may stand. -/
def digitRow? : Text → Option (List Nat)
  | [] => none
  | [c] => (digitValue? c).map ([·])
  | c :: '_' :: s => do
    let d ← digitValue? c
    let rest ← digitRow? s
    return d :: rest
  | c :: s => do
    let d ← digitValue? c
    let rest ← digitRow? s
    return d :: rest

/-- The number that a row of digits denotes, the most significant digit first. -/
def ofDigits (digits : List Nat) : Nat := digits.foldl (fun n d => 10 * n + d) 0

/-- The number of an unsigned numeral of admitted length. -/
def unsigned? (s : Text) : Option Nat := do
  let digits ← digitRow? s
  guard (digits.length ≤ maxDigits)
  return ofDigits digits

/-- Whether a character may stand around a numeral: white space, but no separator of fields. -/
def isNumeralMargin (c : Char) : Bool := isBlank c && !(0x1c ≤ c.toNat && c.toNat ≤ 0x1f)

/-- The integer that a text denotes, if it is a numeral. -/
def toInt? (s : Text) : Option Int :=
  match ((s.dropWhile isNumeralMargin).reverse.dropWhile isNumeralMargin).reverse with
  | '-' :: s => (unsigned? s).map fun n => -(n : Int)
  | '+' :: s => (unsigned? s).map fun n => (n : Int)
  | s => (unsigned? s).map fun n => (n : Int)

end ClassGroups.Text
