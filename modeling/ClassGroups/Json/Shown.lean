import ClassGroups.Json.Basic
import ClassGroups.Text.Quoted

/-!
# Values in messages

How a message shows the value that it complains about. The missing value and the truth values are
`None`, `True` and `False`; texts stand in quotes.
-/

namespace ClassGroups

/-- The digits of a positive number without the zeros at its end, and the place of the point: the
number is `0.d₁d₂…` times ten to that place. -/
def Decimal.digits (coefficient : Nat) (exponent : Int) : Text × Int :=
  let all := Text.ofNat coefficient
  ((all.reverse.dropWhile (· == '0')).reverse, all.length + exponent)

/-- A number without its sign, in positional notation if its first digit stands at most sixteen
places before the point or four behind it, and otherwise with an exponent of at least two digits. -/
def Decimal.unsigned (coefficient : Nat) (exponent : Int) : Text :=
  if coefficient = 0 then "0.0"
  else
    let (digits, point) := digits coefficient exponent
    let zeros (n : Int) : Text := List.replicate n.toNat '0'
    if -4 < point ∧ point ≤ 0 then "0." ++ zeros (-point) ++ digits
    else if 0 < point ∧ point ≤ 16 then
      let whole := digits.take point.toNat
      let fraction := digits.drop point.toNat
      whole ++ zeros (point - digits.length) ++ "."
        ++ (if fraction.isEmpty then ['0'] else fraction)
    else
      let fraction := digits.drop 1
      let power := Text.ofNat (point - 1).natAbs
      digits.take 1 ++ (if fraction.isEmpty then [] else '.' :: fraction) ++ "e"
        ++ (if point - 1 < 0 then "-" else "+") ++ List.replicate (2 - power.length) '0' ++ power

/-- The sign of a number. -/
def signText (negative : Bool) : Text := if negative then "-" else ""

/-- The number as a message shows it. -/
def Decimal.shown : Decimal → Text
  | finite negative coefficient exponent => signText negative ++ unsigned coefficient exponent
  | infinite negative => signText negative ++ "inf"
  | undefined => "nan"

namespace Json

mutual

/-- The value as a message shows it. -/
def shown : Json → Text
  | .null => "None"
  | .bool b => if b then "True" else "False"
  | .int n => Text.ofInt n
  | .decimal d => d.shown
  | .text s => Text.quoted s
  | .list items => '[' :: Text.intercalate ", " (shownItems items) ++ "]"
  | .dict entries => '{' :: Text.intercalate ", " (shownEntries entries) ++ ['}']

/-- The values of a list as a message shows them. -/
def shownItems : List Json → List Text
  | [] => []
  | v :: rest => shown v :: shownItems rest

/-- The entries of an object as a message shows them. -/
def shownEntries : List (Text × Json) → List Text
  | [] => []
  | (k, v) :: rest => (Text.quoted k ++ ": " ++ shown v) :: shownEntries rest

end

/-- The kind as a message names it. -/
def Kind.name : Kind → Text
  | null => "NoneType"
  | bool => "bool"
  | int => "int"
  | decimal => "float"
  | text => "str"
  | list => "list"
  | dict => "dict"

/-- The value as plain text: a text as it is, anything else as a message shows it. -/
def plain : Json → Text
  | .text s => s
  | v => shown v

end Json

end ClassGroups
