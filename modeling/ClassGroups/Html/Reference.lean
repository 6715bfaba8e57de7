import ClassGroups.Html.Error
import ClassGroups.Html.ReferenceNames
import ClassGroups.Json.Reader

/-!
# Character references

A reference in an attribute stands for a character, which it gives by name or by number. An
ampersand that starts no reference stands for itself.
-/

namespace ClassGroups.Html

/-- The characters that numbers from 0x80 on stand for, as in the code page 1252; zeros mark numbers
that keep their own character. -/
def c1Characters : List Nat := [
  0x20ac, 0, 0x201a, 0x192, 0x201e, 0x2026, 0x2020, 0x2021, 0x2c6, 0x2030, 0x160, 0x2039, 0x152, 0,
  0x17d, 0, 0, 0x2018, 0x2019, 0x201c, 0x201d, 0x2022, 0x2013, 0x2014, 0x2dc, 0x2122, 0x161, 0x203a,
  0x153, 0, 0x17e, 0x178]

/-- Whether a number stands for nothing: control characters and code points that are set aside. -/
def isVoidNumber (n : Nat) : Bool :=
  (1 ≤ n && n ≤ 8) || n == 0xb || (0xe ≤ n && n ≤ 0x1f) || n == 0x7f || (0xfdd0 ≤ n && n ≤ 0xfdef)
    || n % 0x10000 == 0xfffe || n % 0x10000 == 0xffff

/-- What a number stands for. The replacement character stands in for zero, surrogates and numbers
that are too large. -/
def ofNumber (n : Nat) : Text :=
  if n = 0 ∨ (0xd800 ≤ n ∧ n ≤ 0xdfff) ∨ 0x10ffff < n then ['\ufffd']
  else if 0x80 ≤ n ∧ n ≤ 0x9f then
    match c1Characters[n - 0x80]? with
    | some m => [Char.ofNat (if m = 0 then n else m)]
    | none => []
  else if isVoidNumber n then []
  else [Char.ofNat n]

/-- A reference that was read: what it stands for and how many characters after the ampersand belong
to it. -/
abbrev Decoded := Text × Nat

/-- The length of a reference with the semicolon that may end it. -/
def withSemicolon (length : Nat) (rest : Text) : Nat :=
  if rest.head? = some ';' then length + 1 else length

/-- A reference by number, after its number sign. -/
def numbered? (s : Text) : Except MarkupError (Option Decoded) :=
  match s with
  | [] => .ok none
  | c :: t =>
    if c = 'x' ∨ c = 'X' then
      let digits := t.takeWhile (Json.hexValue? · |>.isSome)
      let n := digits.foldl (fun n c => 16 * n + (Json.hexValue? c).getD 0) 0
      if digits.isEmpty then .ok none
      else .ok (some (ofNumber n, withSemicolon (digits.length + 2) (t.drop digits.length)))
    else do
      let digits := s.takeWhile Char.isDigit
      admitDigits digits
      let n := Json.digitsValue digits
      if digits.isEmpty then return none
      else return some (ofNumber n, withSemicolon (digits.length + 1) (s.drop digits.length))

/-- Whether a character may stand in the name of a reference. -/
def isReferenceChar (c : Char) : Bool :=
  !(c == '\t' || c == '\n' || c == '\x0c' || c == ' ' || c == '<' || c == '&' || c == '#'
    || c == ';')

/-- What a name stands for. -/
def ofName? (name : Text) : Option Text :=
  (referenceNames.lookup (String.ofList name)).map (·.map Char.ofNat)

/-- The longest of the names that need no semicolon with which a text starts, at most `length`
characters long. -/
def unterminated? (s : Text) : Nat → Option Decoded
  | 0 => none
  | length + 1 =>
    let name := s.take (length + 1)
    if unterminatedNames.contains (String.ofList name) then
      (ofName? name).map fun value => (value, length + 1)
    else unterminated? s length

/-- A reference by name. -/
def named? (s : Text) : Option Decoded :=
  let name := (s.takeWhile isReferenceChar).take 32
  let whole :=
    if (s.drop name.length).head? = some ';' then
      (ofName? name).map fun value => (value, name.length + 1)
    else none
  match whole with
  | some d => some d
  | none => unterminated? s name.length

/-- The reference after an ampersand, if there is one. -/
def reference? : Text → Except MarkupError (Option Decoded)
  | '#' :: s => numbered? s
  | s => .ok (named? s)

/-- The text with its references replaced by what they stand for, after some characters that belong
to a reference already replaced. -/
def decodeFrom : Nat → Text → Except MarkupError Text
  | _, [] => .ok []
  | skipped + 1, _ :: s => decodeFrom skipped s
  | 0, c :: s => do
    match ← if c = '&' then reference? s else .ok none with
    | some (value, length) => return value ++ (← decodeFrom length s)
    | none => return c :: (← decodeFrom 0 s)

/-- The text with its references replaced by what they stand for. -/
def decode (s : Text) : Except MarkupError Text := decodeFrom 0 s

end ClassGroups.Html
