/-!
# Texts

A text is the list of its characters, so that a scanner is a recursion on the list and an offset is
a number of characters. String literals are read as texts.
-/

namespace ClassGroups

/-- A text, character by character. -/
abbrev Text := List Char

instance : Coe String Text := ⟨String.toList⟩

namespace Text

/-- The newline, which ends a line. -/
def newline : Text := ['\n']

/-- The lines of a text, one more than it has newlines; the last one may be empty. -/
def lines (s : Text) : List Text := s.splitOn '\n'

/-- The lines of a stream: each ends with a newline, except that the last may lack it. -/
def streamLines (s : Text) : List Text :=
  let all := lines s
  if all.getLast? = some [] then all.dropLast else all

/-- The lines each followed by a newline. -/
def unlines (l : List Text) : Text := (l.map (· ++ newline)).flatten

/-- The texts one after the other, with a separator between neighbours. -/
def intercalate (separator : Text) (l : List Text) : Text := List.intercalate separator l

/-- Whether a text stands at or before another one in the order of code points. -/
def le : Text → Text → Bool
  | [], _ => true
  | _ :: _, [] => false
  | c :: s, d :: t => if c = d then le s t else c.toNat < d.toNat

/-- The number of occurrences of a character. -/
def occurrences (c : Char) (s : Text) : Nat := s.count c

/-- The part before the first occurrence of a character and the part after it, if it occurs. -/
def cutAt? (c : Char) : Text → Option (Text × Text)
  | [] => none
  | d :: s => if d = c then some ([], s) else (cutAt? c s).map fun (a, b) => (d :: a, b)

/-- Carriage returns, alone or before a newline, read as newlines. -/
def normalizeNewlines : Text → Text
  | [] => []
  | '\r' :: '\n' :: s => '\n' :: normalizeNewlines s
  | c :: s => (if c = '\r' then '\n' else c) :: normalizeNewlines s

/-- The characters of a number in base sixteen, at least `width` of them. -/
def hex (width n : Nat) : Text :=
  let digits := Nat.toDigits 16 n
  List.replicate (width - digits.length) '0' ++ digits

/-- The characters of a natural number in base ten. -/
def ofNat (n : Nat) : Text := Nat.toDigits 10 n

/-- The characters of an integer in base ten. -/
def ofInt : Int → Text
  | .ofNat n => ofNat n
  | .negSucc n => '-' :: ofNat (n + 1)

end Text

end ClassGroups
