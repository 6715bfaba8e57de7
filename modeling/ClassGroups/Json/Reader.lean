import ClassGroups.Json.Basic

/-!
# Reading JSON

`Json.read?` reads one value that fills the whole text. Every reader below takes the text that is
left and returns what it read with the rest; the first argument bounds the depth of the recursion
and starts as the length of the text, of which every step consumes a character. Infinity and what is
no number are read besides the values of JSON.
-/

namespace ClassGroups.Json

/-- Whether JSON admits a character between its parts. -/
def isSpace (c : Char) : Bool := c == ' ' || c == '\t' || c == '\n' || c == '\r'

/-- The text after the white space at its start. -/
def skipSpace (s : Text) : Text := s.dropWhile isSpace

/-- The value of a digit in base sixteen. -/
def hexValue? (c : Char) : Option Nat :=
  if '0' ≤ c ∧ c ≤ '9' then some (c.toNat - '0'.toNat)
  else if 'a' ≤ c ∧ c ≤ 'f' then some (c.toNat - 'a'.toNat + 10)
  else if 'A' ≤ c ∧ c ≤ 'F' then some (c.toNat - 'A'.toNat + 10)
  else none

/-- The number that four digits in base sixteen denote. -/
def hexFour? (a b c d : Char) : Option Nat := do
  return 4096 * (← hexValue? a) + 256 * (← hexValue? b) + 16 * (← hexValue? c) + (← hexValue? d)

/-- The character that a short escape denotes. -/
def shortEscape? (c : Char) : Option Char :=
  if c = '"' ∨ c = '\\' ∨ c = '/' then some c
  else if c = 'n' then some '\n'
  else if c = 'r' then some '\r'
  else if c = 't' then some '\t'
  else if c = 'f' then some '\x0c'
  else if c = 'b' then some '\x08'
  else none

/-- The character that two surrogates denote. -/
def pairValue? (high low : Nat) : Option Char :=
  if 0xd800 ≤ high ∧ high < 0xdc00 ∧ 0xdc00 ≤ low ∧ low < 0xe000 then
    some (Char.ofNat (0x10000 + 0x400 * (high - 0xd800) + (low - 0xdc00)))
  else none

/-- The rest of a string after its opening quote. -/
def readText : Nat → Text → Option (Text × Text)
  | 0, _ => none
  | _, [] => none
  | _, '"' :: s => some ([], s)
  | n + 1, '\\' :: 'u' :: a :: b :: c :: d :: s => do
    let code ← hexFour? a b c d
    if 0xd800 ≤ code ∧ code < 0xe000 then
      match s with
      | '\\' :: 'u' :: e :: f :: g :: h :: s =>
        let character ← pairValue? code (← hexFour? e f g h)
        let (t, s) ← readText n s
        return (character :: t, s)
      | _ => none
    else
      let (t, s) ← readText n s
      return (Char.ofNat code :: t, s)
  | n + 1, '\\' :: c :: s => do
    let character ← shortEscape? c
    let (t, s) ← readText n s
    return (character :: t, s)
  | n + 1, c :: s =>
    if c.toNat < 0x20 ∨ c = '\\' then none
    else do
      let (t, s) ← readText n s
      return (c :: t, s)

/-- The ASCII digits at the start of a text and the rest. -/
def digitRun (s : Text) : Text × Text := (s.takeWhile Char.isDigit, s.dropWhile Char.isDigit)

/-- The number that ASCII digits denote. -/
def digitsValue (s : Text) : Nat := s.foldl (fun n c => 10 * n + (c.toNat - '0'.toNat)) 0

/-- The digits of a fraction after its point, if there is one. -/
def readFraction : Text → Option Text × Text
  | '.' :: s =>
    match digitRun s with
    | ([], _) => (none, '.' :: s)
    | (digits, s) => (some digits, s)
  | s => (none, s)

/-- An exponent with its sign, if there is one. -/
def readExponent : Text → Option Int × Text
  | [] => (none, [])
  | c :: s =>
    if c = 'e' ∨ c = 'E' then
      let (negative, t) : Bool × Text :=
        match s with
        | '-' :: t => (true, t)
        | '+' :: t => (false, t)
        | t => (false, t)
      match digitRun t with
      | ([], _) => (none, c :: s)
      | (digits, t) =>
        (some (if negative then -(digitsValue digits) else digitsValue digits), t)
    else (none, c :: s)

/-- Infinity with its sign, or what is no number. -/
def readSpecial (negative : Bool) (s : Text) : Option (Json × Text) :=
  match "Infinity".toList.isPrefixOf? s, "NaN".toList.isPrefixOf? s with
  | some s, _ => some (.decimal (.infinite negative), s)
  | _, some s => if negative then none else some (.decimal .undefined, s)
  | _, _ => none

/-- A number. The whole part has no leading zero. -/
def readNumber (s : Text) : Option (Json × Text) :=
  let (negative, s) : Bool × Text :=
    match s with
    | '-' :: s => (true, s)
    | s => (false, s)
  let (whole, s) : Text × Text :=
    match s with
    | '0' :: s => (['0'], s)
    | s => digitRun s
  if whole.isEmpty then readSpecial negative s
  else
    match readFraction s with
    | (fraction, s) =>
      match fraction, readExponent s with
      | none, (none, s) =>
        some (.int (if negative then -(digitsValue whole) else digitsValue whole), s)
      | _, (exponent, s) =>
        let digits := fraction.getD []
        some (.decimal (.finite negative (digitsValue (whole ++ digits))
          (exponent.getD 0 - digits.length)), s)

mutual

/-- One value, after white space. -/
def readValue : Nat → Text → Option (Json × Text)
  | 0, _ => none
  | n + 1, s =>
    match skipSpace s with
    | 'n' :: 'u' :: 'l' :: 'l' :: s => some (.null, s)
    | 't' :: 'r' :: 'u' :: 'e' :: s => some (.bool true, s)
    | 'f' :: 'a' :: 'l' :: 's' :: 'e' :: s => some (.bool false, s)
    | '"' :: s => (readText n s).map fun (t, s) => (.text t, s)
    | '[' :: s =>
      match skipSpace s with
      | ']' :: s => some (.list [], s)
      | s => (readItems n s).map fun (items, s) => (.list items, s)
    | '{' :: s =>
      match skipSpace s with
      | '}' :: s => some (.dict [], s)
      | s => (readEntries n s).map fun (entries, s) => (.dict entries, s)
    | s => readNumber s

/-- The items of a list up to its closing bracket. -/
def readItems : Nat → Text → Option (List Json × Text)
  | 0, _ => none
  | n + 1, s => do
    let (v, s) ← readValue n s
    match skipSpace s with
    | ',' :: s =>
      let (items, s) ← readItems n s
      return (v :: items, s)
    | ']' :: s => return ([v], s)
    | _ => none

/-- The entries of an object up to its closing brace. -/
def readEntries : Nat → Text → Option (List (Text × Json) × Text)
  | 0, _ => none
  | n + 1, s => do
    match skipSpace s with
    | '"' :: s =>
      let (k, s) ← readText n s
      match skipSpace s with
      | ':' :: s =>
        let (v, s) ← readValue n s
        match skipSpace s with
        | ',' :: s =>
          let (entries, s) ← readEntries n s
          return ((k, v) :: entries, s)
        | '}' :: s => return ([(k, v)], s)
        | _ => none
      | _ => none
    | _ => none

end

/-- The value that a text holds, white space around it apart. -/
def read? (s : Text) : Option Json := do
  let (v, rest) ← readValue (s.length + 1) s
  guard (skipSpace rest).isEmpty
  return v

end ClassGroups.Json
