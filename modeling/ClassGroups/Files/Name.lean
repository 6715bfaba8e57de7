import ClassGroups.Text.Quoted
import ClassGroups.Text.Utf8

/-!
# Names of files

The system takes nearly any bytes as the name of a file. A program reads them as UTF-8, and a byte
that belongs to no character stands in the name as it is. Such a name leads to its file like any
other one, and messages show it with the byte escaped. But it is no text: it cannot be written to a
file, and what is printed for the byte, if it can be printed at all, depends on the output.
-/

namespace ClassGroups.Files

/-- A sign of a name. -/
inductive Sign where
  /-- A character. -/
  | char (c : Char)
  /-- A byte that belongs to no character. -/
  | byte (b : UInt8)
deriving DecidableEq, Repr

/-- A name, sign by sign. -/
abbrev Name := List Sign

/-- Which sign of a name a character of an argument stands for. Arguments are texts, so a byte in
them that belongs to no character is stood for by a character that does not occur in them
otherwise. Every other character stands for itself. -/
abbrev Spelling := Char → Sign

/-- What is printed for a byte that belongs to no character, unless the output refuses it. -/
abbrev Showing := UInt8 → Option Text

namespace Sign

/-- The code point of a sign. That of a byte is a surrogate. -/
def code : Sign → Nat
  | char c => c.toNat
  | byte b => 0xdc00 + b.toNat

/-- The bytes of a sign. -/
def bytes : Sign → Text.Bytes
  | char c => String.utf8EncodeChar c
  | byte b => [b]

/-- Whether a sign is a byte that belongs to no character. -/
def isByte : Sign → Bool
  | char _ => false
  | byte _ => true

/-- The character of a sign. -/
def char? : Sign → Option Char
  | char c => some c
  | byte _ => none

/-- What is printed for a sign. -/
def shown? (showing : Showing) : Sign → Option Text
  | char c => some [c]
  | byte b => showing b

/-- A sign in a message, where a byte is escaped. -/
def escaped : Sign → Text
  | char c => [c]
  | byte b => "\\u" ++ Text.hex 4 (byte b).code

/-- A sign between quotes. -/
def quoted (mark : Char) : Sign → Text
  | char c => Text.quotedChar mark c
  | byte b => (byte b).escaped

end Sign

namespace Name

/-- A text as a name. -/
def ofText (s : Text) : Name := s.map .char

instance : Coe Text Name := ⟨ofText⟩

/-- The text that a name is, unless there is a byte in it that belongs to no character. -/
def text? : Name → Option Text
  | [] => some []
  | .char c :: n => (text? n).map (c :: ·)
  | .byte _ :: _ => none

/-- What is printed for a name, unless there is a byte in it that the output refuses. -/
def shown? (showing : Showing) : Name → Option Text
  | [] => some []
  | sign :: n =>
    match sign.shown? showing with
    | some first => (shown? showing n).map (first ++ ·)
    | none => none

/-- A name in a message. -/
def escaped (n : Name) : Text := n.flatMap Sign.escaped

/-- A name between quotes. -/
def quoted (n : Name) : Text :=
  let mark := Text.quoteMark (n.filterMap Sign.char?)
  mark :: n.flatMap (Sign.quoted mark) ++ [mark]

/-- The number of bytes that a name may have. -/
def maxBytes : Nat := 255

/-- Whether a name is short enough for the system. -/
def fits (n : Name) : Bool := (n.flatMap Sign.bytes).length ≤ maxBytes

/-- Whether a name stands at or before another one in the order of code points. -/
def le : Name → Name → Bool
  | [], _ => true
  | _ :: _, [] => false
  | c :: n, d :: m => if c = d then le n m else c.code < d.code

/-- Why a name cannot be encoded, in words: the first bytes in it that belong to no character, and
where they stand. -/
def notEncoded (n : Name) : Text :=
  let start := (n.takeWhile (!·.isByte)).length
  let row := (n.drop start).takeWhile (·.isByte)
  let found : Text :=
    match row with
    | [s] => "character '" ++ s.escaped ++ "' in position " ++ Text.ofNat start
    | _ => "characters in position " ++ Text.ofNat start ++ "-"
        ++ Text.ofNat (start + row.length - 1)
  "'utf-8' codec can't encode " ++ found ++ ": surrogates not allowed"

end Name

end ClassGroups.Files
