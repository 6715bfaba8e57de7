import ClassGroups.Text.Basic

/-!
# UTF-8

Texts are written to files as UTF-8. Files are read with every byte that belongs to no character
left out: where a sequence breaks off, the bytes read so far are dropped and the byte at which it
broke off is read afresh.
-/

namespace ClassGroups.Text

/-- The content of a file. -/
abbrev Bytes := List UInt8

/-- The bytes of a text. -/
def encode (s : Text) : Bytes := s.flatMap String.utf8EncodeChar

/-- The start of a character of which some bytes are still missing. -/
structure PartialChar where
  /-- The bits read so far. -/
  bits : Nat
  /-- How many bytes are missing after the next one. -/
  missing : Nat
  /-- The least byte that may come next. -/
  low : Nat
  /-- The greatest byte that may come next. -/
  high : Nat
deriving DecidableEq, Repr

/-- The start of a character of several bytes. Overlong forms, surrogates and code points beyond the
last one are kept out by the bounds on the second byte. -/
def PartialChar.ofLead? (b : Nat) : Option PartialChar :=
  if 0xc2 ≤ b ∧ b ≤ 0xdf then some ⟨b - 0xc0, 0, 0x80, 0xbf⟩
  else if b = 0xe0 then some ⟨0, 1, 0xa0, 0xbf⟩
  else if b = 0xed then some ⟨0xd, 1, 0x80, 0x9f⟩
  else if 0xe1 ≤ b ∧ b ≤ 0xef then some ⟨b - 0xe0, 1, 0x80, 0xbf⟩
  else if b = 0xf0 then some ⟨0, 2, 0x90, 0xbf⟩
  else if 0xf1 ≤ b ∧ b ≤ 0xf3 then some ⟨b - 0xf0, 2, 0x80, 0xbf⟩
  else if b = 0xf4 then some ⟨4, 2, 0x80, 0x8f⟩
  else none

/-- Whether a byte may continue the character. -/
def PartialChar.accepts (p : PartialChar) (b : Nat) : Bool := p.low ≤ b && b ≤ p.high

/-- The characters of the bytes that follow the start of a character, or no such start. -/
def decodeFrom : Option PartialChar → Bytes → Text
  | _, [] => []
  | pending, byte :: rest =>
    let b := byte.toNat
    match pending.filter (·.accepts b) with
    | some p =>
      let bits := 64 * p.bits + (b - 0x80)
      match p.missing with
      | 0 => Char.ofNat bits :: decodeFrom none rest
      | missing + 1 => decodeFrom (some ⟨bits, missing, 0x80, 0xbf⟩) rest
    | none =>
      if b < 0x80 then Char.ofNat b :: decodeFrom none rest
      else decodeFrom (PartialChar.ofLead? b) rest

/-- The text of a file, without the bytes that are not UTF-8. -/
def decode (bytes : Bytes) : Text := decodeFrom none bytes

/-- The text of a file as a program reads it, with every line ended by a newline. -/
def ofFile (bytes : Bytes) : Text := normalizeNewlines (decode bytes)

end ClassGroups.Text
