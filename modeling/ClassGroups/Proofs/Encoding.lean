import ClassGroups.Text.Utf8
import Mathlib.Tactic.SplitIfs

/-!
# What survives in a file

A text that is written to a file and read again is the same, as far as its characters go
(`decode_encode`). What a program reads in a file and writes back need not be what was there: bytes
that are not UTF-8 are lost, and carriage returns become newlines. `encode_ofFile_eq_iff` says that
nothing else is: the bytes come back exactly if they are those of a text without carriage returns.

The decoder takes one byte at a time, so the bytes of a character are followed through it one by
one. The lead byte bounds the one after it, and the work is to see that the second byte of a
character keeps these bounds: the overlong forms, the surrogates and the code points beyond the last
one are not among the characters.
-/

namespace ClassGroups.Text

/-! ### One byte at a time -/

section Step

variable {n low high bits missing : Nat} (rest : Bytes)

theorem toNat_ofNat_byte (h : n < 256) : (UInt8.ofNat n).toNat = n :=
  Nat.mod_eq_of_lt h

theorem decodeFrom_ascii (h : n < 0x80) :
    decodeFrom none (UInt8.ofNat n :: rest) = Char.ofNat n :: decodeFrom none rest := by
  rw [decodeFrom]
  show (if (UInt8.ofNat n).toNat < 0x80 then _ else _) = _
  rw [toNat_ofNat_byte (by omega), if_pos h]

theorem decodeFrom_lead (h : 0x80 ≤ n) (hn : n < 256) :
    decodeFrom none (UInt8.ofNat n :: rest) = decodeFrom (PartialChar.ofLead? n) rest := by
  rw [decodeFrom]
  show (if (UInt8.ofNat n).toNat < 0x80 then _ else _) = _
  rw [toNat_ofNat_byte hn, if_neg (by omega)]

theorem filter_accepts (missing : Nat) (hlow : low ≤ n) (hhigh : n ≤ high) (hn : n < 256) :
    (some (⟨bits, missing, low, high⟩ : PartialChar)).filter
        (·.accepts (UInt8.ofNat n).toNat)
      = some ⟨bits, missing, low, high⟩ := by
  have haccepts :
      (⟨bits, missing, low, high⟩ : PartialChar).accepts (UInt8.ofNat n).toNat = true := by
    unfold PartialChar.accepts
    rw [toNat_ofNat_byte hn]
    simp only [Bool.and_eq_true, decide_eq_true_eq]
    exact ⟨hlow, hhigh⟩
  exact Option.filter_some_pos haccepts

/-- A byte within the bounds adds its six bits. -/
theorem decodeFrom_next (hlow : low ≤ n + 0x80) (hhigh : n + 0x80 ≤ high) (hn : n < 64) :
    decodeFrom (some ⟨bits, missing + 1, low, high⟩) (UInt8.ofNat (n + 0x80) :: rest)
      = decodeFrom (some ⟨64 * bits + n, missing, 0x80, 0xbf⟩) rest := by
  rw [decodeFrom]
  dsimp only
  rw [filter_accepts _ hlow hhigh (by omega), toNat_ofNat_byte (by omega), Nat.add_sub_cancel]

/-- The last byte of a character completes it. -/
theorem decodeFrom_last (hlow : low ≤ n + 0x80) (hhigh : n + 0x80 ≤ high) (hn : n < 64) :
    decodeFrom (some ⟨bits, 0, low, high⟩) (UInt8.ofNat (n + 0x80) :: rest)
      = Char.ofNat (64 * bits + n) :: decodeFrom none rest := by
  rw [decodeFrom]
  dsimp only
  rw [filter_accepts _ hlow hhigh (by omega), toNat_ofNat_byte (by omega), Nat.add_sub_cancel]

end Step

/-! ### One character at a time -/

theorem ofLead?_two {n : Nat} (hn : 2 ≤ n) (hn' : n < 32) :
    PartialChar.ofLead? (n + 0xc0) = some ⟨n, 0, 0x80, 0xbf⟩ := by
  unfold PartialChar.ofLead?
  rw [if_pos (by omega), Nat.add_sub_cancel]

theorem exists_ofLead?_three {n m : Nat} (hn : n < 16) (hm : m < 64)
    (hoverlong : n = 0 → 0x20 ≤ m) (hsurrogate : n = 0xd → m < 0x20) :
    ∃ low high, PartialChar.ofLead? (n + 0xe0) = some ⟨n, 1, low, high⟩ ∧
      low ≤ m + 0x80 ∧ m + 0x80 ≤ high := by
  unfold PartialChar.ofLead?
  rw [if_neg (by omega)]
  by_cases hzero : n = 0
  · have := hoverlong hzero
    subst hzero
    exact ⟨0xa0, 0xbf, rfl, by omega, by omega⟩
  rw [if_neg (by omega)]
  by_cases hlast : n = 0xd
  · have := hsurrogate hlast
    subst hlast
    exact ⟨0x80, 0x9f, rfl, by omega, by omega⟩
  rw [if_neg (by omega), if_pos (by omega), Nat.add_sub_cancel]
  exact ⟨0x80, 0xbf, rfl, by omega, by omega⟩

theorem exists_ofLead?_four {n m : Nat} (hn : n < 5) (hm : m < 64)
    (hoverlong : n = 0 → 0x10 ≤ m) (hlast : n = 4 → m < 0x10) :
    ∃ low high, PartialChar.ofLead? (n + 0xf0) = some ⟨n, 2, low, high⟩ ∧
      low ≤ m + 0x80 ∧ m + 0x80 ≤ high := by
  unfold PartialChar.ofLead?
  rw [if_neg (by omega), if_neg (by omega), if_neg (by omega), if_neg (by omega)]
  by_cases hzero : n = 0
  · have := hoverlong hzero
    subst hzero
    exact ⟨0x90, 0xbf, rfl, by omega, by omega⟩
  rw [if_neg (by omega)]
  by_cases hfour : n = 4
  · have := hlast hfour
    subst hfour
    exact ⟨0x80, 0x8f, rfl, by omega, by omega⟩
  rw [if_pos (by omega), Nat.add_sub_cancel]
  exact ⟨0x80, 0xbf, rfl, by omega, by omega⟩

/-- **A character** is read from its bytes, whatever follows them. -/
theorem decodeFrom_encodeChar (c : Char) (rest : Bytes) :
    decodeFrom none (String.utf8EncodeChar c ++ rest) = c :: decodeFrom none rest := by
  have hvalid : c.val.toNat < 0xd800 ∨ 0xdfff < c.val.toNat ∧ c.val.toNat < 0x110000 := c.valid
  have hc : Char.ofNat c.val.toNat = c := Char.ofNat_toNat c
  unfold String.utf8EncodeChar
  dsimp only
  generalize c.val.toNat = v at hvalid hc
  -- by the number of bytes, from one to four
  split_ifs with hone htwo hthree
  · rw [List.singleton_append, decodeFrom_ascii rest (by omega), hc]
  · -- the lead byte cannot be that of an overlong form, since `v` needs more than seven bits
    rw [List.cons_append, List.singleton_append, decodeFrom_lead _ (by omega) (by omega),
      ofLead?_two (by omega) (by omega), decodeFrom_last _ (by omega) (by omega) (by omega)]
    have hbits : 64 * (v / 64 % 32) + v % 64 = v := by omega
    rw [hbits, hc]
  · -- neither an overlong form, since `v` needs more than eleven bits, nor a surrogate
    obtain ⟨low, high, hlead, hlow, hhigh⟩ := exists_ofLead?_three (n := v / 4096 % 16)
      (m := v / 64 % 64) (by omega) (by omega) (by omega) (by omega)
    rw [List.cons_append, List.cons_append, List.singleton_append,
      decodeFrom_lead _ (by omega) (by omega), hlead, decodeFrom_next _ hlow hhigh (by omega),
      decodeFrom_last _ (by omega) (by omega) (by omega)]
    have hbits : 64 * (64 * (v / 4096 % 16) + v / 64 % 64) + v % 64 = v := by omega
    rw [hbits, hc]
  · -- neither an overlong form nor a code point beyond the last one
    obtain ⟨low, high, hlead, hlow, hhigh⟩ := exists_ofLead?_four (n := v / 262144 % 8)
      (m := v / 4096 % 64) (by omega) (by omega) (by omega) (by omega)
    rw [List.cons_append, List.cons_append, List.cons_append, List.singleton_append,
      decodeFrom_lead _ (by omega) (by omega), hlead, decodeFrom_next _ hlow hhigh (by omega),
      decodeFrom_next _ (by omega) (by omega) (by omega),
      decodeFrom_last _ (by omega) (by omega) (by omega)]
    have hbits : 64 * (64 * (64 * (v / 262144 % 8) + v / 4096 % 64) + v / 64 % 64) + v % 64
        = v := by omega
    rw [hbits, hc]

/-- **What was encoded** is decoded. -/
theorem decode_encode (s : Text) : decode (encode s) = s := by
  unfold decode encode
  induction s with
  | nil => rfl
  | cons c s ih => rw [List.flatMap_cons, decodeFrom_encodeChar, ih]

/-! ### Line ends -/

theorem normalizeNewlines_of_notMem {s : Text} (h : '\r' ∉ s) : normalizeNewlines s = s := by
  fun_induction normalizeNewlines s with
  | case1 => rfl
  | case2 s ih => exact absurd List.mem_cons_self h
  | case3 c s hcases ih =>
    have hc : c ≠ '\r' := fun heq => h (heq ▸ List.mem_cons_self)
    rw [if_neg hc, ih fun hmem => h (List.mem_cons_of_mem c hmem)]

theorem return_notMem_normalizeNewlines (s : Text) : '\r' ∉ normalizeNewlines s := by
  fun_induction normalizeNewlines s with
  | case1 => exact List.not_mem_nil
  | case2 s ih =>
    rw [List.mem_cons, not_or]
    exact ⟨by decide, ih⟩
  | case3 c s hcases ih =>
    rw [List.mem_cons, not_or]
    refine ⟨?_, ih⟩
    split
    · decide
    · next hc => exact Ne.symm hc

/-- **A file that is read and written back** has the same bytes exactly if these are the bytes of a
text without carriage returns. -/
theorem encode_ofFile_eq_iff {bytes : Bytes} :
    encode (ofFile bytes) = bytes ↔ ∃ s : Text, '\r' ∉ s ∧ bytes = encode s := by
  constructor
  · intro h
    exact ⟨ofFile bytes, return_notMem_normalizeNewlines _, h.symm⟩
  · rintro ⟨s, hs, rfl⟩
    unfold ofFile
    rw [decode_encode, normalizeNewlines_of_notMem hs]

end ClassGroups.Text
