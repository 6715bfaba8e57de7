import ClassGroups.Json.Reader
import ClassGroups.Proofs.Jsx.Shape
import ClassGroups.Proofs.Layout
import ClassGroups.Proofs.Tokens

/-!
# The classes that an expression denotes

When a program runs, the strings of an expression stand for texts, and the classes that are applied
are the words of these texts. A text of a program may hold code points that are no characters, so it
is a list of numbers here. `codePoints` reads the content of a string as the program does: a
backslash with a letter may stand for a control character or, with digits in base sixteen, for any
code point, and any other escaped character stands for itself.

The reading of class lists knows only the last rule (`unescape`). The main statement,
`words_perm_iff`, is that the two readings have the same words exactly if no escape is one of the
others (`hasCodeEscape`): such an escape is written with more visible characters than it stands for,
so the visible characters of the words tell the readings apart (`countP_codePoints_lt`).
-/

namespace ClassGroups.Jsx

/-! ### The content of a string -/

/-- The code point that digits in base sixteen write, of which a given number is expected. -/
def hexCode? (width : Nat) (s : Text) : Option Nat :=
  let digits := s.take width
  if digits.length = width ∧ digits.all (Json.hexValue? · |>.isSome) then
    some (digits.foldl (fun n c => 16 * n + (Json.hexValue? c).getD 0) 0)
  else none

/-- The control character for which a letter stands behind a backslash. -/
def controlCode? (c : Char) : Option Nat :=
  if c = 'b' then some 0x08
  else if c = 't' then some 0x09
  else if c = 'n' then some 0x0a
  else if c = 'v' then some 0x0b
  else if c = 'f' then some 0x0c
  else if c = 'r' then some 0x0d
  else none

/-- The code point of an escape that does not stand for the character behind its backslash, and the
number of digits behind this character. -/
def codeEscape? : Text → Option (Nat × Nat)
  | [] => none
  | c :: s =>
    if c = 'x' then (hexCode? 2 s).map (·, 2)
    else if c = 'u' then (hexCode? 4 s).map (·, 4)
    else (controlCode? c).map (·, 0)

/-- The code points for which the content of a string stands, behind characters that belong to an
escape before. -/
def codePointsFrom (skip : Nat) : Text → List Nat
  | [] => []
  | c :: s =>
    match skip with
    | skip + 1 => codePointsFrom skip s
    | 0 =>
      if c = '\\' then
        match codeEscape? s with
        | some (n, digits) => n :: codePointsFrom (digits + 1) s
        | none => (s.head?.getD c).toNat :: codePointsFrom 1 s
      else c.toNat :: codePointsFrom 0 s

/-- The code points for which the content of a string stands. -/
def codePoints (s : Text) : List Nat := codePointsFrom 0 s

/-- Whether an escape does not stand for the character behind its backslash. -/
def hasCodeEscape : Text → Bool
  | [] => false
  | [_] => false
  | c :: d :: s =>
    if c = '\\' then (codeEscape? (d :: s)).isSome || hasCodeEscape s else hasCodeEscape (d :: s)

section CodePoints

variable {c : Char} {s : Text} {n digits width : Nat}

theorem codePointsFrom_eq (skip : Nat) (s : Text) :
    codePointsFrom skip s = codePoints (s.drop skip) := by
  induction s generalizing skip with
  | nil => simp [codePoints, codePointsFrom]
  | cons c s ih =>
    cases skip with
    | zero => rfl
    | succ skip => exact ih skip

theorem codePoints_cons (h : c ≠ '\\') : codePoints (c :: s) = c.toNat :: codePoints s := by
  simp [codePoints, codePointsFrom, h]

theorem codePoints_escape_of_none (h : codeEscape? (c :: s) = none) :
    codePoints ('\\' :: c :: s) = c.toNat :: codePoints s := by
  rw [codePoints, codePointsFrom]
  simp only [if_true, h, codePointsFrom_eq]
  rfl

theorem codePoints_escape_of_some (h : codeEscape? (c :: s) = some (n, digits)) :
    codePoints ('\\' :: c :: s) = n :: codePoints (s.drop digits) := by
  rw [codePoints, codePointsFrom]
  simp only [if_true, h, codePointsFrom_eq]
  rfl

/-- Characters that are no backslashes stand for themselves. -/
theorem codePoints_append {u : Text} (hu : ∀ c ∈ u, c ≠ '\\') (s : Text) :
    codePoints (u ++ s) = u.map Char.toNat ++ codePoints s := by
  induction u with
  | nil => rfl
  | cons c u ih =>
    rw [List.cons_append, codePoints_cons (hu c List.mem_cons_self),
      ih fun d hd => hu d (List.mem_cons_of_mem c hd)]
    rfl

/-- A quoted text stands for itself. -/
theorem codePoints_quotedBody (s : Text) : codePoints (quotedBody s) = s.map Char.toNat := by
  induction s with
  | nil => rfl
  | cons c s ih =>
    rw [quotedBody_cons]
    by_cases hc : c = '\\' ∨ c = '"'
    · -- neither a backslash nor a quote names anything else
      have hnone (t : Text) : codeEscape? (c :: t) = none := by
        rcases hc with rfl | rfl <;> rfl
      rw [if_pos hc, List.cons_append, List.cons_append, List.nil_append,
        codePoints_escape_of_none (hnone _), ih]
      rfl
    · rw [if_neg hc, List.cons_append, List.nil_append,
        codePoints_cons fun h => hc (Or.inl h), ih]
      rfl

end CodePoints

/-! ### Words -/

/-- Whether a code point is white space. -/
def isBlankCode (n : Nat) : Bool := blankRanges.any fun (first, last) => first ≤ n && n ≤ last

/-- The words of a text of a program. -/
def words (codes : List Nat) : List (List Nat) :=
  (codes.splitOnP isBlankCode).filter (!·.isEmpty)

section Words

/-- The words of a text of characters are its tokens. -/
theorem words_map_toNat (s : Text) :
    words (s.map Char.toNat) = (tokenize s).map (·.map Char.toNat) := by
  have hsplit : (s.map Char.toNat).splitOnP isBlankCode
      = (s.splitOnP isBlank).map (·.map Char.toNat) := by
    induction s with
    | nil => rfl
    | cons c s ih =>
      rw [List.map_cons, List.splitOnP_cons_eq_if_modifyHead, List.splitOnP_cons_eq_if_modifyHead,
        ih]
      have hc : isBlankCode c.toNat = isBlank c := rfl
      rw [hc]
      split
      · rfl
      · cases s.splitOnP isBlank <;> rfl
  rw [words, tokenize, hsplit, List.filter_map]
  congr 1
  refine List.filter_congr fun t _ => ?_
  simp

/-- All words together are the text without its white space. -/
theorem flatten_words (codes : List Nat) :
    (words codes).flatten = codes.filter (!isBlankCode ·) := by
  -- the empty pieces between two separators add nothing
  have hsplit : (codes.splitOnP isBlankCode).flatten = codes.filter (!isBlankCode ·) := by
    induction codes with
    | nil => rfl
    | cons n codes ih =>
      rw [List.splitOnP_cons_eq_if_modifyHead, List.filter_cons, ← ih]
      split
      · next hn => simp [hn]
      · next hn =>
        obtain ⟨first, rest, hs⟩ := List.exists_cons_of_ne_nil
          (List.splitOnP_ne_nil isBlankCode codes)
        simp [hn, hs]
  rw [words, List.flatten_filter_not_isEmpty, hsplit]

end Words

/-! ### Two readings of a string -/

/-- Whether a code point is neither white space nor the backspace, for which no visible character
stands. -/
def isVisible (n : Nat) : Bool := !isBlankCode n && n != 0x08

/-- Texts with the same words have the same number of visible characters. -/
theorem countP_eq_of_words_perm {a b : List Nat} (h : (words a).Perm (words b)) :
    a.countP isVisible = b.countP isVisible := by
  -- no visible character is lost when a text is cut into its words
  have hwords (codes : List Nat) :
      (words codes).flatten.countP isVisible = codes.countP isVisible := by
    rw [flatten_words, List.countP_filter]
    refine List.countP_congr fun n _ => ?_
    simp only [isVisible, Bool.and_eq_true]
    tauto
  rw [← hwords a, ← hwords b, h.flatten.countP_eq]

section Readings

variable {c mark : Char} {s : Text} {n digits width : Nat}

theorem isVisible_of_hexValue? (h : (Json.hexValue? c).isSome = true) :
    isVisible c.toNat = true := by
  have hall : ∀ n, n < 103 → 48 ≤ n → isVisible n = true := by decide
  have hle {a b : Char} (hab : a ≤ b) : a.toNat ≤ b.toNat := hab
  unfold Json.hexValue? at h
  split at h
  · next hc => exact hall _ (Nat.lt_succ_of_le (Nat.le_trans (hle hc.2) (by decide))) (hle hc.1)
  · split at h
    · next hc => exact hall _ (Nat.lt_succ_of_le (hle hc.2)) (Nat.le_trans (by decide) (hle hc.1))
    · split at h
      · next hc =>
        exact hall _ (Nat.lt_succ_of_le (Nat.le_trans (hle hc.2) (by decide)))
          (Nat.le_trans (by decide) (hle hc.1))
      · exact absurd h (by simp)

theorem exists_digits_of_hexCode? (h : hexCode? width s = some n) :
    ∃ u t, s = u ++ t ∧ u.length = width ∧ ∀ c ∈ u, (Json.hexValue? c).isSome = true := by
  simp only [hexCode?] at h
  split at h
  · next hdigits =>
    exact ⟨s.take width, s.drop width, (List.take_append_drop _ _).symm, hdigits.1,
      List.all_eq_true.mp hdigits.2⟩
  · exact absurd h (by simp)

/-- Digits in base sixteen are visible and stand for themselves. -/
theorem countP_codePoints_of_hexCode? (h : hexCode? width s = some n) :
    (codePoints s).countP isVisible = width + (codePoints (s.drop width)).countP isVisible := by
  obtain ⟨u, t, rfl, rfl, hu⟩ := exists_digits_of_hexCode? h
  have hslash : ∀ c ∈ u, c ≠ '\\' := by
    rintro c hc rfl
    exact absurd (hu _ hc) (by decide)
  have hvisible : ∀ n ∈ u.map Char.toNat, isVisible n = true := by
    intro n hn
    obtain ⟨c, hc, rfl⟩ := List.mem_map.mp hn
    exact isVisible_of_hexValue? (hu c hc)
  rw [codePoints_append hslash, List.countP_append, List.countP_eq_length.mpr hvisible,
    List.length_map, List.drop_left]

theorem isVisible_of_controlCode? (h : controlCode? c = some n) :
    isVisible n = false ∧ isVisible c.toNat = true := by
  unfold controlCode? at h
  split_ifs at h with hb ht hn hv hf hr <;> obtain rfl := Option.some.inj h <;> subst c <;> decide

/-- **An escape by code** stands for fewer visible characters than its letter and digits are. -/
theorem countP_codeEscape_lt (h : codeEscape? (c :: s) = some (n, digits)) :
    (n :: codePoints (s.drop digits)).countP isVisible
      < (c.toNat :: codePoints s).countP isVisible := by
  -- the digits are at least one visible character, and they all go into one code point
  have hhex {width : Nat} (hcode : (hexCode? width s).map (·, width) = some (n, digits))
      (hc : isVisible c.toNat = true) (hwidth : 0 < width) :
      (n :: codePoints (s.drop digits)).countP isVisible
        < (c.toNat :: codePoints s).countP isVisible := by
    obtain ⟨m, hm, heq⟩ := Option.map_eq_some_iff.mp hcode
    obtain ⟨rfl, rfl⟩ := Prod.mk.inj heq
    rw [List.countP_cons_of_pos hc, countP_codePoints_of_hexCode? hm, List.countP_cons]
    split <;> omega
  rw [codeEscape?] at h
  split at h
  · next hc => exact hhex h (hc ▸ by decide) (by decide)
  · split at h
    · next hc => exact hhex h (hc ▸ by decide) (by decide)
    · -- a letter is visible, and the control character for which it stands is not
      obtain ⟨m, hm, heq⟩ := Option.map_eq_some_iff.mp h
      obtain ⟨rfl, rfl⟩ := Prod.mk.inj heq
      obtain ⟨hcode, hc⟩ := isVisible_of_controlCode? hm
      rw [List.countP_cons_of_pos hc, List.countP_cons_of_neg (by simp [hcode])]
      exact Nat.lt_succ_self _

theorem hasCodeEscape_cons (h : c ≠ '\\') (s : Text) :
    hasCodeEscape (c :: s) = hasCodeEscape s := by
  cases s with
  | nil => rfl
  | cons d s => rw [hasCodeEscape, if_neg h]

/-- **Without escapes by code** the two readings are one. -/
theorem codePoints_eq_of_not_hasCodeEscape (hesc : IsEscaped mark s)
    (h : hasCodeEscape s = false) : codePoints s = (unescape s).map Char.toNat := by
  induction hesc with
  | nil => rfl
  | plain _ _ hslash _ ih =>
    rw [hasCodeEscape_cons hslash] at h
    rw [codePoints_cons hslash, unescape_cons hslash, ih h]
    rfl
  | @escape c s hnewline _ ih =>
    rw [hasCodeEscape, if_pos rfl, Bool.or_eq_false_iff, Option.isSome_eq_false_iff,
      Option.isNone_iff_eq_none] at h
    rw [codePoints_escape_of_none h.1, unescape_escape hnewline, ih h.2]
    rfl

/-- The reading of a program never has more visible characters. -/
theorem countP_codePoints_le (hesc : IsEscaped mark s) :
    (codePoints s).countP isVisible ≤ ((unescape s).map Char.toNat).countP isVisible := by
  induction hesc with
  | nil => exact Nat.le_refl _
  | plain _ _ hslash _ ih =>
    rw [codePoints_cons hslash, unescape_cons hslash, List.map_cons, List.countP_cons,
      List.countP_cons]
    omega
  | @escape c s hnewline _ ih =>
    have hletter : (c.toNat :: codePoints s).countP isVisible
        ≤ (c.toNat :: (unescape s).map Char.toNat).countP isVisible := by
      rw [List.countP_cons, List.countP_cons]
      omega
    rw [unescape_escape hnewline, List.map_cons]
    cases hcode : codeEscape? (c :: s) with
    -- an escape that is not by code is its character in both readings
    | none => exact codePoints_escape_of_none hcode ▸ hletter
    | some code =>
      rw [codePoints_escape_of_some hcode]
      exact Nat.le_trans (Nat.le_of_lt (countP_codeEscape_lt hcode)) hletter

/-- **With an escape by code** it has fewer. -/
theorem countP_codePoints_lt (hesc : IsEscaped mark s) (h : hasCodeEscape s = true) :
    (codePoints s).countP isVisible < ((unescape s).map Char.toNat).countP isVisible := by
  induction hesc with
  | nil => exact absurd h (by decide)
  | plain _ _ hslash _ ih =>
    rw [hasCodeEscape_cons hslash] at h
    have hlt := ih h
    rw [codePoints_cons hslash, unescape_cons hslash, List.map_cons, List.countP_cons,
      List.countP_cons]
    omega
  | @escape c s hnewline hs ih =>
    rw [unescape_escape hnewline, List.map_cons]
    cases hcode : codeEscape? (c :: s) with
    | none =>
      -- the escape stands for its character, so there is one by code behind it
      rw [hasCodeEscape, if_pos rfl, hcode, Option.isSome_none, Bool.false_or] at h
      have hlt := ih h
      rw [codePoints_escape_of_none hcode, List.countP_cons, List.countP_cons]
      omega
    | some code =>
      -- this escape loses visible characters, and what follows it gains none
      have hle := countP_codePoints_le hs
      have hlt := countP_codeEscape_lt hcode
      rw [codePoints_escape_of_some hcode]
      rw [List.countP_cons] at hlt ⊢
      rw [List.countP_cons] at hlt ⊢
      omega

/-- **The two readings of a string** have the same words exactly if no escape is by code. -/
theorem words_perm_iff (hesc : IsEscaped mark s) :
    (words (codePoints s)).Perm (words ((unescape s).map Char.toNat))
      ↔ hasCodeEscape s = false := by
  constructor
  · intro hperm
    by_contra hcode
    have hlt := countP_codePoints_lt hesc (by simpa using hcode)
    rw [countP_eq_of_words_perm hperm] at hlt
    exact Nat.lt_irrefl _ hlt
  · intro h
    rw [codePoints_eq_of_not_hasCodeEscape hesc h]

end Readings

end ClassGroups.Jsx
