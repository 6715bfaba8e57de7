import ClassGroups.Json.Printer
import ClassGroups.Json.Reader
import Mathlib.Data.Nat.Digits.Defs

/-!
# Strings and whole numbers are read as they were printed

The readers of strings and of numbers stop in different ways. A string ends with its quote, so what
follows it is of no importance: `readText_printed`. A number ends where nothing continues it, and
`readNumber_ofInt` holds in front of such a text only (`Ends`).

A string costs the reader a step for each of its characters, however long their escapes are
(`readText_escapedChar`).
-/

namespace ClassGroups.Json

/-! ### Strings -/

section Strings

variable {n : Nat} {c : Char} {s : Text}

/-- What is read of a string with a character in front. -/
def prependChar (c : Char) (read : Option (Text × Text)) : Option (Text × Text) :=
  read.map fun (t, rest) => (c :: t, rest)

theorem readText_short (n : Nat) (s : Text) (c d : Char) (h : shortEscape? c = some d) :
    readText (n + 1) ('\\' :: c :: s) = prependChar d (readText n s) := by
  have hu : c ≠ 'u' := by
    rintro rfl
    have hnone : shortEscape? 'u' = none := rfl
    exact absurd (hnone.symm.trans h) (by simp)
  -- the case of four digits comes first, and starts with a `u`
  rw [readText.eq_5 n c s fun _ _ _ _ _ hc _ => hu hc, h]
  change (readText n s).bind _ = _
  cases readText n s with
  | none => rfl
  | some result => rfl

/-- The digits of a control character denote it. -/
theorem hexFour?_hex : ∀ code < 0x20,
    (match Text.hex 4 code with
      | [a, b, c, d] => hexFour? a b c d
      | _ => none) = some code := by
  decide

theorem readText_control (h : c.toNat < 0x20) :
    readText (n + 1) ('\\' :: 'u' :: (Text.hex 4 c.toNat ++ s)) = prependChar c (readText n s) := by
  have hcode := hexFour?_hex c.toNat h
  split at hcode
  · next a b e f hhex =>
    rw [hhex]
    change readText (n + 1) ('\\' :: 'u' :: a :: b :: e :: f :: s) = _
    rw [readText.eq_4, hcode]
    -- a control character is no surrogate
    change (if 0xd800 ≤ c.toNat ∧ c.toNat < 0xe000 then _ else (readText n s).bind _) = _
    rw [if_neg (by omega), Char.ofNat_toNat]
    cases readText n s with
    | none => rfl
    | some result => rfl
  · exact absurd hcode (by simp)

theorem readText_plain (hquote : c ≠ '"') (hback : c ≠ '\\') (hcontrol : ¬c.toNat < 0x20) :
    readText (n + 1) (c :: s) = prependChar c (readText n s) := by
  rw [readText.eq_6 n c s hquote (fun _ _ _ _ _ hc _ => hback hc) (fun _ _ hc _ => hback hc),
    if_neg (by simp [hcontrol, hback])]
  cases readText n s with
  | none => rfl
  | some result => rfl

/-- **A printed character** is read as the character, in one step. -/
theorem readText_escapedChar (n : Nat) (c : Char) (s : Text) :
    readText (n + 1) (escapedChar c ++ s) = prependChar c (readText n s) := by
  fun_cases escapedChar c with
  | case1 =>
    subst c
    exact readText_short n s '"' '"' rfl
  | case2 =>
    subst c
    exact readText_short n s '\\' '\\' rfl
  | case3 =>
    subst c
    exact readText_short n s 'n' '\n' rfl
  | case4 =>
    subst c
    exact readText_short n s 'r' '\r' rfl
  | case5 =>
    subst c
    exact readText_short n s 't' '\t' rfl
  | case6 =>
    subst c
    exact readText_short n s 'f' '\x0c' rfl
  | case7 =>
    subst c
    exact readText_short n s 'b' '\x08' rfl
  | case8 _ _ _ _ _ _ _ hcontrol => exact readText_control hcontrol
  | case9 hquote hback _ _ _ _ _ hcontrol => exact readText_plain hquote hback hcontrol

/-- **A printed string** is read as the string, whatever follows its closing quote. -/
theorem readText_printed (s rest : Text) (h : s.length < n) :
    readText n (s.flatMap escapedChar ++ '"' :: rest) = some (s, rest) := by
  induction s generalizing n with
  | nil =>
    rw [List.flatMap_nil, List.nil_append, readText.eq_3]
    exact Nat.ne_of_gt h
  | cons c s ih =>
    obtain ⟨n, rfl⟩ : ∃ m, n = m + 1 := ⟨n - 1, by omega⟩
    rw [List.flatMap_cons, List.append_assoc, readText_escapedChar,
      ih (Nat.lt_of_succ_lt_succ h)]
    rfl

theorem length_le_length_flatMap_escapedChar (s : Text) :
    s.length ≤ (s.flatMap escapedChar).length := by
  induction s with
  | nil => exact Nat.le_refl 0
  | cons c s ih =>
    have hpos : 1 ≤ (escapedChar c).length := by
      fun_cases escapedChar c <;> simp
    rw [List.flatMap_cons, List.length_append, List.length_cons, Nat.add_comm]
    exact Nat.add_le_add hpos ih

/-- A string is printed without control characters. -/
theorem le_toNat_of_mem_printText {d : Char} (h : d ∈ printText s) : 0x20 ≤ d.toNat := by
  have hchar (c : Char) : (escapedChar c).all (0x20 ≤ ·.toNat) = true := by
    fun_cases escapedChar c with
    | case8 _ _ _ _ _ _ _ hcontrol =>
      have hall : ∀ code < 0x20, ("\\u".toList ++ Text.hex 4 code).all (0x20 ≤ ·.toNat) = true := by
        decide
      exact hall c.toNat hcontrol
    | case9 _ _ _ _ _ _ _ hcontrol => simpa using hcontrol
    | _ => decide
  rw [printText, List.cons_append, List.mem_cons, List.mem_append, List.mem_flatMap,
    List.mem_singleton] at h
  rcases h with rfl | ⟨c, -, hmem⟩ | rfl
  · decide
  · exact of_decide_eq_true (List.all_eq_true.mp (hchar c) d hmem)
  · decide

theorem newline_notMem_printText (s : Text) : '\n' ∉ printText s := fun h =>
  absurd (le_toNat_of_mem_printText h) (by decide)

end Strings

/-! ### Whole numbers -/

section Numbers

/-- **A number ends** before a text: nothing there continues it. -/
def Ends (rest : Text) : Prop :=
  ∀ c ∈ rest.head?, c.isDigit = false ∧ c ≠ '.' ∧ c ≠ 'e' ∧ c ≠ 'E'

/-- **A numeral** as JSON has it: digits, the first of which is a zero only if it is alone. -/
structure IsNumeral (s : Text) : Prop where
  /-- There is a digit. -/
  ne_nil : s ≠ []
  /-- There are only digits. -/
  digits : ∀ c ∈ s, c.isDigit = true
  /-- It does not start with a zero that could be left out. -/
  unpadded : s = ['0'] ∨ s.head? ≠ some '0'

variable {s rest : Text}

theorem head?_ofNat_ne (n : Nat) (h : 0 < n) : (Text.ofNat n).head? ≠ some '0' := by
  unfold Text.ofNat
  induction n using Nat.strong_induction_on with
  | _ n ih =>
    rw [Nat.toDigits_eq_if (by decide)]
    by_cases hlt : n < 10
    · have hdigit : ∀ n < 10, 0 < n → [n.digitChar].head? ≠ some '0' := by decide
      rw [if_pos hlt]
      exact hdigit n hlt h
    · -- the first digit is that of the number without its last one
      rw [if_neg hlt, List.head?_append, Option.or_of_isSome
        (List.isSome_head?.mpr Nat.toDigits_ne_nil)]
      exact ih (n / 10) (by omega) (by omega)

theorem isNumeral_ofNat (n : Nat) : IsNumeral (Text.ofNat n) where
  ne_nil := Nat.toDigits_ne_nil
  digits := fun _ hc => Nat.isDigit_of_mem_toDigits (by decide) (by decide) hc
  unpadded := by
    rcases Nat.eq_zero_or_pos n with rfl | hpos
    · exact .inl rfl
    · exact .inr (head?_ofNat_ne n hpos)

theorem digitsValue_ofNat (n : Nat) : digitsValue (Text.ofNat n) = n :=
  Nat.ofDigitChars_toDigits (by decide) (by decide)

theorem readFraction_of_ends (h : Ends rest) : readFraction rest = (none, rest) := by
  refine readFraction.eq_2 rest ?_
  rintro s rfl
  exact (h '.' rfl).2.1 rfl

theorem readExponent_of_ends (h : Ends rest) : readExponent rest = (none, rest) := by
  cases rest with
  | nil => rfl
  | cons c s =>
    -- an exponent would start with one of the two letters
    obtain ⟨-, -, he, hE⟩ := h c rfl
    rw [readExponent.eq_def]
    exact if_neg (by simp [he, hE])

theorem digitRun_append (hs : ∀ c ∈ s, c.isDigit = true) (h : Ends rest) :
    digitRun (s ++ rest) = (s, rest) := by
  have hrest : rest.takeWhile Char.isDigit = [] ∧ rest.dropWhile Char.isDigit = rest := by
    cases rest with
    | nil => exact ⟨rfl, rfl⟩
    | cons c rest =>
      have hc : ¬c.isDigit = true := by simp [(h c rfl).1]
      exact ⟨List.takeWhile_cons_of_neg hc, List.dropWhile_cons_of_neg hc⟩
  rw [digitRun, List.takeWhile_append_of_pos hs, List.dropWhile_append_of_pos hs, hrest.1, hrest.2,
    List.append_nil]

/-- **A numeral** is read as its number, with or without a sign. -/
theorem readNumber_numeral (hs : IsNumeral s) (h : Ends rest) :
    readNumber (s ++ rest) = some (.int (digitsValue s), rest) ∧
    readNumber ('-' :: (s ++ rest)) = some (.int (-(digitsValue s)), rest) := by
  have hnonempty : ¬s.isEmpty = true := by simpa using hs.ne_nil
  by_cases hzero : s = ['0']
  · -- a zero is taken at once, since no digit may follow it
    subst hzero
    constructor
    · change readNumber ('0' :: rest) = _
      rw [readNumber.eq_3, if_neg hnonempty]
      simp only [readFraction_of_ends h, readExponent_of_ends h]
      rfl
    · change readNumber ('-' :: '0' :: rest) = _
      rw [readNumber.eq_1, if_neg hnonempty]
      simp only [readFraction_of_ends h, readExponent_of_ends h]
      rfl
  · have hhead : s.head? ≠ some '0' := hs.unpadded.resolve_left hzero
    obtain ⟨c, s, rfl⟩ := List.exists_cons_of_ne_nil hs.ne_nil
    have hc0 : c ≠ '0' := fun hc => hhead (congrArg some hc)
    have hcminus : c ≠ '-' := by
      rintro rfl
      exact absurd (hs.digits '-' List.mem_cons_self) (by decide)
    -- no case of its own fits `c`, so the run of digits is read
    constructor
    · rw [readNumber.eq_4 (c :: s ++ rest) (fun _ heq => hcminus (List.cons.inj heq).1)
        (fun _ heq => hc0 (List.cons.inj heq).1), digitRun_append hs.digits h]
      simp only [if_neg hnonempty, readFraction_of_ends h, readExponent_of_ends h]
      rfl
    · rw [readNumber.eq_2 (c :: s ++ rest) (fun _ heq => hc0 (List.cons.inj heq).1),
        digitRun_append hs.digits h]
      simp only [if_neg hnonempty, readFraction_of_ends h, readExponent_of_ends h]
      rfl

/-- **A printed number** is read as the number where it ends. -/
theorem readNumber_ofInt (n : Int) (h : Ends rest) :
    readNumber (Text.ofInt n ++ rest) = some (.int n, rest) := by
  cases n with
  | ofNat n =>
    rw [Text.ofInt, (readNumber_numeral (isNumeral_ofNat n) h).1, digitsValue_ofNat]
    rfl
  | negSucc n =>
    rw [Text.ofInt, List.cons_append, (readNumber_numeral (isNumeral_ofNat (n + 1)) h).2,
      digitsValue_ofNat]
    rfl

end Numbers

end ClassGroups.Json
