import ClassGroups.Text.Blank
import ClassGroups.Text.Identifier

/-!
# Blank characters against the others

White space separates what is written in identifiers, so no character is both. The tables of letters
are long and that of white space is short: `forall_isBlank` turns a statement about all white space
into one about the characters of its table, which is then decided.
-/

namespace ClassGroups

/-- The characters of a list of ranges, one by one. -/
def CharRanges.chars (ranges : CharRanges) : List Char :=
  ranges.flatMap fun (first, last) => (List.range' first (last + 1 - first)).map Char.ofNat

theorem CharRanges.mem_chars {ranges : CharRanges} {c : Char} (h : ranges.covers c = true) :
    c ∈ ranges.chars := by
  obtain ⟨⟨first, last⟩, hmem, hc⟩ := List.any_eq_true.mp h
  rw [Bool.and_eq_true, decide_eq_true_eq, decide_eq_true_eq] at hc
  refine List.mem_flatMap.mpr ⟨_, hmem, List.mem_map.mpr ⟨c.toNat, ?_, Char.ofNat_toNat c⟩⟩
  rw [List.mem_range'_1]
  omega

/-- A test that every character in the table of white space passes is passed by all white space. -/
theorem forall_isBlank {p : Char → Bool} (h : blankRanges.chars.all p = true) {c : Char}
    (hc : isBlank c = true) : p c = true :=
  List.all_eq_true.mp h c (CharRanges.mem_chars hc)

theorem isBlank_space : isBlank ' ' = true := by decide

theorem isBlank_newline : isBlank '\n' = true := by decide

theorem isIdentifierRest_of_isBlank {c : Char} (h : isBlank c = true) :
    isIdentifierRest c = false := by
  have hall : (blankRanges.chars.all fun c => !isIdentifierRest c) = true := by decide +kernel
  simpa using forall_isBlank hall h

theorem isIdentifierRest_of_isIdentifierStart {c : Char} (h : isIdentifierStart c = true) :
    isIdentifierRest c = true := by
  unfold isIdentifierRest
  -- below 0x80 the two tests are about letters and digits, above they share the table of letters
  by_cases hc : c.toNat < 0x80
  · rw [if_pos hc]
    rw [isIdentifierStart, if_pos hc] at h
    simp only [Char.isAlphanum, Bool.or_eq_true] at h ⊢
    exact h.imp_left Or.inl
  · rw [if_neg hc, h, Bool.true_or, Bool.true_or]

/-- Every character of an identifier is one that may continue it. -/
theorem isIdentifierRest_of_mem {s : Text} (h : isIdentifier s = true) {c : Char} (hc : c ∈ s) :
    isIdentifierRest c = true := by
  cases s with
  | nil => exact absurd hc List.not_mem_nil
  | cons d rest =>
    rw [isIdentifier, Bool.and_eq_true, List.all_eq_true] at h
    rcases List.mem_cons.mp hc with rfl | hc
    · exact isIdentifierRest_of_isIdentifierStart h.1
    · exact h.2 c hc

theorem not_isBlank_of_isIdentifier {s : Text} (h : isIdentifier s = true) {c : Char}
    (hc : c ∈ s) : isBlank c = false := by
  cases hblank : isBlank c with
  | false => rfl
  | true =>
    have hrest := isIdentifierRest_of_mem h hc
    rw [isIdentifierRest_of_isBlank hblank] at hrest
    exact absurd hrest (by decide)

theorem ne_nil_of_isIdentifier {s : Text} (h : isIdentifier s = true) : s ≠ [] := by
  rintro rfl
  exact absurd h (by decide)

/-- An identifier starts with something to be seen. -/
theorem exists_cons_of_isIdentifier {s : Text} (h : isIdentifier s = true) :
    ∃ c rest, s = c :: rest ∧ isBlank c = false := by
  obtain ⟨c, rest, rfl⟩ := List.exists_cons_of_ne_nil (ne_nil_of_isIdentifier h)
  exact ⟨c, rest, rfl, not_isBlank_of_isIdentifier h List.mem_cons_self⟩

theorem notMem_of_isIdentifier {s : Text} (h : isIdentifier s = true) {c : Char}
    (hc : isIdentifierRest c = false) : c ∉ s := by
  intro hmem
  rw [isIdentifierRest_of_mem h hmem] at hc
  exact absurd hc (by decide)

end ClassGroups
