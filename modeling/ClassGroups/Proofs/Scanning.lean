import ClassGroups.Category.Matcher
import ClassGroups.Proofs.Characters

/-!
# Reading a text from the left

What the leaves of the scanners do with a text that is given as a concatenation: white space in
front is skipped, an expected beginning is taken off, and the rest is left as it is.
-/

namespace ClassGroups.Text

/-! ### White space in front -/

theorem trimLeft_append_of_blank {a : Text} (h : Blank a) (b : Text) :
    trimLeft (a ++ b) = trimLeft b :=
  List.dropWhile_append_of_pos fun c hc => List.all_eq_true.mp h c hc

theorem trimLeft_cons_of_isBlank {c : Char} (h : isBlank c = true) (s : Text) :
    trimLeft (c :: s) = trimLeft s :=
  List.dropWhile_cons_of_pos h

theorem trimLeft_cons_of_not_isBlank {c : Char} (h : isBlank c = false) (s : Text) :
    trimLeft (c :: s) = c :: s :=
  List.dropWhile_cons_of_neg (by simp [h])

theorem notMem_of_blank {w : Text} (hw : Blank w) {c : Char} (hc : isBlank c = false) : c ∉ w := by
  intro hmem
  have hblank := List.all_eq_true.mp hw c hmem
  exact absurd hblank (by simp [hc])

theorem leadingBlanks_append_trimLeft (s : Text) : leadingBlanks s ++ trimLeft s = s :=
  List.takeWhile_append_dropWhile

theorem blank_leadingBlanks (s : Text) : Blank (leadingBlanks s) := List.all_takeWhile

/-- What is left after the white space does not start with more of it. -/
theorem isBlank_of_trimLeft_eq_cons {s t : Text} {c : Char} (h : trimLeft s = c :: t) :
    isBlank c = false := by
  have hhead := List.head?_dropWhile_not isBlank s
  unfold trimLeft at h
  rw [h] at hhead
  simpa using hhead

theorem trimLeft_trimLeft (s : Text) : trimLeft (trimLeft s) = trimLeft s := by
  cases h : trimLeft s with
  | nil => rfl
  | cons c t => exact trimLeft_cons_of_not_isBlank (isBlank_of_trimLeft_eq_cons h) t

theorem trimLeft_append_of_isIdentifier {a : Text} (h : isIdentifier a = true) (b : Text) :
    trimLeft (a ++ b) = a ++ b := by
  obtain ⟨c, rest, rfl, hc⟩ := exists_cons_of_isIdentifier h
  rw [List.cons_append]
  exact trimLeft_cons_of_not_isBlank hc _

theorem mem_of_mem_trim {s : Text} {c : Char} (h : c ∈ trim s) : c ∈ s := by
  have hright : c ∈ (trimLeft s).reverse.dropWhile isBlank := List.mem_reverse.mp h
  have hleft := (List.dropWhile_sublist isBlank).mem hright
  exact (List.dropWhile_sublist isBlank).mem (List.mem_reverse.mp hleft)

@[simp] theorem blank_nil : Blank [] := rfl

theorem blank_append {a b : Text} (ha : Blank a) (hb : Blank b) : Blank (a ++ b) := by
  unfold Blank at ha hb ⊢
  rw [List.all_append, ha, hb]
  rfl

theorem blank_cons {c : Char} {a : Text} (hc : isBlank c = true) (ha : Blank a) :
    Blank (c :: a) := by
  unfold Blank at ha ⊢
  rw [List.all_cons, hc, ha]
  rfl

/-! ### An expected beginning -/

theorem after?_cons_cons (c d : Char) (a s : Text) :
    after? (c :: a) (d :: s) = if c == d then after? a s else none := rfl

@[simp] theorem after?_cons_nil (c : Char) (a : Text) : after? (c :: a) [] = none := rfl

theorem after?_append (a b : Text) : after? a (a ++ b) = some b := by
  induction a with
  | nil => rfl
  | cons c a ih => rw [List.cons_append, after?_cons_cons, if_pos (beq_self_eq_true c), ih]

theorem after?_cons_self (c : Char) (s : Text) : after? [c] (c :: s) = some s :=
  after?_append [c] s

theorem after?_cons_of_ne {c d : Char} (h : c ≠ d) (a s : Text) :
    after? (c :: a) (d :: s) = none := by
  rw [after?_cons_cons, if_neg (by simpa using h)]

/-- What is left after a beginning is what stands behind it. -/
theorem eq_append_of_after? {a s rest : Text} (h : after? a s = some rest) : s = a ++ rest := by
  induction a generalizing s with
  | nil => exact Option.some.inj h
  | cons c a ih =>
    cases s with
    | nil => exact absurd h (by simp)
    | cons d s =>
      by_cases hcd : c = d
      · subst hcd
        rw [after?_cons_cons, if_pos (beq_self_eq_true c)] at h
        rw [ih h, List.cons_append]
      · rw [after?_cons_of_ne hcd] at h
        exact absurd h (by simp)

/-! ### The first occurrence of a character -/

/-- Cutting finds the first occurrence and keeps everything else. -/
theorem cutAt?_eq_some_iff {c : Char} {s a b : Text} :
    cutAt? c s = some (a, b) ↔ c ∉ a ∧ s = a ++ c :: b := by
  induction s generalizing a with
  | nil => simp [cutAt?]
  | cons d s ih =>
    unfold cutAt?
    by_cases hd : d = c
    · -- the cut is here, so nothing stands before it
      subst hd
      rw [if_pos rfl, Option.some.injEq, Prod.mk.injEq]
      constructor
      · rintro ⟨rfl, rfl⟩
        exact ⟨List.not_mem_nil, rfl⟩
      · rintro ⟨hmem, heq⟩
        cases a with
        | nil => exact ⟨rfl, (List.cons.inj heq).2⟩
        | cons e a =>
          rw [List.cons_append] at heq
          exact absurd ((List.cons.inj heq).1 ▸ List.mem_cons_self) hmem
    · -- the cut comes later, with this character in front of what stands before it
      rw [if_neg hd, Option.map_eq_some_iff]
      constructor
      · rintro ⟨⟨a', b'⟩, hcut, heq⟩
        obtain ⟨rfl, rfl⟩ := Prod.mk.inj heq
        obtain ⟨hmem, rfl⟩ := ih.mp hcut
        exact ⟨by simpa [Ne.symm hd] using hmem, rfl⟩
      · rintro ⟨hmem, heq⟩
        cases a with
        | nil => exact absurd (List.cons.inj heq).1 hd
        | cons e a =>
          obtain ⟨rfl, rfl⟩ := List.cons.inj heq
          exact ⟨(a, b), ih.mpr ⟨fun h => hmem (List.mem_cons_of_mem _ h), rfl⟩, rfl⟩

end ClassGroups.Text
