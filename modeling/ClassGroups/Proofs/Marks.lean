import ClassGroups.Proofs.Entries

/-!
# Marks in front of a class

A class may be marked as important by `!`, made negative by `-`, or both, in this order. The marks
are taken off before a plain class is looked up, so they have no say in its category (`bare_append`).

This is not the whole story, as the marks are still there while the variant of the class is looked
for. A colon at the very front of a class separates nothing, but behind marks it ends a variant, and
the variant is the marks. So `:flex` is a plain class and `!:flex` has a variant, and different
matchers are asked for the two. Marks lead to a variant in no other way (`splitVariant_append`), and
both look-ups come to nothing: no marks are a variant of the table, and no category claims a plain
class that does not start with a letter (`lookUp_eq_other_of_not_isAlpha`).
-/

namespace ClassGroups

/-- **The marks that a class can take**: one for importance unless it has one, and one for the sign,
with importance or without it, unless it starts with either of them. -/
inductive Marks (token : Text) : Text → Prop
  | important (himportant : token.head? ≠ some '!') : Marks token ['!']
  | negative (himportant : token.head? ≠ some '!') (hsign : token.head? ≠ some '-') :
      Marks token ['-']
  | both (himportant : token.head? ≠ some '!') (hsign : token.head? ≠ some '-') :
      Marks token ['!', '-']

/-! ### Marks are taken off -/

section Bare

variable {sign : Char} {token marks : Text}

@[simp] theorem bare.dropSign_cons_self (sign : Char) (s : Text) :
    dropSign sign (sign :: s) = s := by
  rw [dropSign, if_pos rfl]

theorem bare.dropSign_of_head?_ne (h : token.head? ≠ some sign) : dropSign sign token = token := by
  cases token with
  | nil => rfl
  | cons c s =>
    have hc : c ≠ sign := fun he => h (congrArg some he)
    rw [dropSign, if_neg hc]

/-- **Marks are taken off**, and what is left is what would be left without them. -/
theorem bare_append (h : Marks token marks) : bare (marks ++ token) = bare token := by
  cases h with
  | important himportant =>
    -- the sign of the class, if it has one, is left in both cases
    calc bare ('!' :: token) = bare.dropSign '-' token := by rw [bare, bare.dropSign_cons_self]
      _ = bare token := by rw [bare, bare.dropSign_of_head?_ne himportant]
  | negative himportant hsign =>
    calc bare ('-' :: token) = bare.dropSign '-' ('-' :: token) := rfl
      _ = token := bare.dropSign_cons_self '-' token
      _ = bare token := by
        rw [bare, bare.dropSign_of_head?_ne himportant, bare.dropSign_of_head?_ne hsign]
  | both himportant hsign =>
    calc bare ('!' :: '-' :: token) = token := by
          rw [bare, bare.dropSign_cons_self, bare.dropSign_cons_self]
      _ = bare token := by
        rw [bare, bare.dropSign_of_head?_ne himportant, bare.dropSign_of_head?_ne hsign]

end Bare

/-! ### Variants behind a beginning -/

section Variants

variable {token front v r : Text}

/-- What is left of a variant behind a beginning is a variant, unless nothing is left. The beginning
has no brackets, so it does not change the depth at which a colon stands. -/
theorem IsVariant.of_append (h : IsVariant (front ++ v)) (hv : v ≠ []) (hopen : '[' ∉ front)
    (hclose : ']' ∉ front) : IsVariant v := by
  have hdepth (s : Text) : bracketDepth (front ++ s) = bracketDepth s := by
    have hzero : front.foldl depthAfter 0 = 0 := bracketDepth_eq_zero hopen hclose
    rw [bracketDepth, List.foldl_append, hzero]
    rfl
  refine ⟨hv, (hdepth v).symm.trans h.closed, ?_⟩
  rintro a b rfl ha
  have huncut := h.uncut (front ++ a) b (by rw [List.append_assoc]) (by simp [ha])
  rwa [hdepth] at huncut

/-- **A beginning before a plain class** leads to a variant only with a colon right behind it, and
then it is the variant. -/
theorem splitVariant_append (htoken : splitVariant token = (none, token)) (hne : front ≠ [])
    (hcolon : ':' ∉ front) (hopen : '[' ∉ front) (hclose : ']' ∉ front) :
    (∃ r, token = ':' :: r ∧ splitVariant (front ++ token) = (some front, r)) ∨
      token.head? ≠ some ':' ∧ splitVariant (front ++ token) = (none, front ++ token) := by
  by_cases hhead : token.head? = some ':'
  · obtain ⟨r, rfl⟩ := List.head?_eq_some_iff.mp hhead
    exact .inl ⟨r, rfl, (isVariant_of_notMem hne hcolon hopen hclose).splitVariant_eq r⟩
  · refine .inr ⟨hhead, splitVariant_eq_none_iff.mpr fun u r hsplit hu => ?_⟩
    -- the beginning has no colon, so the one behind the variant is a colon of the class
    rcases List.append_eq_append_iff.mp hsplit with ⟨v, rfl, rfl⟩ | ⟨v, rfl, hcut⟩
    · have hv : v ≠ [] := by
        rintro rfl
        exact hhead rfl
      exact splitVariant_eq_none_iff.mp htoken v r rfl (hu.of_append hv hopen hclose)
    · cases v with
      | nil => exact hhead (by rw [← List.nil_append token, ← hcut]; rfl)
      | cons c v =>
        obtain ⟨rfl, -⟩ := List.cons.inj hcut
        exact hcolon (by simp)

end Variants

/-! ### Look-ups that come to nothing -/

section Other

variable {s : Text}

/-- **A plain class that does not start with a letter** is claimed by no category, as all names of
the table start with one. -/
theorem lookUp_eq_other_of_not_isAlpha (h : s.head?.any Char.isAlpha = false) :
    lookUp false s = .other := by
  refine (claims_or_eq_other false s).resolve_left fun hclaims => ?_
  obtain ⟨m, hm, hmatcher⟩ := List.any_eq_true.mp hclaims
  obtain ⟨hkind, haccepts⟩ := Bool.and_eq_true_iff.mp hmatcher
  obtain ⟨name, hname, hprefix⟩ := exists_name_of_accepts (beq_iff_eq.mp hkind) haccepts
  obtain ⟨hletter, -⟩ := plain_utilities _ (Category.mem_all _) name
    (List.mem_flatMap.mpr ⟨m, hm, hname⟩)
  -- the name and the class start with the same character, or the class is empty
  obtain ⟨rest, hrest⟩ := hprefix
  have hnonempty : name.toList ≠ [] := by
    intro hnil
    rw [hnil] at hletter
    exact absurd hletter Bool.false_ne_true
  obtain ⟨d, n, hn⟩ := List.exists_cons_of_ne_nil hnonempty
  rw [hn] at hletter
  rw [hyphened, hn] at hrest
  cases s with
  | nil =>
    obtain rfl : d = '-' := (List.cons.inj hrest).1
    have hhyphen : Char.isAlpha '-' = true := hletter
    exact absurd hhyphen (by decide)
  | cons e s =>
    obtain rfl : d = e := (List.cons.inj hrest).1
    exact absurd (h.symm.trans hletter) Bool.false_ne_true

end Other

section Classify

variable {token marks : Text}

/-- No marks are a variant of the table. -/
theorem lookUp_marks (h : Marks token marks) : lookUp true marks = .other := by
  cases h <;> decide +kernel

/-- Marks are neither colons nor brackets. -/
theorem plain_marks (h : Marks token marks) :
    marks ≠ [] ∧ ':' ∉ marks ∧ '[' ∉ marks ∧ ']' ∉ marks := by
  cases h <;> decide

/-- **Marks do not change the category** of a class without a variant, also where a colon at its
front makes a variant of them. -/
theorem classify_append_marks (htoken : splitVariant token = (none, token))
    (h : Marks token marks) :
    classify (marks ++ token) = classify token ∧
      ∀ r, token = ':' :: r → splitVariant (marks ++ token) = (some marks, r) := by
  obtain ⟨hne, hcolon, hopen, hclose⟩ := plain_marks h
  rcases splitVariant_append htoken hne hcolon hopen hclose with ⟨r, rfl, hsplit⟩ | ⟨hhead, hsplit⟩
  · refine ⟨?_, ?_⟩
    · -- the marks are looked up as a variant, and the class as a plain one that is no name
      have hbare : bare (':' :: r) = ':' :: r := rfl
      have hother : lookUp false (':' :: r) = .other := lookUp_eq_other_of_not_isAlpha rfl
      rw [classify_of_splitVariant_eq_some hsplit, classify_of_splitVariant_eq_none htoken, hbare,
        lookUp_marks h, hother]
    · rintro r' heq
      rw [hsplit, (List.cons.inj heq).2]
  · refine ⟨?_, ?_⟩
    · rw [classify_of_splitVariant_eq_none hsplit, classify_of_splitVariant_eq_none htoken,
        bare_append h]
    · rintro r rfl
      exact absurd rfl hhead

/-- An important class behind a colon, whose mark is its variant, and an important negative class. -/
theorem classify_append_important :
    (classify "!:p-[a:b]".toList = classify ":p-[a:b]".toList ∧
      ∀ r, ":p-[a:b]".toList = ':' :: r → splitVariant "!:p-[a:b]".toList = (some ['!'], r)) ∧
    (classify "!-mt-4".toList = classify "mt-4".toList ∧
      ∀ r, "mt-4".toList = ':' :: r → splitVariant "!-mt-4".toList = (some ['!', '-'], r)) :=
  ⟨classify_append_marks (by decide +kernel) (.important (by decide)),
    classify_append_marks (by decide +kernel) (.both (by decide) (by decide))⟩

end Classify

end ClassGroups
