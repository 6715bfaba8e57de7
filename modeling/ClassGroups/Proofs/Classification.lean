import ClassGroups.Classification

/-!
# The variant of a class and its category

The search for the variant of a class goes through the class once and counts open brackets.
`IsVariant` says of a text alone, without the class behind it, that the search cuts right after it:
a class has the variant `v` exactly if it starts with `v` and a colon and `v` is such a text
(`splitVariant_eq_some_iff`). What stands behind the colon has no say in it, whatever brackets and
colons it holds.

The category of a class is that of the first rule with a matcher for it (`lookUp_eq_of_claims`), and
the matchers for variants and for plain classes are disjoint. So a category can only be reached by
the kind of class for which it has matchers (`claims_or_eq_other`). Together these give the main
statement, `variant_alone_decides`.
-/

namespace ClassGroups

/-! ### Variants, told without what follows -/

/-- The depth of brackets behind a character. -/
def depthAfter (depth : Nat) (c : Char) : Nat :=
  if c = '[' then depth + 1 else if c = ']' then depth - 1 else depth

/-- The depth of brackets behind a text. A closing bracket without an opening one does not count. -/
def bracketDepth (s : Text) : Nat := s.foldl depthAfter 0

/-- **A text is a variant** if a colon behind it ends the search, and no earlier colon does. -/
structure IsVariant (v : Text) : Prop where
  /-- Something stands before the colon. -/
  ne_nil : v ≠ []
  /-- The colon stands outside of brackets. -/
  closed : bracketDepth v = 0
  /-- A colon in the text has nothing before it or stands in brackets. -/
  uncut : ∀ a b, v = a ++ ':' :: b → a ≠ [] → bracketDepth a ≠ 0

/-- **What is left of a variant** in the middle of the search, at a depth and after a beginning that
may be empty. -/
structure IsVariantFrom (started : Bool) (depth : Nat) (v : Text) : Prop where
  ne_nil : started = true ∨ v ≠ []
  closed : v.foldl depthAfter depth = 0
  uncut : ∀ a b, v = a ++ ':' :: b → started = true ∨ a ≠ [] → a.foldl depthAfter depth ≠ 0

theorem isVariantFrom_start_iff {v : Text} : IsVariantFrom false 0 v ↔ IsVariant v := by
  constructor
  · rintro ⟨hne, hclosed, huncut⟩
    exact ⟨by simpa using hne, hclosed, fun a b hv ha => huncut a b hv (.inr ha)⟩
  · rintro ⟨hne, hclosed, huncut⟩
    exact ⟨.inr hne, hclosed, fun a b hv ha => huncut a b hv (by simpa using ha)⟩

section Search

variable {started : Bool} {depth : Nat} {c : Char} {s v r : Text}

/-- Whether the search ends at a character. -/
abbrev EndsVariant (started : Bool) (depth : Nat) (c : Char) : Prop :=
  c = ':' ∧ depth = 0 ∧ started = true

theorem variantCut?_cons (started : Bool) (depth : Nat) (c : Char) (s : Text) :
    variantCut? started depth (c :: s)
      = if EndsVariant started depth c then some ([], s)
        else (variantCut? true (depthAfter depth c) s).map fun (v, r) => (c :: v, r) := by
  rw [variantCut?, depthAfter]
  by_cases hopen : c = '['
  · -- brackets are no colons
    rw [if_pos hopen, if_pos hopen, if_neg (by simp [EndsVariant, hopen])]
  · by_cases hclose : c = ']'
    · rw [if_neg hopen, if_pos hclose, if_neg hopen, if_pos hclose,
        if_neg (by simp [EndsVariant, hclose])]
    · rw [if_neg hopen, if_neg hclose, if_neg hopen, if_neg hclose]

theorem isVariantFrom_nil_iff : IsVariantFrom started depth [] ↔ started = true ∧ depth = 0 := by
  constructor
  · rintro ⟨hne, hclosed, -⟩
    exact ⟨by simpa using hne, hclosed⟩
  · rintro ⟨hstarted, hdepth⟩
    exact ⟨.inl hstarted, hdepth, fun a b hv => absurd hv (by simp)⟩

/-- **One step of the search**: it does not end at the character, and goes on behind it. -/
theorem isVariantFrom_cons_iff :
    IsVariantFrom started depth (c :: v)
      ↔ ¬EndsVariant started depth c ∧ IsVariantFrom true (depthAfter depth c) v := by
  constructor
  · rintro ⟨-, hclosed, huncut⟩
    refine ⟨?_, .inl rfl, hclosed, fun a b hv _ => ?_⟩
    · rintro ⟨rfl, rfl, hstarted⟩
      exact huncut [] v rfl (.inl hstarted) rfl
    · exact huncut (c :: a) b (by rw [hv, List.cons_append]) (.inr (List.cons_ne_nil c a))
  · rintro ⟨hends, -, hclosed, huncut⟩
    refine ⟨.inr (List.cons_ne_nil c v), hclosed, fun a b hv ha => ?_⟩
    cases a with
    | nil =>
      -- the colon is the character itself
      obtain ⟨rfl, -⟩ := List.cons.inj hv
      intro hdepth
      exact hends ⟨rfl, hdepth, by simpa using ha⟩
    | cons d a =>
      obtain ⟨rfl, htail⟩ := List.cons.inj hv
      exact huncut a b htail (.inl rfl)

/-- **The search** cuts behind what is left of a variant. -/
theorem variantCut?_eq_some_iff :
    variantCut? started depth s = some (v, r)
      ↔ s = v ++ ':' :: r ∧ IsVariantFrom started depth v := by
  -- a character ends the search or goes to the front of what is found behind it
  induction s generalizing started depth v with
  | nil => simp [variantCut?]
  | cons c s ih =>
    rw [variantCut?_cons]
    by_cases hends : EndsVariant started depth c
    · rw [if_pos hends, Option.some.injEq, Prod.mk.injEq]
      constructor
      · rintro ⟨rfl, rfl⟩
        rw [hends.1]
        exact ⟨rfl, isVariantFrom_nil_iff.mpr hends.2.symm⟩
      · rintro ⟨hs, hv⟩
        cases v with
        | nil => exact ⟨rfl, (List.cons.inj hs).2⟩
        | cons d v =>
          -- a longer variant would have to pass this colon
          obtain ⟨rfl, -⟩ := List.cons.inj hs
          exact absurd hends (isVariantFrom_cons_iff.mp hv).1
    · rw [if_neg hends, Option.map_eq_some_iff]
      constructor
      · rintro ⟨⟨v', r'⟩, hcut, heq⟩
        obtain ⟨rfl, rfl⟩ := Prod.mk.inj heq
        obtain ⟨rfl, hv⟩ := ih.mp hcut
        exact ⟨rfl, isVariantFrom_cons_iff.mpr ⟨hends, hv⟩⟩
      · rintro ⟨hs, hv⟩
        cases v with
        | nil =>
          -- an empty rest of the variant would end at this character
          obtain ⟨rfl, -⟩ := List.cons.inj hs
          obtain ⟨hstarted, hdepth⟩ := isVariantFrom_nil_iff.mp hv
          exact absurd ⟨rfl, hdepth, hstarted⟩ hends
        | cons d v =>
          obtain ⟨rfl, htail⟩ := List.cons.inj hs
          exact ⟨(v, r), ih.mpr ⟨htail, (isVariantFrom_cons_iff.mp hv).2⟩, rfl⟩

end Search

/-! ### The variant of a class -/

section Split

variable {token v r : Text}

/-- **The variant of a class** is the variant with a colon behind it that the class starts with. -/
theorem splitVariant_eq_some_iff :
    splitVariant token = (some v, r) ↔ token = v ++ ':' :: r ∧ IsVariant v := by
  rw [← isVariantFrom_start_iff, ← variantCut?_eq_some_iff, splitVariant]
  cases variantCut? false 0 token with
  | none => simp
  | some cut => simp [Prod.ext_iff]

theorem IsVariant.splitVariant_eq (h : IsVariant v) (r : Text) :
    splitVariant (v ++ ':' :: r) = (some v, r) :=
  splitVariant_eq_some_iff.mpr ⟨rfl, h⟩

/-- A class has no variant if none of its colons has one before it. -/
theorem splitVariant_eq_none_iff :
    splitVariant token = (none, token) ↔ ∀ v r, token = v ++ ':' :: r → ¬IsVariant v := by
  constructor
  · intro h v r htoken hv
    have hsome := splitVariant_eq_some_iff.mpr ⟨htoken, hv⟩
    rw [h] at hsome
    exact absurd (Prod.mk.inj hsome).1 (by simp)
  · intro h
    unfold splitVariant
    cases hcut : variantCut? false 0 token with
    | none => rfl
    | some cut =>
      obtain ⟨htoken, hv⟩ := variantCut?_eq_some_iff.mp hcut
      exact absurd (isVariantFrom_start_iff.mp hv) (h _ _ htoken)

/-- A class without a colon has no variant. -/
theorem splitVariant_of_notMem (h : ':' ∉ token) : splitVariant token = (none, token) := by
  refine splitVariant_eq_none_iff.mpr fun v r htoken => ?_
  exact absurd (htoken ▸ List.mem_append_right v List.mem_cons_self) h

theorem classify_of_splitVariant_eq_some (h : splitVariant token = (some v, r)) :
    classify token = lookUp true v := by
  rw [classify, h]

theorem classify_of_splitVariant_eq_none (h : splitVariant token = (none, token)) :
    classify token = lookUp false (bare token) := by
  rw [classify, h]

/-- The depth does not change over a text without brackets. -/
theorem bracketDepth_eq_zero (hopen : '[' ∉ v) (hclose : ']' ∉ v) : bracketDepth v = 0 := by
  unfold bracketDepth
  induction v with
  | nil => rfl
  | cons c v ih =>
    rw [List.mem_cons, not_or] at hopen hclose
    rw [List.foldl_cons, depthAfter, if_neg (Ne.symm hopen.1), if_neg (Ne.symm hclose.1)]
    exact ih hopen.2 hclose.2

/-- A text without colons and brackets is a variant. -/
theorem isVariant_of_notMem (hne : v ≠ []) (hcolon : ':' ∉ v) (hopen : '[' ∉ v)
    (hclose : ']' ∉ v) : IsVariant v where
  ne_nil := hne
  closed := bracketDepth_eq_zero hopen hclose
  uncut := by
    rintro a b rfl -
    exact absurd (List.mem_append_right a List.mem_cons_self) hcolon

end Split

/-! ### The first rule that claims a subject -/

namespace Category

/-- Whether a matcher of the category of the wanted kind accepts a subject. -/
def claims (c : Category) (ofVariant : Bool) (subject : Text) : Bool :=
  c.matchers.any fun m => m.forVariants == ofVariant && m.accepts subject

/-- The categories with rules before that of a category. -/
def earlier (c : Category) : List Category := all.takeWhile (· ≠ c)

theorem mem_all (c : Category) : c ∈ all := by cases c <;> decide

end Category

section LookUp

variable {c : Category} {ofVariant : Bool} {subject : Text}

/-- The numbers of the rules have no say in the search. -/
theorem lookUp_eq_find? (ofVariant : Bool) (subject : Text) :
    lookUp ofVariant subject = (Category.all.find? (·.claims ofVariant subject)).getD .other := by
  have hrules : (categoryTable.find? (·.claims ofVariant subject)).map (·.category)
      = Category.all.find? (·.claims ofVariant subject) := calc
    _ = (Category.all.zipIdx.find? ((·.claims ofVariant subject) ∘ Prod.fst)).map Prod.fst := by
      rw [categoryTable, List.find?_map, Option.map_map]
      rfl
    _ = (Category.all.zipIdx.map Prod.fst).find? (·.claims ofVariant subject) :=
      List.find?_map.symm
    _ = Category.all.find? (·.claims ofVariant subject) := by rw [List.zipIdx_map_fst]
  rw [lookUp, hrules]

theorem lookUp_eq_of_claims (hc : c.claims ofVariant subject = true)
    (hearlier : ∀ d ∈ c.earlier, d.claims ofVariant subject = false) :
    lookUp ofVariant subject = c := by
  have hsplit : ∃ later, Category.all = c.earlier ++ c :: later := by
    cases c <;> exact ⟨_, rfl⟩
  obtain ⟨later, hsplit⟩ := hsplit
  have hfind : Category.all.find? (·.claims ofVariant subject) = some c :=
    List.find?_eq_some_iff_append.mpr
      ⟨hc, c.earlier, later, hsplit, fun d hd => by simp [hearlier d hd]⟩
  rw [lookUp_eq_find?, hfind]
  rfl

theorem claims_or_eq_other (ofVariant : Bool) (subject : Text) :
    (lookUp ofVariant subject).claims ofVariant subject = true
      ∨ lookUp ofVariant subject = .other := by
  rw [lookUp_eq_find?]
  cases hfind : Category.all.find? (·.claims ofVariant subject) with
  | none => exact .inr rfl
  | some c =>
    have hclaims := List.find?_some hfind
    exact .inl hclaims

/-- What a category claims, one of its matchers is for. -/
theorem exists_forVariants_of_claims (h : c.claims ofVariant subject = true) :
    ∃ m ∈ c.matchers, m.forVariants = ofVariant := by
  obtain ⟨m, hm, haccepts⟩ := List.any_eq_true.mp h
  exact ⟨m, hm, beq_iff_eq.mp (Bool.and_eq_true_iff.mp haccepts).1⟩

end LookUp

/-! ### The categories of each kind of class -/

/-- A category is reached by a kind of class only by its matchers for this kind, or by default. -/
theorem exists_forVariants_or_eq_other (ofVariant : Bool) (subject : Text) :
    (∃ m ∈ (lookUp ofVariant subject).matchers, m.forVariants = ofVariant)
      ∨ lookUp ofVariant subject = .other :=
  (claims_or_eq_other ofVariant subject).imp_left exists_forVariants_of_claims

theorem lookUp_true_mem (v : Text) :
    lookUp true v ∈ [Category.text, .states, .responsive, .other] := by
  have hmatchers : ∀ c ∈ Category.all, (∃ m ∈ c.matchers, m.forVariants = true) →
      c ∈ [Category.text, .states, .responsive, .other] := by decide
  rcases exists_forVariants_or_eq_other true v with hexists | hother
  · exact hmatchers _ (Category.mem_all _) hexists
  · rw [hother]
    decide

theorem lookUp_false_notMem (subject : Text) :
    lookUp false subject ∉ [Category.states, .responsive] := by
  have hmatchers : ∀ c ∈ Category.all, (∃ m ∈ c.matchers, m.forVariants = false) →
      c ∉ [Category.states, .responsive] := by decide
  rcases exists_forVariants_or_eq_other false subject with hexists | hother
  · exact hmatchers _ (Category.mem_all _) hexists
  · rw [hother]
    decide

/-! ### What the variant decides -/

/-- **The variant alone decides** the category of a class that has one. Such a class is its variant,
a colon and a rest, and with any other rest it has the same variant and the same category, which is
one of those with matchers for variants. A class without a variant never belongs to a category that
has matchers for variants only. -/
theorem variant_alone_decides (token : Text) :
    (∀ v r, splitVariant token = (some v, r) →
      token = v ++ ':' :: r ∧
      (∀ r', splitVariant (v ++ ':' :: r') = (some v, r') ∧
        classify (v ++ ':' :: r') = classify token) ∧
      classify token ∈ [Category.text, .states, .responsive, .other]) ∧
    (splitVariant token = (none, token) →
      classify token ≠ .states ∧ classify token ≠ .responsive) := by
  refine ⟨fun v r h => ?_, fun h => ?_⟩
  · obtain ⟨htoken, hv⟩ := splitVariant_eq_some_iff.mp h
    have hclassify : classify token = lookUp true v := classify_of_splitVariant_eq_some h
    refine ⟨htoken, fun r' => ⟨hv.splitVariant_eq r', ?_⟩, ?_⟩
    · rw [classify_of_splitVariant_eq_some (hv.splitVariant_eq r'), hclassify]
    · rw [hclassify]
      exact lookUp_true_mem v
  · rw [classify_of_splitVariant_eq_none h]
    simpa using lookUp_false_notMem (bare token)

/-- A variant keeps its colons in brackets, and the rest may have brackets of its own. -/
theorem variant_alone_decides_bracketed :
    splitVariant "has-[a:b]]:[c" = (some "has-[a:b]]".toList, "[c".toList) ∧
    splitVariant "has-[a:b]]:]d:e" = (some "has-[a:b]]".toList, "]d:e".toList) ∧
    classify "has-[a:b]]:]d:e" = classify "has-[a:b]]:[c" ∧
    splitVariant ":p-[a:b]" = (none, ":p-[a:b]".toList) ∧
    classify ":p-[a:b]" ≠ .states := by
  have hsplit : splitVariant "has-[a:b]]:[c" = (some "has-[a:b]]".toList, "[c".toList) := by decide
  have hplain : splitVariant ":p-[a:b]" = (none, ":p-[a:b]".toList) := by decide
  obtain ⟨-, hrest, -⟩ := (variant_alone_decides "has-[a:b]]:[c").1 _ _ hsplit
  obtain ⟨hsplit', hclassify⟩ := hrest "]d:e"
  exact ⟨hsplit, hsplit', hclassify, hplain, ((variant_alone_decides ":p-[a:b]").2 hplain).1⟩

end ClassGroups
