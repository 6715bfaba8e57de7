import ClassGroups.Grouping
import Mathlib.Data.List.Nodup

/-!
# A grouping is the stable partition of its tokens

`IsPartition tokens g` says without the loop of `groupTokens` what the grouping of a list of tokens
has to be: one group for each category that occurs, in the order in which the categories are first
seen, each with the tokens of its category in their old order, and no token lost or made up. The
main statement, `isPartition_tokenize_iff`, is that the grouping of a class list is such a
partition and the only one.

Existence is an invariant of the loop: `IsPartition.add` carries the partition of the tokens read so
far over to the next token. The loop either extends the group of a known category in place
(`Grouping.add_of_mem`) or opens a group at the end (`Grouping.add_of_not_mem`), and these are the
two cases of the step.

Uniqueness (`IsPartition.unique`) needs no loop. Conservation of tokens fixes which categories
occur, their tokens are given by the category, and the places of the first tokens are distinct, so
they leave one order only.
-/

namespace ClassGroups

/-- The tokens of a category, in their order. -/
def tokensOf (c : Category) (tokens : List Text) : List Text := tokens.filter (classify · = c)

/-- The place of the first token of a category, which is the number of tokens if there is none. -/
def firstPlace (c : Category) (tokens : List Text) : Nat := tokens.findIdx (classify · = c)

/-- **The stable partition** of a list of tokens by category, in the order of first occurrence. -/
structure IsPartition (tokens : List Text) (g : Grouping) : Prop where
  /-- No category has two groups. -/
  distinct : (g.map (·.category)).Nodup
  /-- No group is empty. -/
  nonempty : ∀ b ∈ g, b.tokens ≠ []
  /-- A group holds the tokens of its category in their order. -/
  tokens_eq : ∀ b ∈ g, b.tokens = tokensOf b.category tokens
  /-- The groups stand in the order of their first tokens. -/
  ordered : g.Pairwise fun a b => firstPlace a.category tokens < firstPlace b.category tokens
  /-- No token is lost, made up or counted twice. -/
  conserved : g.flatten.Perm tokens

/-! ### Tokens and places of a category under one more token -/

section OneMore

variable (c : Category) (tokens : List Text) (t : Text)

theorem tokensOf_concat_self : tokensOf (classify t) (tokens ++ [t])
    = tokensOf (classify t) tokens ++ [t] := by
  simp [tokensOf]

variable {c tokens t} in
theorem tokensOf_concat_of_ne (h : classify t ≠ c) :
    tokensOf c (tokens ++ [t]) = tokensOf c tokens := by
  simp [tokensOf, h]

variable {c tokens} in
/-- Where a category occurs, a further token does not move its first place. -/
theorem firstPlace_concat (h : firstPlace c tokens < tokens.length) :
    firstPlace c (tokens ++ [t]) = firstPlace c tokens := by
  unfold firstPlace at h ⊢
  rw [List.findIdx_append, if_pos h]

variable {tokens t} in
theorem firstPlace_concat_self (h : ∀ u ∈ tokens, classify u ≠ classify t) :
    firstPlace (classify t) (tokens ++ [t]) = tokens.length := by
  have hno : tokens.findIdx (classify · = classify t) = tokens.length :=
    List.findIdx_eq_length.mpr fun u hu => by simpa using h u hu
  rw [firstPlace, List.findIdx_append, hno, if_neg (Nat.lt_irrefl _)]
  simp [List.findIdx_cons]

variable {c tokens} in
theorem firstPlace_lt_length_iff :
    firstPlace c tokens < tokens.length ↔ ∃ u ∈ tokens, classify u = c := by
  simp [firstPlace, List.findIdx_lt_length]

end OneMore

/-! ### What the loop does with one token -/

/-- A group with one more token, if it is the group of a given category. -/
def Group.extend (c : Category) (t : Text) (b : Group) : Group :=
  if b.category = c then ⟨b.category, b.tokens ++ [t]⟩ else b

section Extend

variable {c : Category} (t : Text) {b : Group}

@[simp] theorem Group.extend_category (c : Category) (b : Group) :
    (b.extend c t).category = b.category := by
  unfold Group.extend; split <;> rfl

theorem Group.extend_of_eq (h : b.category = c) :
    (b.extend c t).tokens = b.tokens ++ [t] := by
  rw [Group.extend, if_pos h]

theorem Group.extend_of_ne (h : b.category ≠ c) : b.extend c t = b := if_neg h

end Extend

namespace Grouping

variable {g : Grouping} {c : Category} {t : Text}

/-- The group of a known category grows in place. -/
theorem add_of_mem (hg : (g.map (·.category)).Nodup) (hc : c ∈ g.map (·.category)) :
    g.add c t = g.map (·.extend c t) := by
  induction g with
  | nil => exact absurd hc List.not_mem_nil
  | cons b rest ih =>
    rw [List.map_cons, List.nodup_cons] at hg
    rw [List.map_cons, List.mem_cons] at hc
    by_cases hb : b.category = c
    · -- no further group has this category, so `extend` leaves the rest alone
      have hrest : rest.map (·.extend c t) = rest := by
        refine (List.map_congr_left fun d hd => ?_).trans (List.map_id rest)
        exact Group.extend_of_ne t fun h => hg.1 (hb ▸ h ▸ List.mem_map_of_mem hd)
      rw [add, if_pos hb, List.map_cons, hrest, Group.extend, if_pos hb]
    · rw [add, if_neg hb, List.map_cons, Group.extend_of_ne t hb,
        ih hg.2 (hc.resolve_left fun h => hb h.symm)]

/-- A new category gets a group at the end. -/
theorem add_of_not_mem (hc : c ∉ g.map (·.category)) : g.add c t = g ++ [⟨c, [t]⟩] := by
  induction g with
  | nil => rfl
  | cons b rest ih =>
    rw [List.map_cons, List.mem_cons, not_or] at hc
    rw [add, if_neg fun h => hc.1 h.symm, ih hc.2, List.cons_append]

theorem flatten_add_perm (g : Grouping) (c : Category) (t : Text) :
    (g.add c t).flatten.Perm (g.flatten ++ [t]) := by
  induction g with
  | nil => exact List.Perm.refl _
  | cons b rest ih =>
    by_cases hb : b.category = c
    · rw [add, if_pos hb]
      simp only [flatten, List.flatMap_cons, List.append_assoc]
      exact (List.perm_append_comm).append_left _
    · rw [add, if_neg hb]
      simp only [flatten, List.flatMap_cons, List.append_assoc] at ih ⊢
      exact ih.append_left _

end Grouping

/-! ### The loop keeps the partition -/

namespace IsPartition

variable {tokens : List Text} {g g' : Grouping}

theorem mem_categories_iff (h : IsPartition tokens g) {c : Category} :
    c ∈ g.map (·.category) ↔ ∃ u ∈ tokens, classify u = c := by
  constructor
  · intro hc
    obtain ⟨b, hb, rfl⟩ := List.mem_map.mp hc
    obtain ⟨u, hu⟩ := List.exists_mem_of_ne_nil _ (h.nonempty b hb)
    rw [h.tokens_eq b hb, tokensOf, List.mem_filter] at hu
    exact ⟨u, hu.1, of_decide_eq_true hu.2⟩
  · rintro ⟨u, hu, rfl⟩
    -- conservation puts `u` into some group, and `tokens_eq` makes that the group of its category
    obtain ⟨b, hb, hub⟩ := List.mem_flatMap.mp (h.conserved.mem_iff.mpr hu)
    rw [h.tokens_eq b hb, tokensOf, List.mem_filter] at hub
    exact List.mem_map.mpr ⟨b, hb, (of_decide_eq_true hub.2).symm⟩

theorem firstPlace_lt_length (h : IsPartition tokens g) {b : Group} (hb : b ∈ g) :
    firstPlace b.category tokens < tokens.length :=
  firstPlace_lt_length_iff.mpr (h.mem_categories_iff.mp (List.mem_map_of_mem hb))

theorem nil : IsPartition [] [] where
  distinct := List.nodup_nil
  nonempty := by simp
  tokens_eq := by simp
  ordered := List.Pairwise.nil
  conserved := List.Perm.refl _

/-- A further token of a known category. -/
theorem extend (h : IsPartition tokens g) {t : Text} (hc : classify t ∈ g.map (·.category)) :
    IsPartition (tokens ++ [t]) (g.map (·.extend (classify t) t)) where
  distinct := by
    simpa [List.map_map, Function.comp_def] using h.distinct
  nonempty := by
    intro b hb
    obtain ⟨a, ha, rfl⟩ := List.mem_map.mp hb
    by_cases hac : a.category = classify t
    · rw [Group.extend_of_eq t hac]
      exact List.append_ne_nil_of_right_ne_nil _ (List.cons_ne_nil _ _)
    · rw [Group.extend_of_ne t hac]
      exact h.nonempty a ha
  tokens_eq := by
    intro b hb
    obtain ⟨a, ha, rfl⟩ := List.mem_map.mp hb
    rw [Group.extend_category]
    by_cases hac : a.category = classify t
    · rw [Group.extend_of_eq t hac, h.tokens_eq a ha, hac, tokensOf_concat_self]
    · rw [Group.extend_of_ne t hac, h.tokens_eq a ha, tokensOf_concat_of_ne fun e => hac e.symm]
  ordered := by
    refine List.pairwise_map.mpr (h.ordered.imp_of_mem fun {a b} ha hb hab => ?_)
    rw [Group.extend_category, Group.extend_category,
      firstPlace_concat t (h.firstPlace_lt_length ha),
      firstPlace_concat t (h.firstPlace_lt_length hb)]
    exact hab
  conserved := by
    rw [← Grouping.add_of_mem h.distinct hc]
    exact (Grouping.flatten_add_perm g _ t).trans (h.conserved.append_right _)

/-- A first token of a new category. -/
theorem openGroup (h : IsPartition tokens g) {t : Text} (hc : classify t ∉ g.map (·.category)) :
    IsPartition (tokens ++ [t]) (g ++ [⟨classify t, [t]⟩]) where
  distinct := by
    rw [List.map_append, List.nodup_append]
    refine ⟨h.distinct, List.nodup_singleton _, fun a ha b hb hab => ?_⟩
    obtain rfl : b = classify t := by simpa using hb
    exact hc (hab ▸ ha)
  nonempty := by
    intro b hb
    rcases List.mem_append.mp hb with hb | hb
    · exact h.nonempty b hb
    · obtain rfl := List.mem_singleton.mp hb
      exact List.cons_ne_nil _ _
  tokens_eq := by
    -- none of the tokens before has the new category
    have hnew : tokensOf (classify t) tokens = [] := by
      refine List.filter_eq_nil_iff.mpr fun u hu hut => ?_
      exact hc (h.mem_categories_iff.mpr ⟨u, hu, of_decide_eq_true hut⟩)
    intro b hb
    rcases List.mem_append.mp hb with hb | hb
    · rw [tokensOf_concat_of_ne fun e => hc (e ▸ List.mem_map_of_mem hb), h.tokens_eq b hb]
    · obtain rfl := List.mem_singleton.mp hb
      rw [tokensOf_concat_self, hnew, List.nil_append]
  ordered := by
    have hlast : firstPlace (classify t) (tokens ++ [t]) = tokens.length :=
      firstPlace_concat_self fun u hu e => hc (h.mem_categories_iff.mpr ⟨u, hu, e⟩)
    refine List.pairwise_append.mpr ⟨?_, List.pairwise_singleton _ _, fun a ha b hb => ?_⟩
    · refine h.ordered.imp_of_mem fun {a b} ha hb hab => ?_
      rw [firstPlace_concat t (h.firstPlace_lt_length ha),
        firstPlace_concat t (h.firstPlace_lt_length hb)]
      exact hab
    · -- the new group is first seen behind all others
      obtain rfl := List.mem_singleton.mp hb
      rw [firstPlace_concat t (h.firstPlace_lt_length ha), hlast]
      exact h.firstPlace_lt_length ha
  conserved := by
    rw [← Grouping.add_of_not_mem hc]
    exact (Grouping.flatten_add_perm g _ t).trans (h.conserved.append_right _)

/-- **Step of the loop.** A further token keeps the partition. -/
theorem add (h : IsPartition tokens g) (t : Text) :
    IsPartition (tokens ++ [t]) (g.add (classify t) t) := by
  by_cases hc : classify t ∈ g.map (·.category)
  · rw [Grouping.add_of_mem h.distinct hc]
    exact h.extend hc
  · rw [Grouping.add_of_not_mem hc]
    exact h.openGroup hc

/-- A further run of the loop keeps the partition. -/
theorem foldl_add (h : IsPartition tokens g) (more : List Text) :
    IsPartition (tokens ++ more) (more.foldl (fun g t => g.add (classify t) t) g) := by
  induction more generalizing tokens g with
  | nil => rwa [List.append_nil]
  | cons t more ih =>
    rw [List.foldl_cons, List.append_cons]
    exact ih (h.add t)

/-! ### Only one partition -/

theorem mem_of_mem (h : IsPartition tokens g) (h' : IsPartition tokens g') {b : Group}
    (hb : b ∈ g) : b ∈ g' := by
  have hc := h'.mem_categories_iff.mpr (h.mem_categories_iff.mp (List.mem_map_of_mem hb))
  obtain ⟨d, hd, hdc⟩ := List.mem_map.mp hc
  -- the group of `g'` with the category of `b` has the same tokens, so it is `b`
  have htokens : d.tokens = b.tokens := by
    rw [h'.tokens_eq d hd, h.tokens_eq b hb, hdc]
  obtain rfl : d = b := by
    cases d; cases b; simp_all
  exact hd

/-- **Uniqueness.** A list of tokens has one partition. -/
theorem unique (h : IsPartition tokens g) (h' : IsPartition tokens g') : g = g' := by
  -- both have the same groups, and their order is strict
  have hperm : g.Perm g' :=
    (List.perm_ext_iff_of_nodup (List.Nodup.of_map _ h.distinct)
      (List.Nodup.of_map _ h'.distinct)).mpr fun _ => ⟨h.mem_of_mem h', h'.mem_of_mem h⟩
  exact List.Perm.eq_of_pairwise (fun a b _ _ hab hba => absurd hab (Nat.lt_asymm hba))
    h.ordered h'.ordered hperm

end IsPartition

theorem isPartition_groupTokens (tokens : List Text) :
    IsPartition tokens (groupTokens tokens) := by
  have h := IsPartition.nil.foldl_add tokens
  rwa [List.nil_append] at h

/-- **The grouping of a class list** is the stable partition of its tokens, and nothing else is. -/
theorem isPartition_tokenize_iff (s : Text) (g : Grouping) :
    IsPartition (tokenize s) g ↔ g = group s := by
  constructor
  · intro h
    exact h.unique (isPartition_groupTokens _)
  · rintro rfl
    exact isPartition_groupTokens _

end ClassGroups
