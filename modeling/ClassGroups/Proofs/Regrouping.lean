import ClassGroups.Proofs.Tokens

/-!
# A grouping is grouped to itself

The tokens of a grouping stand group by group, so in general not in the order of the class list that
they come from. Grouped again, they lead to the same groups in the same order nevertheless
(`group_flatten_group`). Two things have to come together:

* the tokens, joined by spaces, are read as the same tokens (`tokenize_intercalate_flatten`);
* their groups are the ones in which they stand (`groupTokens_flatten_iff`).

For the second one the class list does not matter. `Grouping.IsProper` says of groups alone that
their categories are distinct and that each has tokens, all of its own category. The first place of
a category is then where its group begins, which is why the groups keep their order. Nothing else
than a proper grouping is kept, since every grouping of tokens is proper.
-/

namespace ClassGroups

/-- **A proper grouping**: its groups could be those of some tokens. -/
structure Grouping.IsProper (g : Grouping) : Prop where
  /-- No category has two groups. -/
  distinct : (g.map (·.category)).Nodup
  /-- No group is empty. -/
  nonempty : ∀ b ∈ g, b.tokens ≠ []
  /-- The tokens of a group belong to its category. -/
  classified : ∀ b ∈ g, ∀ t ∈ b.tokens, classify t = b.category

/-! ### The first place of a category -/

section FirstPlace

variable {c : Category} {front : List Text}

/-- Tokens of other categories only move the first place to the right. -/
theorem firstPlace_append_of_ne (h : ∀ t ∈ front, classify t ≠ c) (back : List Text) :
    firstPlace c (front ++ back) = firstPlace c back + front.length := by
  have hnone : front.findIdx (classify · = c) = front.length := by
    rw [List.findIdx_eq_length]
    intro t ht
    simpa using h t ht
  rw [firstPlace, List.findIdx_append, hnone, if_neg (Nat.lt_irrefl _)]
  rfl

theorem firstPlace_append_of_eq (h : ∀ t ∈ front, classify t = c) (hne : front ≠ [])
    (back : List Text) : firstPlace c (front ++ back) = 0 := by
  obtain ⟨t, rest, rfl⟩ := List.exists_cons_of_ne_nil hne
  have ht : classify t = c := h t List.mem_cons_self
  rw [List.cons_append, firstPlace, List.findIdx_cons]
  simp [ht]

end FirstPlace

/-! ### Proper groupings -/

namespace Grouping

variable {g : Grouping} {b d : Group} {tokens : List Text}

theorem flatten_cons (b : Group) (g : Grouping) : flatten (b :: g) = b.tokens ++ flatten g := rfl

theorem IsProper.tail (h : IsProper (b :: g)) : IsProper g where
  distinct := (List.nodup_cons.mp h.distinct).2
  nonempty := by
    intro d hd
    exact h.nonempty d (List.mem_cons_of_mem b hd)
  classified := by
    intro d hd
    exact h.classified d (List.mem_cons_of_mem b hd)

theorem IsProper.category_ne (h : IsProper (b :: g)) (hd : d ∈ g) : d.category ≠ b.category := by
  intro heq
  have hmem : d.category ∈ g.map (·.category) := List.mem_map_of_mem hd
  rw [heq] at hmem
  exact (List.nodup_cons.mp h.distinct).1 hmem

/-- The tokens of the first group are of another category than the tokens after them. -/
theorem IsProper.classify_ne (h : IsProper (b :: g)) {t : Text} (ht : t ∈ flatten g) :
    classify t ≠ b.category := by
  obtain ⟨d, hd, htd⟩ := List.mem_flatMap.mp ht
  rw [h.classified d (List.mem_cons_of_mem b hd) t htd]
  exact h.category_ne hd

/-- **The tokens of a category**, wherever they stand, are those of its group. -/
theorem IsProper.tokensOf_flatten (h : IsProper g) (hb : b ∈ g) :
    tokensOf b.category (flatten g) = b.tokens := by
  induction g with
  | nil => exact absurd hb List.not_mem_nil
  | cons d g ih =>
    rw [flatten_cons, tokensOf, List.filter_append]
    rcases List.mem_cons.mp hb with rfl | hb
    · -- the first group counts as a whole, and nothing after it counts
      have hall : b.tokens.filter (classify · = b.category) = b.tokens := by
        rw [List.filter_eq_self]
        intro t ht
        exact decide_eq_true (h.classified b List.mem_cons_self t ht)
      have hnone : (flatten g).filter (classify · = b.category) = [] := by
        rw [List.filter_eq_nil_iff]
        intro t ht
        simpa using h.classify_ne ht
      rw [hall, hnone, List.append_nil]
    · -- the first group does not count, and the groups after it are proper by themselves
      have hnone : d.tokens.filter (classify · = b.category) = [] := by
        rw [List.filter_eq_nil_iff]
        intro t ht
        rw [h.classified d List.mem_cons_self t ht]
        simpa using (h.category_ne hb).symm
      rw [hnone, List.nil_append]
      exact ih h.tail hb

/-- **The groups stand in the order of their first tokens.** By induction on the groups: the first
one begins at the first place, and before those after it all of its tokens are put. -/
theorem IsProper.ordered (h : IsProper g) :
    g.Pairwise fun a b => firstPlace a.category (flatten g) < firstPlace b.category (flatten g) := by
  induction g with
  | nil => exact List.Pairwise.nil
  | cons d g ih =>
    have hfirst : firstPlace d.category (flatten (d :: g)) = 0 :=
      firstPlace_append_of_eq (h.classified d List.mem_cons_self) (h.nonempty d List.mem_cons_self) _
    have hmoved : ∀ b ∈ g, firstPlace b.category (flatten (d :: g))
        = firstPlace b.category (flatten g) + d.tokens.length := by
      intro b hb
      refine firstPlace_append_of_ne ?_ _
      intro t ht
      rw [h.classified d List.mem_cons_self t ht]
      exact (h.category_ne hb).symm
    have hlength : 0 < d.tokens.length := List.length_pos_of_ne_nil (h.nonempty d List.mem_cons_self)
    refine List.pairwise_cons.mpr ⟨?_, ?_⟩
    · intro b hb
      rw [hfirst, hmoved b hb]
      exact Nat.add_pos_right _ hlength
    · refine (ih h.tail).imp_of_mem ?_
      intro a b ha hb hab
      rw [hmoved a ha, hmoved b hb]
      exact Nat.add_lt_add_right hab _

/-- A proper grouping is the partition of its tokens. -/
theorem IsProper.isPartition (h : IsProper g) : IsPartition (flatten g) g where
  distinct := h.distinct
  nonempty := h.nonempty
  tokens_eq := by
    intro b hb
    exact (h.tokensOf_flatten hb).symm
  ordered := h.ordered
  conserved := List.Perm.refl _

/-- Every partition is proper. -/
theorem isProper_of_isPartition (h : IsPartition tokens g) : IsProper g where
  distinct := h.distinct
  nonempty := h.nonempty
  classified := by
    intro b hb t ht
    rw [h.tokens_eq b hb, tokensOf, List.mem_filter] at ht
    exact of_decide_eq_true ht.2

/-- **What is grouped to itself** are the proper groupings. -/
theorem groupTokens_flatten_iff : groupTokens (flatten g) = g ↔ IsProper g := by
  constructor
  · intro h
    have hpart : IsPartition (flatten g) (groupTokens (flatten g)) := isPartition_groupTokens _
    rw [h] at hpart
    exact isProper_of_isPartition hpart
  · intro h
    exact (isPartition_groupTokens _).unique h.isPartition

end Grouping

/-! ### The tokens of a grouping, joined by spaces -/

section Joined

variable (s : Text)

/-- What is joined by spaces is read as the same tokens, as they come from a class list. -/
theorem tokenize_intercalate_flatten :
    tokenize (Text.intercalate " " (group s).flatten) = (group s).flatten := by
  refine tokenize_intercalate ?_
  intro t ht
  obtain ⟨b, hb, htb⟩ := List.mem_flatMap.mp ht
  have hmem : t ∈ tokenize s := mem_tokenize_of_mem_group hb htb
  refine ⟨?_, ne_nil_of_mem_tokenize hmem⟩
  intro c hc
  exact isBlank_of_mem_token hmem hc

/-- **Grouped tokens are grouped to the same groups**, in the same order and with the same tokens in
the same order. -/
theorem group_flatten_group :
    group (Text.intercalate " " (group s).flatten) = group s := by
  have hproper : (group s).IsProper :=
    Grouping.isProper_of_isPartition (isPartition_groupTokens (tokenize s))
  calc group (Text.intercalate " " (group s).flatten)
      = groupTokens (tokenize (Text.intercalate " " (group s).flatten)) := rfl
    _ = groupTokens (group s).flatten := by rw [tokenize_intercalate_flatten]
    _ = group s := Grouping.groupTokens_flatten_iff.mpr hproper

/-- Tokens of two categories in turn, and the same tokens category by category. -/
example : group "flex mt-4 grid p-2" = group "flex grid mt-4 p-2" := by
  decide +kernel

end Joined

end ClassGroups
