import ClassGroups.Proofs.Lines
import ClassGroups.Proofs.Partition

/-!
# What tokens look like

A token is a nonempty text without white space, and so is every token of a grouping. In particular
no token holds the space that separates the tokens of a group or the newline that ends a line.
-/

namespace ClassGroups

section Tokenize

variable {s t w : Text} {c : Char}

/-- White space separates the tokens before it from those behind it. -/
theorem tokenize_append_cons (hc : isBlank c = true) (s t : Text) :
    tokenize (s ++ c :: t) = tokenize s ++ tokenize t := by
  unfold tokenize
  rw [List.splitOnP_append_cons s t hc, List.filter_append]

theorem tokenize_append_of_blank (hw : Text.Blank w) (t : Text) :
    tokenize (w ++ t) = tokenize t := by
  induction w with
  | nil => rfl
  | cons c w ih =>
    unfold Text.Blank at hw ih
    rw [List.all_cons, Bool.and_eq_true] at hw
    have hcons := tokenize_append_cons hw.1 [] (w ++ t)
    rw [List.nil_append, ih hw.2] at hcons
    exact hcons

/-- A text without white space is one token, unless it is empty. -/
theorem tokenize_of_no_blank (hs : ∀ c ∈ s, isBlank c = false) (hne : s ≠ []) :
    tokenize s = [s] := by
  rw [tokenize, List.splitOnP_eq_singleton hs]
  simp [hne]

/-- The token that starts a text goes up to the next white space. -/
theorem exists_append_mem_tokenize (hs : ∀ c ∈ s, isBlank c = false) (hne : s ≠ []) (t : Text) :
    ∃ u, s ++ u ∈ tokenize (s ++ t) := by
  have hu : ∀ c ∈ t.takeWhile (!isBlank ·), isBlank c = false := fun c hc => by
    simpa using List.all_eq_true.mp List.all_takeWhile c hc
  have hall : ∀ c ∈ s ++ t.takeWhile (!isBlank ·), isBlank c = false := fun c hc =>
    (List.mem_append.mp hc).elim (hs c) (hu c)
  refine ⟨t.takeWhile (!isBlank ·), ?_⟩
  cases hrest : t.dropWhile (!isBlank ·) with
  | nil =>
    -- there is no white space, so the token is all of the text
    have ht := List.takeWhile_append_dropWhile (p := (!isBlank ·)) (l := t)
    rw [hrest, List.append_nil] at ht
    rw [ht] at hall ⊢
    rw [tokenize_of_no_blank hall (by simp [hne])]
    exact List.mem_singleton_self _
  | cons c rest =>
    have hc : isBlank c = true := by
      have hhead := List.head?_dropWhile_not (!isBlank ·) t
      rw [hrest] at hhead
      simpa using hhead
    have ht := List.takeWhile_append_dropWhile (p := (!isBlank ·)) (l := t)
    rw [hrest] at ht
    -- the token ends before `c`
    have hsplit : s ++ t = (s ++ t.takeWhile (!isBlank ·)) ++ c :: rest := by
      rw [List.append_assoc, ht]
    rw [hsplit, tokenize_append_cons hc, tokenize_of_no_blank hall (by simp [hne])]
    exact List.mem_append_left _ (List.mem_singleton_self _)

theorem mem_of_mem_token (h : t ∈ tokenize s) (hc : c ∈ t) : c ∈ s :=
  (forall_of_mem_splitOnP (List.mem_filter.mp h).1 c hc).1

theorem isBlank_of_mem_token (h : t ∈ tokenize s) {c : Char} (hc : c ∈ t) : isBlank c = false :=
  (forall_of_mem_splitOnP (List.mem_filter.mp h).1 c hc).2

theorem ne_nil_of_mem_tokenize (h : t ∈ tokenize s) : t ≠ [] := by
  simpa using (List.mem_filter.mp h).2

/-- **Texts that are joined by spaces** have their tokens one after the other. -/
theorem tokenize_intercalate_space (l : List Text) :
    tokenize (Text.intercalate " " l) = l.flatMap tokenize := by
  match l with
  | [] => rfl
  | [s] =>
    rw [Text.intercalate, List.intercalate_singleton, List.flatMap_cons, List.flatMap_nil,
      List.append_nil]
  | s :: t :: rest =>
    have ih := tokenize_intercalate_space (t :: rest)
    have hcons : Text.intercalate " " (s :: t :: rest)
        = s ++ ' ' :: Text.intercalate " " (t :: rest) := by
      rw [Text.intercalate, List.intercalate_cons_cons, List.append_assoc]
      rfl
    rw [hcons, tokenize_append_cons isBlank_space, ih]
    rfl

/-- Tokens that are joined by spaces are the tokens of the whole. -/
theorem tokenize_intercalate {tokens : List Text}
    (h : ∀ t ∈ tokens, (∀ c ∈ t, isBlank c = false) ∧ t ≠ []) :
    tokenize (Text.intercalate " " tokens) = tokens := by
  calc tokenize (Text.intercalate " " tokens) = tokens.flatMap tokenize :=
        tokenize_intercalate_space tokens
    _ = tokens.flatMap ([·]) :=
      List.flatMap_congr fun t ht => tokenize_of_no_blank (h t ht).1 (h t ht).2
    _ = tokens := List.flatMap_singleton' tokens

end Tokenize

/-! ### Tokens of a group -/

section GroupTokens

variable {s : Text} {g : Group}

theorem tokens_ne_nil_of_mem_group (hg : g ∈ group s) : g.tokens ≠ [] :=
  (isPartition_groupTokens (tokenize s)).nonempty g hg

theorem mem_tokenize_of_mem_group (hg : g ∈ group s) {t : Text} (ht : t ∈ g.tokens) :
    t ∈ tokenize s := by
  rw [(isPartition_groupTokens (tokenize s)).tokens_eq g hg] at ht
  exact (List.mem_filter.mp ht).1

/-- Splitting the text of a group at its spaces gives back its tokens. -/
theorem splitOn_text_of_mem_group (hg : g ∈ group s) : g.text.splitOn ' ' = g.tokens := by
  refine List.splitOn_intercalate ' ' (fun t ht hsp => ?_) (tokens_ne_nil_of_mem_group hg)
  have hblank := isBlank_of_mem_token (mem_tokenize_of_mem_group hg ht) hsp
  exact absurd isBlank_space (by simp [hblank])

/-- The tokens of the text of a group are the tokens of the group. -/
theorem tokenize_text_of_mem_group (hg : g ∈ group s) : tokenize g.text = g.tokens := by
  refine tokenize_intercalate fun t ht => ?_
  have hmem := mem_tokenize_of_mem_group hg ht
  exact ⟨fun c hc => isBlank_of_mem_token hmem hc, ne_nil_of_mem_tokenize hmem⟩

end GroupTokens

end ClassGroups
