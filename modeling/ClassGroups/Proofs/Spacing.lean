import ClassGroups.Proofs.Scanning
import ClassGroups.Proofs.Tokens

/-!
# The longest runs without white space

The tokens of a text are defined by a way to find them: the text is split at every white space, and
empty pieces are dropped. `Spaced` says what they are without one. A text spaces out a list of
tokens if it consists of them in their order, with white space between neighbours that is never
missing, and with white space at both ends that may be.

Every text spaces out some list (`exists_spaced`), by recursion on the text: white space in front
adds to the margin, and any other character adds to the first token if this follows at once, and is
a token of its own if not. What a text spaces out is also what it is split into
(`Spaced.tokenize_eq`), by recursion on the tokens. So the tokens of a text are the only list that
it spaces out (`spaced_iff`).
-/

namespace ClassGroups

/-- **A token** is not empty and holds no white space. -/
structure IsToken (t : Text) : Prop where
  /-- It has a character. -/
  ne_nil : t ≠ []
  /-- None of its characters is white space. -/
  not_isBlank : ∀ c ∈ t, isBlank c = false

/-- **A text spaces out tokens from its start on**: there is white space between neighbours, and
there may be some behind the last one. -/
inductive SpacedFrom : List Text → Text → Prop
  /-- Nothing is left. -/
  | nil : SpacedFrom [] []
  /-- The last token ends the text. -/
  | last {t : Text} (ht : IsToken t) : SpacedFrom [t] t
  /-- White space follows a token. -/
  | cons {t gap s : Text} {tokens : List Text} (ht : IsToken t) (hgap : Text.Blank gap)
      (hne : gap ≠ []) (hrest : SpacedFrom tokens s) : SpacedFrom (t :: tokens) (t ++ gap ++ s)

/-- **A text spaces out tokens**, behind a margin of white space that may be empty. -/
def Spaced (tokens : List Text) (s : Text) : Prop :=
  ∃ margin rest, Text.Blank margin ∧ s = margin ++ rest ∧ SpacedFrom tokens rest

section Spaced

variable {s t w : Text} {tokens : List Text} {c : Char}

theorem isToken_singleton (hc : isBlank c = false) : IsToken [c] where
  ne_nil := List.cons_ne_nil c []
  not_isBlank := by
    intro d hd
    rwa [List.mem_singleton.mp hd]

theorem IsToken.cons (hc : isBlank c = false) (ht : IsToken t) : IsToken (c :: t) where
  ne_nil := List.cons_ne_nil c t
  not_isBlank := List.forall_mem_cons.mpr ⟨hc, ht.not_isBlank⟩

theorem isToken_of_mem_tokenize (h : t ∈ tokenize s) : IsToken t where
  ne_nil := ne_nil_of_mem_tokenize h
  not_isBlank _ hc := isBlank_of_mem_token h hc

/-! ### Every text -/

/-- A character that is no white space goes to the token behind it, or makes one if there is none at
once. -/
theorem exists_spacedFrom_cons (hc : isBlank c = false) {margin : Text}
    (hmargin : Text.Blank margin) (h : SpacedFrom tokens s) :
    ∃ tokens', SpacedFrom tokens' (c :: (margin ++ s)) := by
  by_cases hnone : margin = []
  · subst hnone
    cases h with
    | nil => exact ⟨_, .last (isToken_singleton hc)⟩
    | last ht => exact ⟨_, .last (ht.cons hc)⟩
    | cons ht hgap hne hrest => exact ⟨_, .cons (ht.cons hc) hgap hne hrest⟩
  · exact ⟨_, .cons (isToken_singleton hc) hmargin hnone h⟩

/-- **Every text** spaces out tokens. -/
theorem exists_spaced (s : Text) : ∃ tokens, Spaced tokens s := by
  induction s with
  | nil => exact ⟨[], [], [], Text.blank_nil, rfl, .nil⟩
  | cons c s ih =>
    obtain ⟨tokens, margin, rest, hmargin, rfl, hrest⟩ := ih
    cases hc : isBlank c with
    | true => exact ⟨tokens, c :: margin, rest, Text.blank_cons hc hmargin, rfl, hrest⟩
    | false =>
      obtain ⟨tokens', hfrom⟩ := exists_spacedFrom_cons hc hmargin hrest
      exact ⟨tokens', [], c :: (margin ++ rest), Text.blank_nil, rfl, hfrom⟩

/-! ### One list -/

/-- White space of any length separates the tokens before it from those behind it. -/
theorem tokenize_append_gap (hw : Text.Blank w) (hne : w ≠ []) (s t : Text) :
    tokenize (s ++ w ++ t) = tokenize s ++ tokenize t := by
  obtain ⟨c, gap, rfl⟩ := List.exists_cons_of_ne_nil hne
  have hall := List.all_eq_true.mp hw
  have hc : isBlank c = true := hall c List.mem_cons_self
  have hgap : Text.Blank gap := List.all_eq_true.mpr fun d hd => hall d (List.mem_cons_of_mem c hd)
  calc tokenize (s ++ c :: gap ++ t)
      = tokenize (s ++ c :: (gap ++ t)) := by rw [List.append_assoc, List.cons_append]
    _ = tokenize s ++ tokenize (gap ++ t) := tokenize_append_cons hc s (gap ++ t)
    _ = tokenize s ++ tokenize t := by rw [tokenize_append_of_blank hgap]

/-- A text is split into the tokens that it spaces out. -/
theorem SpacedFrom.tokenize_eq (h : SpacedFrom tokens s) : tokenize s = tokens := by
  induction h with
  | nil => rfl
  | last ht => exact tokenize_of_no_blank ht.not_isBlank ht.ne_nil
  | cons ht hgap hne _ ih =>
    rw [tokenize_append_gap hgap hne, tokenize_of_no_blank ht.not_isBlank ht.ne_nil, ih]
    rfl

theorem Spaced.tokenize_eq (h : Spaced tokens s) : tokenize s = tokens := by
  obtain ⟨margin, rest, hmargin, rfl, hrest⟩ := h
  rw [tokenize_append_of_blank hmargin, hrest.tokenize_eq]

/-- **The tokens of a text** are the one list that it spaces out. -/
theorem spaced_iff : Spaced tokens s ↔ tokens = tokenize s := by
  constructor
  · intro h
    exact h.tokenize_eq.symm
  · rintro rfl
    obtain ⟨tokens, h⟩ := exists_spaced s
    rwa [h.tokenize_eq]

end Spaced

/-- **The tokens are the longest runs without white space.** Every text spaces out its tokens and no
other list, and each of them is a token. White space between two texts separates their tokens, and
tokens that are joined by single spaces are the tokens of the whole. -/
theorem tokenize_longest_runs :
    (∀ s tokens, Spaced tokens s ↔ tokens = tokenize s) ∧
    (∀ s, ∀ t ∈ tokenize s, IsToken t) ∧
    (∀ a w b, Text.Blank w → w ≠ [] → tokenize (a ++ w ++ b) = tokenize a ++ tokenize b) ∧
    ∀ tokens, (∀ t ∈ tokens, IsToken t) → tokenize (Text.intercalate " " tokens) = tokens := by
  refine ⟨fun s tokens => spaced_iff, fun s t => isToken_of_mem_tokenize, ?_, ?_⟩
  · intro a w b hw hne
    exact tokenize_append_gap hw hne a b
  · intro tokens htokens
    exact tokenize_intercalate fun t ht => ⟨(htokens t ht).not_isBlank, (htokens t ht).ne_nil⟩

/-- White space of several kinds at both ends and between tokens, one of which has a zero width
space in it, which is no white space. -/
theorem tokenize_longest_runs_wideSpaces :
    Spaced ["mt-4", "p-\u200b2", "flex"] "\u3000mt-4 \t\x1cp-\u200b2\u2028flex\n" ∧
    ((Text.Blank "\u00a0\r" ∧ "\u00a0\r".toList ≠ []) ∧
      tokenize "mt-4 flex\u00a0\r p-2" = ["mt-4", "flex"] ++ ["p-2"]) ∧
    ((∀ t ∈ ["mt-4".toList, "p-\u200b2"], IsToken t) ∧
      tokenize "mt-4 p-\u200b2" = ["mt-4", "p-\u200b2"]) := by
  have htokens : ["mt-4".toList, "p-\u200b2", "flex"]
      = tokenize "\u3000mt-4 \t\x1cp-\u200b2\u2028flex\n" := by decide +kernel
  have hgap : Text.Blank "\u00a0\r" ∧ "\u00a0\r".toList ≠ [] := by decide
  have hjoined : ∀ t ∈ ["mt-4".toList, "p-\u200b2"], IsToken t := by
    intro t ht
    have hmem : t ∈ tokenize "\u3000mt-4 \t\x1cp-\u200b2\u2028flex\n" := by
      rw [← htokens]
      rcases List.mem_pair.mp ht with rfl | rfl <;> simp
    exact isToken_of_mem_tokenize hmem
  obtain ⟨hspaced, -, hseparate, hjoin⟩ := tokenize_longest_runs
  refine ⟨(hspaced _ _).mpr htokens, ⟨hgap, ?_⟩, hjoined, hjoin _ hjoined⟩
  exact (hseparate "mt-4 flex" "\u00a0\r" " p-2" hgap.1 hgap.2).trans (by decide +kernel)

end ClassGroups
