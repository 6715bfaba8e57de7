import ClassGroups.Jsx.Tag
import ClassGroups.Proofs.Characters

/-!
# The opening tag around a place

The search for the tag around a place walks back from the place, counts the braces that are closed
before they are opened, and ends at the first character that decides. Which tag it finds can be said
without a walk, by reading forwards: from a `<` with the name of a tag, over text in which all
braces are balanced and no `<`, `>` or `;` stands outside of braces, up to the place
(`IsTagAround`). The main statement, `tagStart_reads_forwards`, is that this is the tag that the
search returns, that there is one at most, and that the search returns nothing only if there is
none.

A character stands outside of braces if the braces before it cancel out. Seen from the place, these
are the braces that the walk has not come to yet, while the walk counts those behind. The two counts
are tied together by the text between, which is why the induction is over texts that open a given
number of braces more than they close (`IsTagText`).
-/

namespace ClassGroups.Jsx

/-! ### Tags, read forwards -/

/-- The number of braces that a text opens and does not close. -/
def braceDepth (s : Text) : Int := s.count '{' - s.count '}'

/-- The characters that start or end a tag, or a statement of the program around it. -/
def tagDelimiters : Text := "<>;"

/-- **The text of an opening tag behind its `<`**, or the first part of it, which opens a number of
braces more than it closes. -/
structure IsTagText (depth : Nat) (s : Text) : Prop where
  /-- No brace is closed that was not opened. -/
  nonneg : ∀ u, u <+: s → 0 ≤ braceDepth u
  /-- Braces are left open in this number. -/
  depth_eq : braceDepth s = depth
  /-- No delimiter stands outside of braces. -/
  clear : ∀ u c v, s = u ++ c :: v → braceDepth u = 0 → c ∉ tagDelimiters

/-- **A text reads as an opening tag**: a `<`, a letter, characters of a name and white space. -/
def ReadsAsTag (s : Text) : Prop :=
  ∃ letter name blank rest, s = '<' :: letter :: (name ++ blank :: rest) ∧
    letter.isAlpha = true ∧ (∀ c ∈ name, isTagNameChar c = true) ∧ isBlank blank = true

/-- **An opening tag around a place** of a source. -/
structure IsTagAround (source : Text) (place start : Nat) : Prop where
  /-- The tag starts before the place. -/
  lt : start < place
  /-- It has a name. -/
  reads : ReadsAsTag (source.drop start)
  /-- It has not ended at the place, and the place is not in braces. -/
  inside : IsTagText 0 ((source.take place).drop (start + 1))

/-! ### The name of a tag -/

theorem isTagNameChar_of_isBlank {c : Char} (h : isBlank c = true) : isTagNameChar c = false := by
  have hall : (blankRanges.chars.all fun c => !isTagNameChar c) = true := by decide +kernel
  simpa using forall_isBlank hall h

/-- White space ends a name, so there is only one way to read it. -/
theorem opensTag_iff {s : Text} : opensTag s = true ↔ ReadsAsTag s := by
  constructor
  · intro h
    unfold opensTag at h
    split at h
    · next letter t =>
      rw [Bool.and_eq_true, Option.any_eq_true] at h
      obtain ⟨hletter, blank, hhead, hblank⟩ := h
      obtain ⟨rest, hrest⟩ := List.head?_eq_some_iff.mp hhead
      refine ⟨letter, t.takeWhile isTagNameChar, blank, rest, ?_, hletter, ?_, hblank⟩
      · rw [← hrest, List.takeWhile_append_dropWhile]
      · exact fun c hc => List.all_eq_true.mp List.all_takeWhile c hc
    · exact absurd h Bool.false_ne_true
  · rintro ⟨letter, name, blank, rest, rfl, hletter, hname, hblank⟩
    have hend : (name ++ blank :: rest).dropWhile isTagNameChar = blank :: rest := by
      rw [List.dropWhile_append_of_pos hname,
        List.dropWhile_cons_of_neg (by simp [isTagNameChar_of_isBlank hblank])]
    rw [opensTag, hend, hletter]
    exact hblank

/-! ### One character more -/

/-- What a character adds to the depth of braces. -/
def braceStep (c : Char) : Int := if c = '{' then 1 else if c = '}' then -1 else 0

theorem braceDepth_concat (s : Text) (c : Char) :
    braceDepth (s ++ [c]) = braceDepth s + braceStep c := by
  unfold braceDepth braceStep
  rw [List.count_append, List.count_append, List.count_singleton, List.count_singleton]
  by_cases hopen : c = '{'
  · subst hopen
    simp
    omega
  · by_cases hclose : c = '}'
    · subst hclose
      simp
      omega
    · simp [hopen, hclose]

/-- **The last character of a tag's text** can be taken away. It stands outside of braces if the
text before it is balanced. -/
theorem isTagText_concat_iff {depth : Nat} {s : Text} {c : Char} :
    IsTagText depth (s ++ [c])
      ↔ ∃ d : Nat, d + braceStep c = depth ∧ (d = 0 → c ∉ tagDelimiters) ∧ IsTagText d s := by
  constructor
  · intro h
    have hprefix : s <+: s ++ [c] := List.prefix_append s [c]
    have hdepth : ((braceDepth s).toNat : Int) = braceDepth s :=
      Int.toNat_of_nonneg (h.nonneg s hprefix)
    refine ⟨(braceDepth s).toNat, ?_, ?_, ?_, hdepth.symm, ?_⟩
    · rw [hdepth, ← braceDepth_concat, h.depth_eq]
    · exact fun hzero => h.clear s c [] rfl (by omega)
    · exact fun u hu => h.nonneg u (hu.trans hprefix)
    · intro u d v hs
      exact h.clear u d (v ++ [c]) (by rw [hs, List.append_assoc, List.cons_append])
  · rintro ⟨d, hstep, hc, h⟩
    have hdepth : braceDepth (s ++ [c]) = depth := by
      rw [braceDepth_concat, h.depth_eq, hstep]
    refine ⟨?_, hdepth, ?_⟩
    · intro u hu
      rcases List.prefix_concat_iff.mp hu with rfl | hu
      · rw [hdepth]
        exact Int.natCast_nonneg depth
      · exact h.nonneg u hu
    · intro u e v heq hzero
      -- the delimiter would be the last character, or it would stand in the text before
      rcases List.eq_nil_or_concat v with rfl | ⟨v, f, rfl⟩
      · obtain ⟨rfl, hce⟩ := List.append_inj' heq rfl
        obtain rfl := List.singleton_inj.mp hce
        rw [h.depth_eq] at hzero
        exact hc (by omega)
      · rw [List.concat_eq_append, ← List.cons_append, ← List.append_assoc] at heq
        exact h.clear u e v (List.append_inj' heq rfl).1 hzero

theorem isTagText_nil_iff {depth : Nat} : IsTagText depth [] ↔ depth = 0 := by
  constructor
  · intro h
    have hzero : braceDepth [] = depth := h.depth_eq
    exact (Int.natCast_inj.mp hzero).symm
  · rintro rfl
    refine ⟨?_, rfl, ?_⟩
    · intro u hu
      rw [List.prefix_nil.mp hu]
      exact Int.le_refl 0
    · intro u c v h
      exact absurd h.symm (by simp)

/-! ### The walk -/

/-- **What the walk looks for** when `before` is still to be walked over: a `<` in it that reads
as a tag, whose text goes on up to where the walk is and leaves as many braces open there as have
been closed behind. -/
def IsTagFrom (depth : Nat) (before after : Text) (start : Nat) : Prop :=
  ∃ inside outer, before = inside ++ '<' :: outer ∧ outer.length = start ∧
    IsTagText depth inside.reverse ∧ ReadsAsTag ('<' :: (inside.reverse ++ after))

section Walk

variable {depth start : Nat} {c : Char} {before after : Text}

theorem not_isTagFrom_nil : ¬IsTagFrom depth [] after start := by
  rintro ⟨inside, outer, h, -⟩
  exact absurd h.symm (by simp)

/-- **One step of the walk**: the tag starts here, or the character belongs to its text. -/
theorem isTagFrom_cons_iff :
    IsTagFrom depth (c :: before) after start
      ↔ (c = '<' ∧ depth = 0 ∧ before.length = start ∧ ReadsAsTag (c :: after)) ∨
        ∃ d : Nat, d + braceStep c = depth ∧ (d = 0 → c ∉ tagDelimiters) ∧
          IsTagFrom d before (c :: after) start := by
  constructor
  · rintro ⟨inside, outer, heq, hlength, htext, hreads⟩
    cases inside with
    | nil =>
      obtain ⟨rfl, rfl⟩ := List.cons.inj heq
      exact .inl ⟨rfl, isTagText_nil_iff.mp htext, hlength, hreads⟩
    | cons x inside =>
      obtain ⟨rfl, rfl⟩ := List.cons.inj heq
      rw [List.reverse_cons] at htext hreads
      obtain ⟨d, hstep, hc, htext⟩ := isTagText_concat_iff.mp htext
      rw [List.append_assoc, List.singleton_append] at hreads
      exact .inr ⟨d, hstep, hc, inside, outer, rfl, hlength, htext, hreads⟩
  · rintro (⟨rfl, rfl, hlength, hreads⟩ |
      ⟨d, hstep, hc, inside, outer, rfl, hlength, htext, hreads⟩)
    · exact ⟨[], before, rfl, hlength, isTagText_nil_iff.mpr rfl, hreads⟩
    · refine ⟨c :: inside, outer, rfl, hlength, ?_, ?_⟩
      · rw [List.reverse_cons]
        exact isTagText_concat_iff.mpr ⟨d, hstep, hc, htext⟩
      · rwa [List.reverse_cons, List.append_assoc, List.singleton_append]

/-- A character that is neither the `<` of the tag nor a delimiter outside of braces is walked
over. -/
theorem isTagFrom_cons_of_step {d : Nat} (hd : d + braceStep c = depth)
    (hclear : d = 0 → c ∉ tagDelimiters) (hne : ¬(c = '<' ∧ depth = 0)) :
    IsTagFrom depth (c :: before) after start ↔ IsTagFrom d before (c :: after) start := by
  rw [isTagFrom_cons_iff]
  constructor
  · rintro (⟨hc, hdepth, -⟩ | ⟨e, he, -, h⟩)
    · exact absurd ⟨hc, hdepth⟩ hne
    · obtain rfl : e = d := by omega
      exact h
  · exact fun h => .inr ⟨d, hd, hclear, h⟩

/-- At a delimiter outside of braces the walk ends. -/
theorem isTagFrom_cons_of_mem (hc : c ∈ tagDelimiters) :
    IsTagFrom 0 (c :: before) after start
      ↔ c = '<' ∧ before.length = start ∧ ReadsAsTag (c :: after) := by
  have hstep : braceStep c = 0 := by
    have hall : tagDelimiters.all (braceStep · = 0) = true := by decide
    exact of_decide_eq_true (List.all_eq_true.mp hall c hc)
  rw [isTagFrom_cons_iff]
  constructor
  · rintro (⟨hlt, -, hlength, hreads⟩ | ⟨d, hd, hclear, -⟩)
    · exact ⟨hlt, hlength, hreads⟩
    · exact absurd hc (hclear (by omega))
  · rintro ⟨hlt, hlength, hreads⟩
    exact .inl ⟨hlt, rfl, hlength, hreads⟩

/-- **The walk finds what it looks for.** -/
theorem tagStartFrom_eq_some_iff :
    tagStartFrom depth before after = some start ↔ IsTagFrom depth before after start := by
  fun_induction tagStartFrom depth before after with
  | case1 => simp [not_isTagFrom_nil]
  | case2 depth before after ih =>
    -- a closing brace: one more is open before it
    have hstep : ((depth + 1 : Nat) : Int) + braceStep '}' = depth := by
      show ((depth + 1 : Nat) : Int) + -1 = depth
      omega
    rw [ih, isTagFrom_cons_of_step hstep (fun _ => by decide) (by simp)]
  | case3 before after =>
    -- an opening brace that is not closed behind
    simp only [reduceCtorEq, false_iff, isTagFrom_cons_iff]
    rintro (⟨h, -⟩ | ⟨d, hd, -⟩)
    · exact absurd h (by decide)
    · have hd : (d : Int) + 1 = 0 := hd
      omega
  | case4 before after depth _ ih =>
    rw [ih, isTagFrom_cons_of_step rfl (fun _ => by decide) (by simp)]
  | case5 depth c before after hclose hopen hdepth ih =>
    have hstep : (depth : Int) + braceStep c = depth := by simp [braceStep, hclose, hopen]
    rw [ih, isTagFrom_cons_of_step hstep (fun hzero => by omega) (fun h => by omega)]
  | case6 depth c before after _ _ hdepth hc =>
    obtain rfl : depth = 0 := by omega
    have hmem : c ∈ tagDelimiters := by rcases hc with rfl | rfl <;> decide
    rw [isTagFrom_cons_of_mem hmem]
    rcases hc with rfl | rfl <;> simp
  | case7 depth before after hdepth _ _ _ hopens =>
    obtain rfl : depth = 0 := by omega
    rw [isTagFrom_cons_of_mem (by decide), ← opensTag_iff]
    simp [hopens]
  | case8 depth before after hdepth _ _ _ hopens =>
    obtain rfl : depth = 0 := by omega
    rw [isTagFrom_cons_of_mem (by decide), ← opensTag_iff]
    simp [hopens]
  | case9 depth c before after hclose hopen hdepth hc hlt ih =>
    have hclear : c ∉ tagDelimiters := by
      simp only [not_or] at hc
      simp [tagDelimiters, hlt, hc.1, hc.2]
    have hstep : (depth : Int) + braceStep c = depth := by simp [braceStep, hclose, hopen]
    rw [ih, isTagFrom_cons_of_step hstep (fun _ => hclear) (fun h => hlt h.1)]

end Walk

/-! ### The whole source -/

section Source

variable {source : Text} {place start : Nat}

/-- Where the walk starts, what it looks for is the tag around the place. -/
theorem isTagFrom_iff_isTagAround :
    IsTagFrom 0 (source.take place).reverse (source.drop place) start
      ↔ IsTagAround source place start := by
  have hsource : source.take place ++ source.drop place = source := List.take_append_drop ..
  constructor
  · rintro ⟨inside, outer, hbefore, rfl, htext, hreads⟩
    have htake : source.take place = outer.reverse ++ '<' :: inside.reverse := by
      rw [← List.reverse_reverse (source.take place), hbefore, List.reverse_append,
        List.reverse_cons, List.append_assoc, List.singleton_append]
    have hlength := congrArg List.length htake
    rw [List.length_take, List.length_append, List.length_cons, List.length_reverse] at hlength
    refine ⟨by omega, ?_, ?_⟩
    · rw [← hsource, htake, List.append_assoc, List.drop_left' List.length_reverse]
      exact hreads
    · rw [htake, ← List.drop_drop, List.drop_left' List.length_reverse]
      exact htext
  · rintro ⟨hlt, hreads, hinside⟩
    -- the `<` stands at `start`, so the text up to the place is cut there
    obtain ⟨t, hdrop⟩ : ∃ t, source.drop start = '<' :: t := by
      obtain ⟨letter, name, blank, rest, h, -⟩ := hreads
      exact ⟨_, h⟩
    have hstart : start < source.length := by
      have hlength := congrArg List.length hdrop
      rw [List.length_drop, List.length_cons] at hlength
      omega
    have hcut : (source.take place).drop start = '<' :: t.take (place - start - 1) := by
      rw [List.drop_take, hdrop, ← List.take_succ_cons]
      congr 1
      omega
    rw [← List.drop_drop, hcut, List.drop_one, List.tail_cons] at hinside
    refine ⟨(t.take (place - start - 1)).reverse, (source.take start).reverse, ?_, ?_, ?_, ?_⟩
    · have hfront : (source.take place).take start = source.take start := by
        rw [List.take_take, Nat.min_eq_left (Nat.le_of_lt hlt)]
      rw [← List.take_append_drop start (source.take place), hfront, hcut, List.reverse_append,
        List.reverse_cons, List.append_assoc, List.singleton_append]
    · rw [List.length_reverse, List.length_take]
      omega
    · rwa [List.reverse_reverse]
    · have hle : start ≤ (source.take place).length := by
        rw [List.length_take]
        omega
      rw [List.reverse_reverse, ← List.cons_append, ← hcut, ← List.drop_append_of_le_length hle,
        hsource]
      exact hreads

/-- **The search for the tag around a place** finds what is read forwards. -/
theorem tagStart_eq_some_iff :
    tagStart source place = some start ↔ IsTagAround source place start :=
  tagStartFrom_eq_some_iff.trans isTagFrom_iff_isTagAround

/-- **The tag around a place, read forwards.** The search returns the place of a `<` exactly if a
tag starts there and goes on up to the place with balanced braces and without delimiters outside of
them. There is one such tag at most, and if there is none the search returns nothing. -/
theorem tagStart_reads_forwards (source : Text) (place : Nat) :
    (∀ start, tagStart source place = some start ↔ IsTagAround source place start) ∧
    (∀ start start', IsTagAround source place start → IsTagAround source place start' →
      start = start') ∧
    (tagStart source place = none ↔ ∀ start, ¬IsTagAround source place start) := by
  refine ⟨fun start => tagStart_eq_some_iff, ?_, ?_⟩
  · intro start start' h h'
    rw [← tagStart_eq_some_iff] at h h'
    exact Option.some.inj (h.symm.trans h')
  · simp only [← tagStart_eq_some_iff]
    exact Option.eq_none_iff_forall_ne_some

end Source

/-- The `>` and the `;` of an expression in braces do not end the tag around it. -/
theorem tagStart_reads_forwards_arrow :
    tagStart "x = <a go=\x7b() => f();\x7d id" 24 = some 4 ∧
    IsTagAround "x = <a go=\x7b() => f();\x7d id" 24 4 ∧
    (∀ start, IsTagAround "x = <a go=\x7b() => f();\x7d id" 24 start → start = 4) ∧
    ∀ start, ¬IsTagAround "x = <a go=\x7b() => f();\x7d id" 15 start := by
  obtain ⟨hfound, hunique, -⟩ := tagStart_reads_forwards "x = <a go=\x7b() => f();\x7d id" 24
  obtain ⟨-, -, hnone⟩ := tagStart_reads_forwards "x = <a go=\x7b() => f();\x7d id" 15
  have htag : tagStart "x = <a go=\x7b() => f();\x7d id" 24 = some 4 := by decide
  exact ⟨htag, (hfound 4).mp htag, fun start h => hunique start 4 h ((hfound 4).mp htag),
    hnone.mp (by decide)⟩

end ClassGroups.Jsx
