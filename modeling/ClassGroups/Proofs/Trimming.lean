import ClassGroups.Proofs.Blocks
import ClassGroups.Proofs.Mapping
import ClassGroups.Proofs.Json.Stored

/-!
# Texts that come through a stream

A class list that is read from a stream loses the white space at both ends, and its line ends are
made alike. A text comes through as it is if it is trimmed (`Text.IsTrimmed`) and holds no carriage
return, also with a newline behind it (`Text.IsTrimmed.trim_append`).

Renderings are texts of this kind. Each of the four formats begins and ends with a bracket, a quote
or a name (`isTrimmed_render`). As for carriage returns, they are control characters, so the
renderer writes none of its own (`return_notMem_render`). In a mapping even those of the tokens are
escaped.
-/

namespace ClassGroups

namespace Text

/-! ### Trimmed texts -/

/-- **A trimmed text** neither starts nor ends with white space. -/
structure IsTrimmed (s : Text) : Prop where
  head : ∀ c ∈ s.head?, isBlank c = false
  last : ∀ c ∈ s.getLast?, isBlank c = false

section Trimmed

variable {s w : Text} {c d : Char}

theorem isTrimmed_of_ends (hc : isBlank c = false) (hd : isBlank d = false) (middle : Text) :
    IsTrimmed (c :: (middle ++ [d])) where
  head := by
    intro e he
    obtain rfl := Option.some.inj he
    exact hc
  last := by
    intro e he
    rw [← List.cons_append, List.getLast?_concat] at he
    obtain rfl := Option.some.inj he
    exact hd

theorem trimLeft_eq_self (h : ∀ c ∈ s.head?, isBlank c = false) : trimLeft s = s := by
  cases s with
  | nil => rfl
  | cons c t => exact trimLeft_cons_of_not_isBlank (h c rfl) t

theorem not_isBlank_of_mem_head?_trimLeft (h : c ∈ (trimLeft s).head?) : isBlank c = false := by
  obtain ⟨t, ht⟩ := List.head?_eq_some_iff.mp h
  exact isBlank_of_trimLeft_eq_cons ht

/-- On the right a text is trimmed as its mirror image is on the left. -/
theorem trimRight_append_of_blank (h : ∀ c ∈ s.getLast?, isBlank c = false) (hw : Blank w) :
    trimRight (s ++ w) = s := by
  have hmirrored : Blank w.reverse := by
    unfold Blank at hw ⊢
    rw [List.all_reverse, hw]
  have hs : trimLeft s.reverse = s.reverse := by
    refine trimLeft_eq_self ?_
    rwa [List.head?_reverse]
  calc trimRight (s ++ w)
      = (trimLeft (w.reverse ++ s.reverse)).reverse := by rw [← List.reverse_append]; rfl
    _ = s.reverse.reverse := by rw [trimLeft_append_of_blank hmirrored, hs]
    _ = s := List.reverse_reverse s

theorem exists_trimRight_append (s : Text) : ∃ w, s = trimRight s ++ w := by
  refine ⟨(leadingBlanks s.reverse).reverse, ?_⟩
  calc s = (leadingBlanks s.reverse ++ trimLeft s.reverse).reverse := by
        rw [leadingBlanks_append_trimLeft, List.reverse_reverse]
    _ = trimRight s ++ (leadingBlanks s.reverse).reverse := List.reverse_append

/-- What is left of a text after trimming is trimmed. -/
theorem isTrimmed_trim (s : Text) : IsTrimmed (trim s) where
  head := by
    intro c hc
    -- trimming on the right does not touch the first character, unless nothing is left
    obtain ⟨w, hw⟩ := exists_trimRight_append (trimLeft s)
    refine not_isBlank_of_mem_head?_trimLeft (s := s) ?_
    rw [hw, List.head?_append]
    show (trim s).head?.or w.head? = some c
    rw [Option.mem_def.mp hc]
    rfl
  last := by
    intro c hc
    rw [trim, trimRight, List.getLast?_reverse] at hc
    exact not_isBlank_of_mem_head?_trimLeft hc

/-- **White space behind a trimmed text** is taken off again, and nothing else is. -/
theorem IsTrimmed.trim_append (h : IsTrimmed s) (hw : Blank w) : trim (s ++ w) = s := by
  cases s with
  | nil =>
    have hnone : trimLeft (w ++ []) = [] := trimLeft_append_of_blank hw []
    rw [List.append_nil] at hnone
    rw [List.nil_append, trim, hnone]
    rfl
  | cons c t =>
    have hleft : trimLeft (c :: t ++ w) = c :: t ++ w :=
      trimLeft_cons_of_not_isBlank (h.head c rfl) (t ++ w)
    rw [trim, hleft]
    exact trimRight_append_of_blank h.last hw

end Trimmed

end Text

/-! ### Where a rendering begins and ends -/

section Ends

open Text

theorem exists_block (opening closing : Text) (body : List Text) (style : Style) :
    ∃ middle, block opening closing body style = opening ++ (middle ++ closing) := by
  by_cases hempty : body = []
  · exact ⟨[], by rw [hempty]; rfl⟩
  · refine ⟨body.flatMap style.innerLine ++ style.lastBreak, ?_⟩
    rw [block_of_ne_nil opening closing style hempty, List.append_assoc]

theorem Options.exists_brackets (o : Options) (h : o.format ≠ .mapping) :
    ∃ c name d, o.brackets = (c :: name, [d]) ∧ isBlank c = false ∧ isBlank d = false := by
  unfold Style.brackets
  cases hformat : o.format with
  | clsx =>
    obtain ⟨c, name, hname, hc⟩ := exists_cons_of_isIdentifier o.callee_identifier
    refine ⟨c, name ++ "(".toList, ')', ?_, hc, by decide⟩
    rw [hname]
    rfl
  | array => exact ⟨'[', [], ']', rfl, by decide, by decide⟩
  | template => exact ⟨'`', [], '`', rfl, by decide, by decide⟩
  | mapping => exact absurd hformat h

theorem exists_bracket (indent : Option Text) (level : Nat) (opening closing : Char)
    (parts : List Text) :
    ∃ middle, Json.bracket indent level opening closing parts
      = opening :: (middle ++ [closing]) := by
  unfold Json.bracket
  cases parts with
  | nil => exact ⟨[], rfl⟩
  | cons part parts => exact ⟨_, rfl⟩

/-- **A rendering begins and ends with something to be seen.** -/
theorem isTrimmed_render (o : Options) (g : Grouping) : IsTrimmed (render o.toStyle g) := by
  by_cases hmapping : o.format = .mapping
  · obtain ⟨middle, hprinted⟩ : ∃ middle, g.toJson.pretty o.indent = '{' :: (middle ++ ['}']) :=
      exists_bracket _ _ _ _ _
    -- the braces stay where they are when the lines between them are moved
    have hmoved : render o.toStyle g = '{' :: (afterNewlines o.baseIndent middle ++ ['}']) := by
      rw [render_of_mapping hmapping, hprinted, Json.afterNewlines_cons_of_ne (by decide),
        Json.afterNewlines_append]
      rfl
    rw [hmoved]
    exact isTrimmed_of_ends (by decide) (by decide) _
  · obtain ⟨c, name, d, hbrackets, hc, hd⟩ := o.exists_brackets hmapping
    obtain ⟨middle, hblock⟩ := exists_block o.brackets.1 o.brackets.2 (g.bodyLines o.toStyle)
      o.toStyle
    have hends : render o.toStyle g = c :: (name ++ middle ++ [d]) := by
      rw [render_of_ne_mapping hmapping, hblock, hbrackets, List.cons_append, List.append_assoc]
    rw [hends]
    exact isTrimmed_of_ends hc hd _

end Ends

/-! ### Carriage returns -/

section Returns

variable {d : Char} {o : Options} {g : Grouping}

/-- What a block is written from. -/
theorem mem_block {opening closing : Text} {body : List Text} {style : Style}
    (h : d ∈ block opening closing body style) :
    d = '\n' ∨ d ∈ opening ∨ d ∈ closing ∨ d ∈ style.baseIndent ∨ d ∈ style.indent ∨
      ∃ line ∈ body, d ∈ line := by
  by_cases hempty : body = []
  · subst hempty
    rcases List.mem_append.mp h with hopening | hclosing
    · exact .inr (.inl hopening)
    · exact .inr (.inr (.inl hclosing))
  · rw [block_of_ne_nil opening closing style hempty] at h
    simp only [List.mem_append, List.mem_flatMap, Style.innerLine, Style.lastBreak,
      List.mem_cons] at h
    tauto

theorem mem_afterNewlines {base s : Text} (h : d ∈ afterNewlines base s) : d ∈ s ∨ d ∈ base := by
  obtain ⟨c, hc, hmem⟩ := List.mem_flatMap.mp h
  split at hmem
  · rcases List.mem_cons.mp hmem with rfl | hbase
    · exact .inl hc
    · exact .inr hbase
  · rw [List.mem_singleton.mp hmem]
    exact .inl hc

/-- **A rendering holds no carriage return**, provided that the indentations and the tokens have
none. -/
theorem return_notMem_render (hindent : '\r' ∉ o.indent) (hbase : '\r' ∉ o.baseIndent)
    (htokens : ∀ b ∈ g, ∀ t ∈ b.tokens, '\r' ∉ t) : '\r' ∉ render o.toStyle g := by
  intro h
  by_cases hmapping : o.format = .mapping
  · -- what is moved to the right gets the indentation, and nothing else
    rw [render_of_mapping hmapping] at h
    rcases mem_afterNewlines h with hprinted | hmem
    · exact Json.return_notMem_pretty g.exact_toJson hindent hprinted
    · exact hbase hmem
  · obtain ⟨hopening, hclosing⟩ := o.notMem_brackets isControl_return
    rw [render_of_ne_mapping hmapping] at h
    rcases mem_block h with hnewline | hmem | hmem | hmem | hmem | ⟨line, hline, hmem⟩
    · exact absurd hnewline (by decide)
    · exact hopening hmem
    · exact hclosing hmem
    · exact hbase hmem
    · exact hindent hmem
    · obtain ⟨b, hb, t, ht, hreturn⟩ := exists_token_of_mem_bodyLines isControl_return hline hmem
      exact htokens b hb t ht hreturn

end Returns

end ClassGroups
