import ClassGroups.Proofs.Layout

/-!
# Control characters in a block

Three of the four formats write a block, which is lines between two brackets
(`render_of_ne_mapping`). The renderer ends the lines and indents them. Beyond that it writes no
control character of its own: the brackets, the headings, the quotes and the escapes have none. So
if there is one inside a line, be it a newline or a carriage return, it comes from a token
(`exists_token_of_mem_bodyLines`).
-/

namespace ClassGroups

/-- A control character of ASCII. -/
def IsControl (d : Char) : Prop := d.toNat < 0x20

theorem isControl_newline : IsControl '\n' := by
  unfold IsControl
  decide

theorem isControl_return : IsControl '\r' := by
  unfold IsControl
  decide

/-! ### Blocks in three formats -/

/-- The brackets around the lines of a grouping. A mapping brings its own along. -/
def Style.brackets (style : Style) : Text × Text :=
  match style.format with
  | .clsx => (style.callee ++ "(", ")")
  | .array => ("[", "]")
  | .template => (['`'], ['`'])
  | .mapping => ([], [])

/-- The lines of a grouping between the brackets. -/
def Grouping.bodyLines (style : Style) (g : Grouping) : List Text :=
  if style.format = .template then g.templateLines style else g.quotedLines style

section Block

variable {style : Style} {g : Grouping}

theorem render_of_ne_mapping (h : style.format ≠ .mapping) (g : Grouping) :
    render style g = block style.brackets.1 style.brackets.2 (g.bodyLines style) style := by
  unfold render Style.brackets Grouping.bodyLines
  cases hformat : style.format with
  | clsx => rfl
  | array => rfl
  | template => rfl
  | mapping => exact absurd hformat h

theorem render_of_mapping (h : style.format = .mapping) (g : Grouping) :
    render style g = afterNewlines style.baseIndent (g.toJson.pretty style.indent) := by
  unfold render
  rw [h]

/-- Every line is a heading, or it shows the tokens of a group in one of three ways. -/
theorem Grouping.mem_bodyLines {line : Text} (h : line ∈ g.bodyLines style) :
    ∃ b ∈ g, line = lineComment b.category.label ∨ line = quoteClass b.text ∨
      line = quoteClass b.text ++ "," ∨ line = templateText b.text := by
  unfold bodyLines at h
  split at h
  · obtain ⟨b, hb, hline⟩ := List.mem_flatMap.mp h
    refine ⟨b, hb, ?_⟩
    rcases List.mem_append.mp hline with hheading | htext
    · exact .inl (eq_of_mem_heading hheading)
    · exact .inr (.inr (.inr (List.mem_singleton.mp htext)))
  · obtain ⟨b, hb, hline⟩ := mem_quotedLines h
    refine ⟨b, hb, ?_⟩
    rcases hline with hheading | hlast | hcomma
    · exact .inl hheading
    · exact .inr (.inl hlast)
    · exact .inr (.inr (.inl hcomma))

end Block

/-! ### What a line is written from -/

section Characters

variable {d : Char}

theorem mem_quoteClass {s : Text} (h : d ∈ quoteClass s) : d = '"' ∨ d = '\\' ∨ d ∈ s := by
  have hquote := quoteClass_append s []
  rw [List.append_nil] at hquote
  rw [hquote, List.mem_cons, List.mem_append, List.mem_singleton] at h
  rcases h with hopen | hbody | hclose
  · exact .inl hopen
  · exact .inr (mem_quotedBody hbody)
  · exact .inl hclose

variable (hd : IsControl d)

include hd

theorem IsControl.ne {c : Char} (hc : 0x20 ≤ c.toNat) : d ≠ c := by
  rintro rfl
  exact Nat.not_lt_of_le hc hd

theorem IsControl.notMem_lineComment (c : Category) : d ∉ lineComment c.label := by
  have hall : (lineComment c.label).all (0x20 ≤ ·.toNat) = true := by
    cases c <;> rfl
  intro h
  have hprinted : 0x20 ≤ d.toNat := of_decide_eq_true (List.all_eq_true.mp hall d h)
  exact hd.ne hprinted rfl

/-- A control character in the text of a group stands in one of its tokens. -/
theorem IsControl.exists_token_of_mem_text {b : Group} (h : d ∈ b.text) :
    ∃ t ∈ b.tokens, d ∈ t := by
  rcases Text.mem_of_mem_intercalate h with hspace | htoken
  · exact absurd (List.mem_singleton.mp hspace) (hd.ne (by decide))
  · exact htoken

/-- **A control character in a line** stands in a token of one of the groups. -/
theorem exists_token_of_mem_bodyLines {style : Style} {g : Grouping} {line : Text}
    (hline : line ∈ g.bodyLines style) (h : d ∈ line) : ∃ b ∈ g, ∃ t ∈ b.tokens, d ∈ t := by
  obtain ⟨b, hb, hwritten⟩ := Grouping.mem_bodyLines hline
  refine ⟨b, hb, hd.exists_token_of_mem_text ?_⟩
  -- quotes and backslashes are put around and into the text, and they are no control characters
  have hquoted (hmem : d ∈ quoteClass b.text) : d ∈ b.text := by
    rcases mem_quoteClass hmem with hquote | hslash | htext
    · exact absurd hquote (hd.ne (by decide))
    · exact absurd hslash (hd.ne (by decide))
    · exact htext
  rcases hwritten with rfl | rfl | rfl | rfl
  · exact absurd h (hd.notMem_lineComment b.category)
  · exact hquoted h
  · rcases List.mem_append.mp h with hmem | hcomma
    · exact hquoted hmem
    · exact absurd (List.mem_singleton.mp hcomma) (hd.ne (by decide))
  · rcases mem_templateText h with hslash | htext
    · exact absurd hslash (hd.ne (by decide))
    · exact htext

theorem IsControl.isIdentifierRest_eq_false : isIdentifierRest d = false := by
  have hall : ∀ n < 0x20, isIdentifierRest (Char.ofNat n) = false := by decide
  have hcontrol := hall d.toNat hd
  rwa [Char.ofNat_toNat] at hcontrol

/-- **The brackets hold no control character**, as the name of the helper is an identifier. -/
theorem Options.notMem_brackets (o : Options) : d ∉ o.brackets.1 ∧ d ∉ o.brackets.2 := by
  have hcallee : d ∉ o.callee :=
    notMem_of_isIdentifier o.callee_identifier hd.isIdentifierRest_eq_false
  have hmark (c : Char) (hc : 0x20 ≤ c.toNat) : d ∉ [c] := by
    rw [List.mem_singleton]
    exact hd.ne hc
  unfold Style.brackets
  split
  · refine ⟨?_, hmark ')' (by decide)⟩
    rw [List.mem_append, not_or]
    exact ⟨hcallee, hmark '(' (by decide)⟩
  · exact ⟨hmark '[' (by decide), hmark ']' (by decide)⟩
  · exact ⟨hmark '`' (by decide), hmark '`' (by decide)⟩
  · exact ⟨List.not_mem_nil, List.not_mem_nil⟩

end Characters

end ClassGroups
