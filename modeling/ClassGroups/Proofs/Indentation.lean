import ClassGroups.Proofs.Blocks
import ClassGroups.Proofs.Json.Printed
import ClassGroups.Proofs.Tokens

/-!
# The indentation of the surroundings

Where a rendered grouping is put into a file, its further lines take over the indentation of the
line they start on. Blocks are written with it from the start, line by line, while a mapping is
printed without it and moved to the right as a whole. The main statement, `render_eq_afterNewlines`,
says that it comes to the same: in each of the four formats a rendering is the one without this
indentation, moved to the right.

For a mapping there is nothing to show. For a block it has to be known that no newline stands inside
a line, as the renderer would not indent behind it (`afterNewlines_block`). The renderer writes none
itself, so it is enough that the tokens and the inner indentation have none. Nothing is asked of
the indentation that is put in, which may hold newlines of its own.
-/

namespace ClassGroups

open Json

/-- The options without the indentation of the surroundings. -/
def Options.unindented (o : Options) : Options := { o with baseIndent := [], baseIndent_blank := rfl }

/-! ### A text moved to the right -/

section Moved

variable {base : Text}

theorem afterNewlines_newline_cons (base s : Text) :
    afterNewlines base ('\n' :: s) = '\n' :: (base ++ afterNewlines base s) := by
  unfold afterNewlines
  rw [List.flatMap_cons, if_pos rfl, List.cons_append]

theorem afterNewlines_flatMap (base : Text) (f : Text → Text) (l : List Text) :
    afterNewlines base (l.flatMap f) = l.flatMap fun t => afterNewlines base (f t) :=
  List.flatMap_assoc

/-- **Moved to the right, line by line**: the first line stays, and each one after it starts with
the indentation. -/
theorem afterNewlines_eq_of_lines {s first : Text} {rest : List Text}
    (h : Text.lines s = first :: rest) :
    afterNewlines base s = first ++ rest.flatMap fun line => '\n' :: (base ++ line) := by
  have hnone {line : Text} (hline : line ∈ first :: rest) : afterNewlines base line = line :=
    afterNewlines_of_notMem (newline_notMem_of_mem_lines (h ▸ hline))
  have hjoined : s = first ++ rest.flatMap ('\n' :: ·) := by
    calc s = Text.intercalate Text.newline (Text.lines s) := (List.intercalate_splitOn '\n').symm
      _ = first ++ rest.flatMap ('\n' :: ·) := by
        rw [h, Text.intercalate_cons]
        rfl
  calc afterNewlines base s
      = afterNewlines base first ++ afterNewlines base (rest.flatMap ('\n' :: ·)) := by
        rw [hjoined, afterNewlines_append]
    _ = first ++ rest.flatMap fun line => afterNewlines base ('\n' :: line) := by
        rw [hnone List.mem_cons_self, afterNewlines_flatMap]
    _ = first ++ rest.flatMap fun line => '\n' :: (base ++ line) := by
        congr 1
        refine List.flatMap_congr ?_
        intro line hline
        rw [afterNewlines_newline_cons, hnone (List.mem_cons_of_mem first hline)]

end Moved

/-! ### A block moved to the right -/

section Block

variable {o : Options} {g : Grouping} {opening closing : Text} {body : List Text}

/-- A block without the indentation of the surroundings: behind each of its newlines the
indentation is missing. -/
theorem afterNewlines_block (hopening : '\n' ∉ opening) (hclosing : '\n' ∉ closing)
    (hindent : '\n' ∉ o.indent) (hbody : ∀ line ∈ body, '\n' ∉ line) :
    afterNewlines o.baseIndent (block opening closing body o.unindented.toStyle)
      = block opening closing body o.toStyle := by
  by_cases hempty : body = []
  · -- the brackets stand on one line
    subst hempty
    exact afterNewlines_of_notMem (List.mem_append.not.mpr (not_or.mpr ⟨hopening, hclosing⟩))
  · -- the newline in front of a line is the only one up to the next line
    have hinner : ∀ line ∈ body,
        afterNewlines o.baseIndent (o.unindented.innerLine line) = o.innerLine line := by
      intro line hline
      have hrest : '\n' ∉ o.indent ++ line :=
        List.mem_append.not.mpr (not_or.mpr ⟨hindent, hbody line hline⟩)
      calc afterNewlines o.baseIndent ('\n' :: (o.indent ++ line))
          = '\n' :: (o.baseIndent ++ (o.indent ++ line)) := by
            rw [afterNewlines_newline_cons, afterNewlines_of_notMem hrest]
        _ = o.innerLine line := by rw [Style.innerLine, List.append_assoc]
    have hlines : afterNewlines o.baseIndent (body.flatMap o.unindented.innerLine)
        = body.flatMap o.innerLine := by
      rw [afterNewlines_flatMap]
      exact List.flatMap_congr hinner
    have hlast : afterNewlines o.baseIndent o.unindented.lastBreak = o.lastBreak := by
      show afterNewlines o.baseIndent ['\n'] = '\n' :: o.baseIndent
      rw [afterNewlines_newline_cons]
      exact congrArg ('\n' :: ·) (List.append_nil _)
    rw [block_of_ne_nil _ _ _ hempty, block_of_ne_nil _ _ _ hempty, afterNewlines_append,
      afterNewlines_append, afterNewlines_append, hlines, hlast, afterNewlines_of_notMem hopening,
      afterNewlines_of_notMem hclosing]

/-- The lines themselves do not depend on how far they are indented. -/
theorem quotedLines_unindented (o : Options) (g : Grouping) :
    g.quotedLines o.unindented.toStyle = g.quotedLines o.toStyle := by
  induction g with
  | nil => rfl
  | cons b rest ih =>
    cases rest with
    | nil => rfl
    | cons d rest =>
      rw [Grouping.quotedLines_cons_cons, ih]
      rfl

theorem bodyLines_unindented (o : Options) (g : Grouping) :
    g.bodyLines o.unindented.toStyle = g.bodyLines o.toStyle := by
  unfold Grouping.bodyLines
  rw [quotedLines_unindented]
  rfl

end Block

/-! ### All formats -/

section Render

variable {o : Options} {g : Grouping}

/-- **What is put behind the newlines** is the indentation of the surroundings, and nothing else
depends on it. -/
theorem render_unindented (h : o.format = .mapping ∨
      '\n' ∉ o.indent ∧ ∀ b ∈ g, ∀ t ∈ b.tokens, '\n' ∉ t) :
    render o.toStyle g = afterNewlines o.baseIndent (render o.unindented.toStyle g) := by
  by_cases hmapping : o.format = .mapping
  · -- what is moved to the right is printed without an indentation of its surroundings
    have hprinted : render o.unindented.toStyle g = g.toJson.pretty o.indent := by
      have hformat : o.unindented.format = .mapping := hmapping
      rw [render_of_mapping hformat]
      exact afterNewlines_nil _
    rw [render_of_mapping hmapping, hprinted]
  · obtain ⟨hindent, htokens⟩ := h.resolve_left hmapping
    have hbody : ∀ line ∈ g.bodyLines o.toStyle, '\n' ∉ line := by
      intro line hline hmem
      obtain ⟨b, hb, t, ht, hnewline⟩ := exists_token_of_mem_bodyLines isControl_newline hline hmem
      exact htokens b hb t ht hnewline
    obtain ⟨hopening, hclosing⟩ := o.notMem_brackets isControl_newline
    have hbare : render o.unindented.toStyle g
        = block o.brackets.1 o.brackets.2 (g.bodyLines o.toStyle) o.unindented.toStyle := by
      have hformat : o.unindented.format ≠ .mapping := hmapping
      rw [render_of_ne_mapping hformat, bodyLines_unindented]
      rfl
    rw [hbare, afterNewlines_block hopening hclosing hindent hbody, render_of_ne_mapping hmapping]

/-- **A rendering with the indentation of its surroundings** is the rendering without it, with the
indentation behind each newline, so in front of each line after the first. In the three formats
that write a block, no newline may stand in a token or in the inner indentation. -/
theorem render_eq_afterNewlines (h : o.format = .mapping ∨
      '\n' ∉ o.indent ∧ ∀ b ∈ g, ∀ t ∈ b.tokens, '\n' ∉ t) :
    render o.toStyle g = afterNewlines o.baseIndent (render o.unindented.toStyle g) ∧
      ∃ first rest, Text.lines (render o.unindented.toStyle g) = first :: rest ∧
        render o.toStyle g = first ++ rest.flatMap fun line => '\n' :: (o.baseIndent ++ line) := by
  have hmoved := render_unindented h
  obtain ⟨first, rest, hlines⟩ :=
    List.exists_cons_of_ne_nil (lines_ne_nil (render o.unindented.toStyle g))
  exact ⟨hmoved, first, rest, hlines, hmoved.trans (afterNewlines_eq_of_lines hlines)⟩

/-- A template under an indentation that spans lines itself, and a mapping with newlines in a token
and in its inner indentation. -/
theorem render_eq_afterNewlines_newlines :
    ('\n' ∉ "\t".toList ∧
      ∀ b ∈ ([⟨.layout, ["flex", "`"]⟩] : Grouping), ∀ t ∈ b.tokens, '\n' ∉ t) ∧
    render { format := .template, indent := "\t", baseIndent := "\n " } [⟨.layout, ["flex", "`"]⟩]
      = "`\n\n \t// Layout\n\n \tflex \\`\n\n `".toList ∧
    render { format := .mapping, indent := "\n", baseIndent := "\t" } [⟨.layout, ["a\nb"]⟩]
      = "\x7b\n\t\n\t\"layout\": [\n\t\n\t\n\t\"a\\nb\"\n\t\n\t]\n\t\x7d".toList := by
  have htokens : '\n' ∉ "\t".toList ∧
      ∀ b ∈ ([⟨.layout, ["flex", "`"]⟩] : Grouping), ∀ t ∈ b.tokens, '\n' ∉ t := by
    decide
  have htemplate := (render_eq_afterNewlines
    (o := { format := .template, indent := "\t", baseIndent := "\n " }) (.inr htokens)).1
  have hmapping := (render_eq_afterNewlines (g := [⟨.layout, ["a\nb"]⟩])
    (o := { format := .mapping, indent := "\n", baseIndent := "\t" }) (.inl rfl)).1
  exact ⟨htokens, htemplate.trans (by decide +kernel), hmapping.trans (by decide +kernel)⟩

end Render

end ClassGroups
