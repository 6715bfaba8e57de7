import ClassGroups.Proofs.Layout
import ClassGroups.Proofs.Tokens

/-!
# Template literals can be read back

`TemplateLiteral.content?` reads a template literal from behind its opening backtick: a backslash
makes the next character stand for itself, the first backtick without one closes the literal, and a
`$` without one in front of a brace starts an interpolation, for which the literal is refused. The
main statement, `content?_render`, is that a rendered grouping is read as one literal that ends with
its last character and holds the lines of the grouping as they were before anything was escaped.

Three kinds of characters are escaped, and the escapes could run into each other or into what
follows. `content?_templateText` says that they do not: an escaped text is read as the text,
whatever it holds and whatever comes after it, except for one case. A `$` at its very end would
start an interpolation together with a brace behind it. In a literal of lines this cannot happen,
since a text is followed by a newline.

A class list without tokens has no lines, and its literal is empty: it does not even hold the break
before the closing backtick (`not_content?_render_empty`).
-/

namespace ClassGroups

namespace TemplateLiteral

/-! ### The reader -/

/-- What a template literal holds, from behind its opening backtick up to the one that closes it,
and what follows. -/
def content? : Text → Option (Text × Text)
  | [] => none
  | '\\' :: c :: s => (content? s).map fun (held, rest) => (c :: held, rest)
  | '`' :: s => some ([], s)
  | '$' :: '{' :: _ => none
  | c :: s => (content? s).map fun (held, rest) => (c :: held, rest)

/-- What is read with a text in front of what it holds. -/
def prepend (front : Text) (read : Option (Text × Text)) : Option (Text × Text) :=
  read.map fun (held, rest) => (front ++ held, rest)

theorem prepend_nil (read : Option (Text × Text)) : prepend [] read = read := by
  cases read with
  | none => rfl
  | some result => rfl

theorem prepend_append (a b : Text) (read : Option (Text × Text)) :
    prepend (a ++ b) read = prepend a (prepend b read) := by
  cases read with
  | none => rfl
  | some result =>
    obtain ⟨held, rest⟩ := result
    change some (a ++ b ++ held, rest) = some (a ++ (b ++ held), rest)
    rw [List.append_assoc]

/-! ### What is read as it stands -/

/-- **A plain character** neither escapes nor closes nor opens anything. -/
def IsPlain (c : Char) : Prop := c ≠ '\\' ∧ c ≠ '`' ∧ c ≠ '$'

theorem isPlain_of_isBlank {c : Char} (h : isBlank c = true) : IsPlain c := by
  have hne {d : Char} (hd : isBlank d = false) : c ≠ d := by
    rintro rfl
    exact absurd h (by simp [hd])
  exact ⟨hne (by decide), hne (by decide), hne (by decide)⟩

section Plain

variable {c : Char} {a s : Text}

theorem content?_cons_escape (c : Char) (s : Text) :
    content? ('\\' :: c :: s) = prepend [c] (content? s) := rfl

theorem content?_cons_of_isPlain (h : IsPlain c) (s : Text) :
    content? (c :: s) = prepend [c] (content? s) := by
  obtain ⟨hback, htick, hdollar⟩ := h
  -- none of the other cases of the reader starts with `c`
  rw [content?.eq_5 c s (by grind) (by grind) (by grind)]
  rfl

/-- A `$` that no brace follows stands for itself. -/
theorem content?_cons_dollar (h : s.head? ≠ some '{') :
    content? ('$' :: s) = prepend ['$'] (content? s) := by
  rw [content?.eq_5 '$' s (by nofun) (by nofun) ?_]
  · rfl
  · rintro rest - rfl
    exact h rfl

theorem content?_append_of_isPlain (h : ∀ c ∈ a, IsPlain c) (s : Text) :
    content? (a ++ s) = prepend a (content? s) := by
  induction a with
  | nil => exact (prepend_nil _).symm
  | cons c a ih =>
    have hrest : ∀ d ∈ a, IsPlain d := fun d hd => h d (List.mem_cons_of_mem c hd)
    rw [List.cons_append, content?_cons_of_isPlain (h c List.mem_cons_self), ih hrest,
      ← prepend_append]
    rfl

end Plain

/-! ### What was escaped -/

section Escaped

/-- Before an escaped text no brace turns up that was not there. -/
theorem head?_templateText_append {s rest : Text} (hs : s.head? ≠ some '{')
    (hrest : rest.head? ≠ some '{') : (templateText s ++ rest).head? ≠ some '{' := by
  fun_cases templateText s with
  | case1 => exact hrest
  | case2 s => exact fun h => absurd (Option.some.inj h) (by decide)
  | case3 c s => exact fun h => absurd (Option.some.inj h) (by decide)
  | case4 c s => exact fun h => hs (congrArg some (Option.some.inj h))

/-- **An escaped text** is read as the text, if no brace follows it. -/
theorem content?_templateText (s : Text) {rest : Text} (hrest : rest.head? ≠ some '{') :
    content? (templateText s ++ rest) = prepend s (content? rest) := by
  fun_induction templateText s with
  | case1 => exact (prepend_nil _).symm
  | case2 s ih =>
    -- the dollar is escaped, and behind it the brace is a character like any other
    have hbrace : IsPlain '{' := ⟨by decide, by decide, by decide⟩
    rw [List.cons_append, List.cons_append, List.cons_append, content?_cons_escape,
      content?_cons_of_isPlain hbrace, ih, ← prepend_append, ← prepend_append]
    rfl
  | case3 c s _ _ ih =>
    rw [List.cons_append, List.cons_append, content?_cons_escape, ih, ← prepend_append]
    rfl
  | case4 c s hno hc ih =>
    obtain ⟨hback, htick⟩ := not_or.mp hc
    rw [List.cons_append]
    by_cases hdollar : c = '$'
    · subst hdollar
      -- no brace follows in the text, so none does in its escaped form
      have hs : s.head? ≠ some '{' := by
        intro hs
        cases s with
        | nil => exact absurd hs (by simp)
        | cons d s =>
          obtain rfl : d = '{' := Option.some.inj hs
          exact hno s rfl rfl
      rw [content?_cons_dollar (head?_templateText_append hs hrest), ih, ← prepend_append]
      rfl
    · rw [content?_cons_of_isPlain ⟨hback, htick, hdollar⟩, ih, ← prepend_append]
      rfl

end Escaped

end TemplateLiteral

/-! ### The lines of a grouping -/

/-- **What the literal of a grouping holds**: for each group a line with its heading, if headings
are wanted, and a line with its tokens, and after all lines the break before the closing
backtick. -/
def Grouping.plainLines (style : Style) (g : Grouping) : Text :=
  (g.flatMap fun b =>
    (if style.comments then style.innerLine ("// " ++ b.category.label) else [])
      ++ style.innerLine (Text.intercalate " " b.tokens))
    ++ style.lastBreak

theorem Grouping.plainLines_cons (style : Style) (b : Group) (g : Grouping) :
    Grouping.plainLines style (b :: g)
      = (b.heading style).flatMap style.innerLine
        ++ (style.innerLine b.text ++ Grouping.plainLines style g) := by
  unfold Grouping.plainLines Group.heading Group.text
  by_cases hc : style.comments = true <;> simp [hc, lineComment]

namespace TemplateLiteral

variable (o : Options)

/-- Everything on a line in front of its content is white space. -/
theorem content?_innerLine (line s : Text) :
    content? (o.innerLine line ++ s)
      = prepend ('\n' :: (o.baseIndent ++ o.indent)) (content? (line ++ s)) := by
  have hblank : Text.Blank ('\n' :: (o.baseIndent ++ o.indent)) :=
    Text.blank_cons isBlank_newline (Text.blank_append o.baseIndent_blank o.indent_blank)
  have hsplit : o.innerLine line ++ s = ('\n' :: (o.baseIndent ++ o.indent)) ++ (line ++ s) := by
    simp [Style.innerLine]
  rw [hsplit]
  exact content?_append_of_isPlain
    (fun c hc => isPlain_of_isBlank (List.all_eq_true.mp hblank c hc)) _

theorem content?_lastBreak (s : Text) :
    content? (o.lastBreak ++ s) = prepend o.lastBreak (content? s) := by
  have hblank : Text.Blank o.lastBreak := Text.blank_cons isBlank_newline o.baseIndent_blank
  exact content?_append_of_isPlain
    (fun c hc => isPlain_of_isBlank (List.all_eq_true.mp hblank c hc)) _

theorem isPlain_of_mem_lineComment (c : Category) : ∀ ch ∈ lineComment c.label, IsPlain ch := by
  have hall :
      (lineComment c.label).all (fun ch => ch != '\\' && ch != '`' && ch != '$') = true := by
    cases c <;> rfl
  intro ch hch
  have hplain := List.all_eq_true.mp hall ch hch
  rw [Bool.and_eq_true, Bool.and_eq_true, bne_iff_ne, bne_iff_ne, bne_iff_ne] at hplain
  exact ⟨hplain.1.1, hplain.1.2, hplain.2⟩

theorem content?_heading (c : Category) (s : Text) :
    content? (o.innerLine (lineComment c.label) ++ s)
      = prepend (o.innerLine (lineComment c.label)) (content? s) := by
  rw [content?_innerLine, content?_append_of_isPlain (isPlain_of_mem_lineComment c),
    ← prepend_append]
  rfl

/-- The line of the tokens is read as the tokens, since no brace follows on it. -/
theorem content?_tokens (text : Text) {rest : Text} (hrest : rest.head? ≠ some '{') :
    content? (o.innerLine (templateText text) ++ rest)
      = prepend (o.innerLine text) (content? rest) := by
  rw [content?_innerLine, content?_templateText text hrest, ← prepend_append]
  rfl

/-- No brace follows the tokens of a group, but the next line or the last break. -/
theorem head?_templateLines_ne (g : Grouping) (s : Text) :
    ((g.templateLines o.toStyle).flatMap o.innerLine ++ (o.lastBreak ++ s)).head? ≠ some '{' := by
  cases g.templateLines o.toStyle with
  | nil => exact fun h => absurd (Option.some.inj h) (by decide)
  | cons line lines => exact fun h => absurd (Option.some.inj h) (by decide)

/-- **All lines** are read, up to the backtick behind them. -/
theorem content?_templateLines (g : Grouping) :
    content? ((g.templateLines o.toStyle).flatMap o.innerLine ++ (o.lastBreak ++ ['`']))
      = some (g.plainLines o.toStyle, []) := by
  induction g with
  | nil =>
    rw [Grouping.templateLines, List.flatMap_nil, List.flatMap_nil, List.nil_append,
      content?_lastBreak]
    change some (o.lastBreak ++ [], []) = _
    rw [List.append_nil]
    rfl
  | cons b g ih =>
    have htokens := content?_tokens o b.text (head?_templateLines_ne o g ['`'])
    rw [ih] at htokens
    have hlines : (Grouping.templateLines o.toStyle (b :: g)).flatMap o.innerLine
          ++ (o.lastBreak ++ ['`'])
        = (b.heading o.toStyle).flatMap o.innerLine ++ (o.innerLine (templateText b.text)
          ++ ((Grouping.templateLines o.toStyle g).flatMap o.innerLine
            ++ (o.lastBreak ++ ['`']))) := by
      simp [Grouping.templateLines]
    rw [hlines, Grouping.plainLines_cons]
    -- with headings there is one line more in front of the tokens
    by_cases hc : o.comments = true
    · have hheading : b.heading o.toStyle = [lineComment b.category.label] := if_pos hc
      rw [hheading, List.flatMap_singleton, content?_heading, htokens]
      rfl
    · have hheading : b.heading o.toStyle = [] := if_neg hc
      rw [hheading, List.flatMap_nil, List.nil_append, List.nil_append, htokens]
      rfl

end TemplateLiteral

/-- A class list without tokens has no groups. -/
theorem group_eq_nil_iff (s : Text) : group s = [] ↔ tokenize s = [] := by
  constructor
  · intro h
    have hperm := (isPartition_groupTokens (tokenize s)).conserved
    have hnil : groupTokens (tokenize s) = [] := h
    rw [hnil] at hperm
    exact hperm.nil_eq.symm
  · intro h
    rw [group, h]
    rfl

/-- **Template literals can be read back.** The grouping of a class list with tokens is rendered as
one literal, which its last character closes and which holds the lines of the grouping. Without
tokens the literal is empty. -/
theorem content?_render (o : Options) (s : Text) (h : o.format = .template) :
    ∃ body, render o.toStyle (group s) = '`' :: body ∧
      TemplateLiteral.content? body
        = some (if tokenize s = [] then [] else (group s).plainLines o.toStyle, []) := by
  have hrender : render o.toStyle (group s)
      = block ['`'] ['`'] ((group s).templateLines o.toStyle) o.toStyle := by
    rw [render, h]
  rw [hrender]
  by_cases hs : tokenize s = []
  · -- without lines the backticks stand side by side
    refine ⟨['`'], ?_, ?_⟩
    · rw [(group_eq_nil_iff s).mpr hs]
      rfl
    · rw [if_pos hs]
      rfl
  · have hg : group s ≠ [] := fun hnil => hs ((group_eq_nil_iff s).mp hnil)
    rw [block_of_ne_nil _ _ _ (Grouping.templateLines_ne_nil hg)]
    refine ⟨_, rfl, ?_⟩
    rw [if_neg hs]
    exact TemplateLiteral.content?_templateLines o (group s)

/-- Tokens with dollars, braces, backticks and backslashes in a row. -/
theorem content?_render_escapes :
    ({ format := .template } : Options).format = .template ∧
    ∃ body, render ({ format := .template } : Options).toStyle
        (group "$\x7b $$\x7b\x60 \\$\x7b \\\x60 flex$") = '`' :: body ∧
      TemplateLiteral.content? body
        = some (if tokenize "$\x7b $$\x7b\x60 \\$\x7b \\\x60 flex$" = [] then []
          else (group "$\x7b $$\x7b\x60 \\$\x7b \\\x60 flex$").plainLines
            ({ format := .template } : Options).toStyle, []) :=
  ⟨rfl, content?_render { format := .template } "$\x7b $$\x7b\x60 \\$\x7b \\\x60 flex$" rfl⟩

/-- **An empty class list** has no break in its literal. -/
theorem not_content?_render_empty :
    ¬∃ body, render ({ format := .template } : Options).toStyle (group []) = '`' :: body ∧
      TemplateLiteral.content? body
        = some ((group []).plainLines ({ format := .template } : Options).toStyle, []) := by
  rintro ⟨body, hrender, hread⟩
  have hliteral : render ({ format := .template } : Options).toStyle (group []) = ['`', '`'] := rfl
  rw [hliteral] at hrender
  obtain ⟨-, rfl⟩ := List.cons.inj hrender
  exact absurd hread (by decide)

end ClassGroups
