import ClassGroups.Jsx.Lint
import ClassGroups.Proofs.Jsx.Sealed
import ClassGroups.Proofs.Layout
import ClassGroups.Proofs.Settled
import ClassGroups.Proofs.Tokens

/-!
# Replacements are sealed

A class list is replaced by an expression in braces that spans lines. `Sealed` asks four things of
it. The brackets of the expression and its indentation hold no quotes, so a newline comes before any
quote. A call of the helper has at least two strings, since the gate lets only lists of two groups
through, so it is not taken for a call with one string. And no assignment stands in the expression,
as long as the classes are plain: what matters is how the tokens of the expression start, and these
are the brackets, the headings and, up to quotes and escapes, the classes (`PlainWords`).
-/

namespace ClassGroups.Jsx

/-! ### Texts whose tokens are plain -/

section PlainWords

variable {names : List Text} {s t : Text} {c : Char}

theorem PlainWords.append_cons (hs : PlainWords names s) (hc : isBlank c = true)
    (ht : PlainWords names t) : PlainWords names (s ++ c :: t) := by
  intro word hword
  rw [tokenize_append_cons hc] at hword
  exact (List.mem_append.mp hword).elim (hs word) (ht word)

theorem PlainWords.blank_append {w : Text} (hw : Text.Blank w) (hs : PlainWords names s) :
    PlainWords names (w ++ s) := by
  unfold PlainWords
  rwa [tokenize_append_of_blank hw]

theorem PlainWords.of_notMem (h : '=' ∉ s) : PlainWords names s := by
  intro word hword
  have hnot (a : Text) : ¬a ++ ['='] <+: word := by
    intro hbegins
    exact h (mem_of_mem_token hword (hbegins.subset (by simp)))
  exact ⟨hnot [], fun name _ => hnot name⟩

theorem PlainWords.of_no_blank (h : ∀ c ∈ s, isBlank c = false) (hs : IsPlain names s) :
    PlainWords names s := by
  by_cases hne : s = []
  · subst hne
    exact PlainWords.of_notMem List.not_mem_nil
  · intro word hword
    rw [tokenize_of_no_blank h hne] at hword
    exact List.mem_singleton.mp hword ▸ hs

/-- An assignment to one of the names has a token that is not plain: it starts with the name and the
equals sign or, if there is white space between them, with the equals sign. -/
theorem exists_not_isPlain (hn : ∀ name ∈ names, IsName name) {place : Nat} {head rest name : Text}
    (hname : name ∈ names) (hhead : IsAssignment name head)
    (h : IsStart s place (head ++ rest)) : ¬PlainWords names s := by
  obtain ⟨before, blank, hblank, rfl, -⟩ := h
  obtain ⟨w, w', hw, hw', rfl⟩ := hhead
  intro hplain
  have hequals : ∀ c ∈ ['='], isBlank c = false := by simp; decide
  cases w with
  | nil =>
    -- the name and the equals sign start one token
    have hall : ∀ c ∈ name ++ ['='], isBlank c = false := fun c hc =>
      (List.mem_append.mp hc).elim (fun h => (hn name hname).not_isBlank h) (hequals c)
    obtain ⟨u, hu⟩ := exists_append_mem_tokenize hall (by simp) (w' ++ rest)
    refine (hplain ((name ++ ['=']) ++ u) ?_).2 name hname ⟨u, rfl⟩
    rw [tokenize_append_cons hblank]
    exact List.mem_append_right _ (by simpa using hu)
  | cons c w =>
    -- the white space ends the token before, so the equals sign starts one
    rw [Text.Blank, List.all_cons, Bool.and_eq_true] at hw
    obtain ⟨u, hu⟩ := exists_append_mem_tokenize hequals (by simp) (w' ++ rest)
    refine (hplain (['='] ++ u) ?_).1 ⟨u, rfl⟩
    have hsplit : before ++ blank :: ((name ++ c :: w ++ '=' :: w') ++ rest)
        = (before ++ blank :: name) ++ c :: (w ++ (['='] ++ (w' ++ rest))) := by simp
    rw [hsplit, tokenize_append_cons hw.1, tokenize_append_of_blank hw.2]
    exact List.mem_append_right _ hu

end PlainWords

/-! ### The lines of a grouping -/

section Lines

variable {names : List Text} {s t x z : Text}

/-- What holds no quote and no backslash starts a quoted text only if it starts the text. -/
theorem isPrefix_of_quotedBody {p : Text} (hp : ∀ c ∈ p, c ≠ '\\' ∧ c ≠ '"')
    (h : p <+: quotedBody t ++ '"' :: z) : p <+: t := by
  induction t generalizing p with
  | nil =>
    cases p with
    | nil => exact List.nil_prefix
    | cons c p => exact absurd (List.cons_prefix_cons.mp h).1 (hp c List.mem_cons_self).2
  | cons d t ih =>
    cases p with
    | nil => exact List.nil_prefix
    | cons c p =>
      have hc := hp c List.mem_cons_self
      rw [quotedBody_cons] at h
      split at h
      · -- an escaped character has a backslash in front of it
        exact absurd (List.cons_prefix_cons.mp h).1 hc.1
      · obtain ⟨rfl, hrest⟩ := List.cons_prefix_cons.mp h
        exact List.cons_prefix_cons.mpr
          ⟨rfl, ih (fun e he => hp e (List.mem_cons_of_mem c he)) hrest⟩

variable (hn : ∀ name ∈ names, IsName name)

include hn

theorem IsPlain.quotedBody_append (h : IsPlain names t) :
    IsPlain names (quotedBody t ++ '"' :: z) := by
  refine ⟨fun hp => h.1 (isPrefix_of_quotedBody (by simp) hp), fun name hname hp => ?_⟩
  refine h.2 name hname (isPrefix_of_quotedBody (fun c hc => ?_) hp)
  rcases List.mem_append.mp hc with hc | hc
  · have hnot := (hn name hname c hc).2
    exact ⟨fun he => hnot (he ▸ by decide), fun he => hnot (he ▸ by decide)⟩
  · rw [List.mem_singleton.mp hc]
    decide

theorem IsPlain.quotedBody (h : IsPlain names t) : IsPlain names (quotedBody t) := by
  have hlong := h.quotedBody_append hn (z := [])
  refine ⟨fun hp => hlong.1 (hp.trans (List.prefix_append _ _)), fun name hname hp => ?_⟩
  exact hlong.2 name hname (hp.trans (List.prefix_append _ _))

/-- A quote starts neither a name nor an equals sign. -/
theorem isPlain_quote_cons (s : Text) : IsPlain names ('"' :: s) := by
  refine ⟨fun h => absurd (List.cons_prefix_cons.mp h).1 (by decide), fun name hname h => ?_⟩
  cases name with
  | nil => exact absurd (List.cons_prefix_cons.mp h).1 (by decide)
  | cons c name =>
    obtain rfl := (List.cons_prefix_cons.mp h).1
    exact (hn _ hname '"' List.mem_cons_self).2 (by decide)

theorem plainWords_quotedTokens {tokens : List Text}
    (htokens : ∀ t ∈ tokens, (∀ c ∈ t, isBlank c = false) ∧ IsPlain names t)
    (hz : ∀ c ∈ z, isBlank c = false) (hx : ∀ c ∈ x, isBlank c = false) (hplain : IsPlain names x)
    (hplain' : IsPlain names (x ++ '"' :: z)) :
    PlainWords names (x ++ (tokens.flatMap (fun t => ' ' :: quotedBody t) ++ '"' :: z)) := by
  -- the walk is at a token `x` that starts the text, and the next space ends it
  induction tokens generalizing x with
  | nil =>
    refine PlainWords.of_no_blank (fun c hc => ?_) hplain'
    rcases List.mem_append.mp hc with hc | hc
    · exact hx c hc
    · rcases List.mem_cons.mp hc with rfl | hc
      · decide
      · exact hz c hc
  | cons t tokens ih =>
    obtain ⟨hblank, ht⟩ := htokens t List.mem_cons_self
    have hbody : ∀ c ∈ quotedBody t, isBlank c = false := by
      intro c hc
      rcases mem_quotedBody hc with rfl | hc
      · decide
      · exact hblank c hc
    have hrest := ih (fun t ht => htokens t (List.mem_cons_of_mem _ ht)) hbody
      (ht.quotedBody hn) (ht.quotedBody_append hn)
    rw [List.flatMap_cons, List.append_assoc]
    exact (PlainWords.of_no_blank hx hplain).append_cons isBlank_space hrest

/-- The string of a group of plain classes has plain tokens. -/
theorem plainWords_quoteClass {g : Group} (hg : g ∈ group s) (hs : PlainWords names s)
    (hz : ∀ c ∈ z, isBlank c = false) : PlainWords names (quoteClass g.text ++ z) := by
  have htokens : ∀ t ∈ g.tokens, (∀ c ∈ t, isBlank c = false) ∧ IsPlain names t := fun t ht =>
    have hmem := mem_tokenize_of_mem_group hg ht
    ⟨fun _ hc => isBlank_of_mem_token hmem hc, hs t hmem⟩
  obtain ⟨t, tokens, hcons⟩ := List.exists_cons_of_ne_nil (tokens_ne_nil_of_mem_group hg)
  rw [hcons] at htokens
  have htext : quotedBody g.text
      = quotedBody t ++ tokens.flatMap (fun t => ' ' :: quotedBody t) := by
    rw [Group.text, hcons, Text.intercalate_cons, quotedBody_append, quotedBody_flatMap]
    rfl
  obtain ⟨hblank, -⟩ := htokens t List.mem_cons_self
  -- the first token comes with the quote in front of it, so it is plain whatever it is
  rw [quoteClass_append, htext, List.append_assoc, ← List.cons_append]
  refine plainWords_quotedTokens hn (fun t ht => htokens t (List.mem_cons_of_mem _ ht)) hz ?_
    (isPlain_quote_cons hn _) (isPlain_quote_cons hn _)
  intro c hc
  rcases List.mem_cons.mp hc with rfl | hc
  · decide
  · rcases mem_quotedBody hc with rfl | hc
    · decide
    · exact hblank c hc

end Lines

/-! ### The expression -/

/-- The expression that joins the strings of a rendered grouping. -/
def expression (format : OutputFormat) (rendered : Text) : Text :=
  if format = .array then rendered ++ ".join(\" \")" else rendered

theorem isEscaped_quotedBody {s : Text} (h : '\n' ∉ s) : IsEscaped '"' (quotedBody s) := by
  induction s with
  | nil => exact .nil
  | cons c s ih =>
    obtain ⟨hc, hs⟩ := not_or.mp (fun hor => h (List.mem_cons.mpr hor))
    rw [quotedBody_cons]
    by_cases hq : c = '\\' ∨ c = '"'
    · rw [if_pos hq]
      exact .escape (Ne.symm hc) (ih hs)
    · rw [if_neg hq]
      exact .plain (fun he => hq (Or.inr he)) (Ne.symm hc) (fun he => hq (Or.inl he)) (ih hs)

theorem newline_notMem_text {s : Text} {g : Group} (hg : g ∈ group s) : '\n' ∉ g.text := by
  intro hmem
  -- no token holds a newline, and the tokens of a group are joined by spaces
  rcases Text.mem_of_mem_intercalate hmem with hspace | ⟨t, ht, hmem⟩
  · exact absurd hspace (by decide)
  · have hblank := isBlank_of_mem_token (mem_tokenize_of_mem_group hg ht) hmem
    exact absurd isBlank_newline (by simp [hblank])

theorem equals_notMem_lineComment (c : Category) : '=' ∉ lineComment c.label := by
  cases c <;> decide

section Expression

variable (o : Options) (hspliceable : o.format.spliceable = true) {s : Text} {g : Grouping}

include hspliceable

/-- **The expression line by line**: a bracket, the lines of the groups, and the end. -/
theorem exists_expression (hg : g ≠ []) :
    ∃ tail, '=' ∉ tail ∧ expression o.format (render o.toStyle g)
      = o.opening ++ ((g.quotedLines o.toStyle).flatMap o.innerLine ++ (o.lastBreak ++ tail)) := by
  unfold expression
  rw [render_of_spliceable hspliceable, block_of_ne_nil _ _ _ (Grouping.quotedLines_ne_nil hg)]
  split
  · refine ⟨o.closing ++ ".join(\" \")", ?_, by simp⟩
    unfold Style.closing
    split <;> decide
  · refine ⟨o.closing, ?_, rfl⟩
    unfold Style.closing
    split <;> decide

omit hspliceable in
/-- If a string is the first thing in the lines of two groups or more, a comma stands behind it. -/
theorem escapedString?_lines {b d : Group} {more : Grouping} (hb : '\n' ∉ b.text)
    {rest raw r : Text}
    (h : escapedString? (Text.trimLeft
      ((Grouping.quotedLines o.toStyle (b :: d :: more)).flatMap o.innerLine ++ rest))
        = some (raw, r)) : ∃ r', r = ',' :: r' := by
  rw [Grouping.quotedLines_cons_cons, List.flatMap_append, List.flatMap_append,
    List.append_assoc, List.append_assoc] at h
  unfold Group.heading at h
  split at h
  · -- a comment is no string
    rw [List.flatMap_singleton, o.trimLeft_innerLine] at h
    obtain ⟨q, hq, -, hcons⟩ := escapedString?_eq_some_iff.mp h
    obtain rfl : q = '/' := (List.cons.inj hcons).1.symm
    exact absurd hq (by simp [IsQuote])
  · -- the string is that of the first group, and the line goes on with a comma
    rw [List.flatMap_nil, List.nil_append, List.flatMap_singleton, o.trimLeft_innerLine,
      List.append_assoc, quoteClass_append, Text.trimLeft_cons_of_not_isBlank (by decide)] at h
    have hread (t : Text) := escapedString?_eq_some_iff.mpr
      ⟨'"', Or.inl rfl, isEscaped_quotedBody hb, (rfl : '"' :: (quotedBody b.text ++ '"' :: t) = _)⟩
    obtain ⟨-, rfl⟩ := Prod.mk.inj (Option.some.inj (h.symm.trans (hread _)))
    exact ⟨_, rfl⟩

/-- **The expression is no call with one string**, as it has two strings at least. -/
theorem callBody?_expression (h : 2 ≤ (group s).length) (rest : Text) :
    callBody? o.callee (expression o.format (render o.toStyle (group s)) ++ rest) = none := by
  obtain ⟨b, d, more, hg⟩ : ∃ b d more, group s = b :: d :: more := by
    obtain ⟨b, rest, hb⟩ := List.exists_cons_of_length_pos (Nat.lt_of_succ_lt h)
    rw [hb, List.length_cons] at h
    obtain ⟨d, more, hd⟩ := List.exists_cons_of_length_pos (Nat.lt_of_succ_lt_succ h)
    exact ⟨b, d, more, by rw [hb, hd]⟩
  obtain ⟨tail, -, hexpression⟩ := exists_expression o hspliceable
    (g := group s) (by rw [hg]; exact List.cons_ne_nil _ _)
  rw [hexpression]
  unfold Style.opening
  by_cases hformat : o.format = .array
  · -- a list starts with a bracket, the helper does not
    rw [if_pos hformat]
    obtain ⟨c, ident, hident⟩ := List.exists_cons_of_ne_nil
      (ne_nil_of_isIdentifier o.callee_identifier)
    have hc : c ≠ '[' := fun he => notMem_of_isIdentifier o.callee_identifier (c := '[')
      (by decide) (by rw [hident, he]; exact List.mem_cons_self)
    rw [callBody?, hident]
    exact congrArg (Option.bind · _) (Text.after?_cons_of_ne hc _ _)
  · -- the first thing in the call is a comment or a string with a comma behind it
    refine Option.eq_none_iff_forall_ne_some.mpr fun body hcall => ?_
    rw [if_neg hformat, List.append_assoc, hg, callBody?] at hcall
    obtain ⟨argument, hargument, hcall⟩ := Option.bind_eq_some_iff.mp hcall
    obtain ⟨⟨raw, r⟩, hstring, hcall⟩ := Option.bind_eq_some_iff.mp hcall
    obtain ⟨r₁, hclose, -⟩ := Option.bind_eq_some_iff.mp hcall
    obtain rfl := Option.some.inj ((Text.after?_append _ _).symm.trans hargument)
    rw [List.append_assoc] at hstring
    obtain ⟨r', rfl⟩ := escapedString?_lines o
      (newline_notMem_text (hg ▸ List.mem_cons_self)) hstring
    rw [Text.trimLeft_cons_of_not_isBlank (by decide), Text.after?_cons_of_ne (by decide)] at hclose
    exact absurd hclose (by simp)

/-- White space before the expression is skipped, but none of the expression is. -/
theorem callBody?_trimLeft_expression (h : 2 ≤ (group s).length) {w : Text} (hw : Text.Blank w)
    (rest : Text) :
    callBody? o.callee
      (Text.trimLeft (w ++ (expression o.format (render o.toStyle (group s)) ++ rest))) = none := by
  have hne : group s ≠ [] := fun he => absurd (he ▸ h) (by decide)
  obtain ⟨tail, -, hexpression⟩ := exists_expression o hspliceable hne
  obtain ⟨d, name, hbracket, hd⟩ := o.exists_opening
  have htrim (t : Text) : Text.trimLeft (w ++ (o.opening ++ t)) = o.opening ++ t := by
    rw [Text.trimLeft_append_of_blank hw, hbracket, List.cons_append,
      Text.trimLeft_cons_of_not_isBlank hd]
  have hnone := callBody?_expression o hspliceable h rest
  rw [hexpression, List.append_assoc] at hnone ⊢
  rw [htrim]
  exact hnone

omit hspliceable in
theorem plainWords_lines {names lines : List Text} {x y : Text}
    (hlines : ∀ line ∈ lines, PlainWords names line) (hx : PlainWords names x)
    (hy : PlainWords names y) :
    PlainWords names (x ++ (lines.flatMap o.innerLine ++ '\n' :: y)) := by
  induction lines generalizing x with
  | nil => exact hx.append_cons isBlank_newline hy
  | cons line lines ih =>
    have hindent := Text.blank_append o.baseIndent_blank o.indent_blank
    have hline := (hlines line List.mem_cons_self).blank_append hindent
    have hrest := ih (fun l hl => hlines l (List.mem_cons_of_mem _ hl)) hline
    rw [List.flatMap_cons, Style.innerLine, List.append_assoc, List.cons_append]
    exact hx.append_cons isBlank_newline hrest

/-- **A replacement is sealed**: the expression for a class list that passes the gate, in braces. -/
theorem sealed_expression {names : List Text} (hn : ∀ name ∈ names, IsName name)
    {threshold : Nat} (hgate : gate threshold s = none) (hs : PlainWords names s) {w w' : Text}
    (hw : Text.Blank w) (hw' : Text.Blank w') :
    Sealed names o.callee
      ('{' :: (w ++ (expression o.format (render o.toStyle (group s)) ++ (w' ++ ['}'])))) := by
  have htwo := two_le_length_of_gate_eq_none hgate
  have hne : group s ≠ [] := fun he => absurd (he ▸ htwo) (by decide)
  obtain ⟨tail, htail, hexpression⟩ := exists_expression o hspliceable hne
  have hlinesne : (group s).quotedLines o.toStyle ≠ [] := Grouping.quotedLines_ne_nil hne
  obtain ⟨line, lines, hlines⟩ := List.exists_cons_of_ne_nil hlinesne
  have hopening {c : Char} (hrest : isIdentifierRest c = false) (hc : c ≠ '[') (hc' : c ≠ '(') :
      c ∉ o.opening := by
    unfold Style.opening
    split
    · simpa using hc
    · simpa [hc'] using notMem_of_isIdentifier o.callee_identifier hrest
  constructor
  case opening =>
    -- up to the first newline there is white space and the bracket
    refine ⟨w ++ o.opening, o.baseIndent ++ o.indent ++ line ++ (lines.flatMap o.innerLine ++
      (o.lastBreak ++ tail ++ (w' ++ ['}']))), ?_, ?_⟩
    · rw [hexpression, hlines, List.flatMap_cons]
      simp [Style.innerLine]
    · intro q hq hmem
      rcases List.mem_append.mp hmem with hmem | hmem
      · exact Text.notMem_of_blank hw hq.not_isBlank hmem
      · rcases hq with rfl | rfl
        · exact hopening (by decide) (by decide) (by decide) hmem
        · exact hopening (by decide) (by decide) (by decide) hmem
  case closing =>
    exact ⟨'{' :: (w ++ (expression o.format (render o.toStyle (group s)) ++ w')), by simp⟩
  case no_call =>
    intro opened t h
    obtain ⟨-, rfl⟩ := List.cons.inj (h.symm.trans (List.cons_append))
    simpa using callBody?_trimLeft_expression o hspliceable htwo hw (w' ++ ['}'] ++ t)
  case no_assignment =>
    -- headings and brackets hold no equals sign, and the strings have the classes as tokens
    intro place a ha name hname head t hhead heq
    refine exists_not_isPlain hn hname hhead (heq ▸ ha) ?_
    have hequals : isBlank '=' = false := by decide
    have hfirst : '=' ∉ '{' :: (w ++ o.opening) := by
      have hbracket : '=' ∉ o.opening := hopening (by decide) (by decide) (by decide)
      simp [Text.notMem_of_blank hw hequals, hbracket]
    have hlast : '=' ∉ o.baseIndent ++ (tail ++ (w' ++ ['}'])) := by
      simp [Text.notMem_of_blank o.baseIndent_blank hequals, Text.notMem_of_blank hw' hequals,
        htail]
    have hcomma : ∀ c ∈ (",".toList : Text), isBlank c = false := by
      intro c hc
      obtain rfl : c = ',' := List.mem_singleton.mp hc
      decide
    have hwords : ∀ l ∈ Grouping.quotedLines o.toStyle (group s), PlainWords names l := by
      intro l hl
      obtain ⟨b, hb, rfl | rfl | rfl⟩ := Grouping.mem_quotedLines hl
      · exact PlainWords.of_notMem (equals_notMem_lineComment b.category)
      · have hquote := plainWords_quoteClass hn hb hs (z := []) (by simp)
        simpa using hquote
      · exact plainWords_quoteClass hn hb hs hcomma
    have hplain := plainWords_lines o hwords (PlainWords.of_notMem hfirst)
      (PlainWords.of_notMem hlast)
    rw [hexpression]
    simpa [Style.lastBreak] using hplain

end Expression

end ClassGroups.Jsx
