import ClassGroups.Proofs.Jsx.Denotation
import ClassGroups.Proofs.Jsx.Findings
import ClassGroups.Proofs.Jsx.Replacement
import ClassGroups.Proofs.Jsx.Splicing
import ClassGroups.Proofs.ReadBack

/-!
# Whether a fix keeps the classes

A call of the helper with one string is replaced by an expression with a string for each group. The
classes that either of them applies are the words for which its strings stand (`denotedWords`).

The replacement is written so that its strings stand for exactly the classes that were read
(`denotedWords_expression_perm`): a quoted text stands for itself, and a grouping conserves its
tokens. The string of the call, however, is read without knowledge of the escapes that name a
character by a letter or by its code. The main statement, `denotedWords_replacement_perm_iff`, is
that the classes are kept exactly if it holds none of them. In `tabbedCall` there is one, and two of
its classes become a third one.
-/

namespace ClassGroups.Jsx

/-! ### The strings of an expression -/

/-- Where a reader of an expression stands. -/
inductive StringReader where
  /-- In the program. -/
  | code
  /-- In a comment. -/
  | comment
  /-- In a string that was opened by a quote, after some of its content. -/
  | string (mark : Char) (content : Text)
deriving DecidableEq, Repr

/-- The contents of the strings that a reader comes across. In a string, a backslash goes together
with the character after it, and a comment ends with its line. -/
def stringsFrom : StringReader → Text → List Text
  | _, [] => []
  | .code, '/' :: '/' :: s => stringsFrom .comment s
  | .code, c :: s => stringsFrom (if c = '"' ∨ c = '\'' then .string c [] else .code) s
  | .comment, c :: s => stringsFrom (if c = '\n' then .code else .comment) s
  | .string mark content, '\\' :: c :: s => stringsFrom (.string mark (content ++ ['\\', c])) s
  | .string mark content, c :: s =>
    if c = mark then content :: stringsFrom .code s
    else stringsFrom (.string mark (content ++ [c])) s

/-- The contents of the strings of an expression. -/
def strings (s : Text) : List Text := stringsFrom .code s

/-- **The classes that an expression applies**: the words for which its strings stand. -/
def denotedWords (s : Text) : List (List Nat) :=
  (strings s).flatMap fun raw => words (codePoints raw)

/-- A text in which no string and no comment starts. -/
def IsBare (s : Text) : Prop := '"' ∉ s ∧ '\'' ∉ s ∧ '/' ∉ s

instance : DecidablePred IsBare := fun _ => inferInstanceAs (Decidable (_ ∧ _ ∧ _))

section Strings

variable {s t : Text}

theorem isBare_append (hs : IsBare s) (ht : IsBare t) : IsBare (s ++ t) := by
  simp only [IsBare, List.mem_append, not_or]
  exact ⟨⟨hs.1, ht.1⟩, ⟨hs.2.1, ht.2.1⟩, ⟨hs.2.2, ht.2.2⟩⟩

theorem isBare_of_blank (h : Text.Blank s) : IsBare s :=
  ⟨Text.notMem_of_blank h (by decide), Text.notMem_of_blank h (by decide),
    Text.notMem_of_blank h (by decide)⟩

theorem isBare_of_isIdentifier (h : isIdentifier s = true) : IsBare s :=
  ⟨notMem_of_isIdentifier h (by decide), notMem_of_isIdentifier h (by decide),
    notMem_of_isIdentifier h (by decide)⟩

/-- What is bare holds no strings. -/
theorem stringsFrom_bare (hs : IsBare s) (t : Text) :
    stringsFrom .code (s ++ t) = stringsFrom .code t := by
  induction s with
  | nil => rfl
  | cons c s ih =>
    simp only [IsBare, List.mem_cons, not_or] at hs
    obtain ⟨⟨hdouble, hds⟩, ⟨hsingle, hss⟩, hslash, hslashes⟩ := hs
    rw [List.cons_append, stringsFrom.eq_3 _ _ (by grind),
      if_neg (not_or.mpr ⟨Ne.symm hdouble, Ne.symm hsingle⟩)]
    exact ih ⟨hds, hss, hslashes⟩

theorem stringsFrom_comment (hs : '\n' ∉ s) (t : Text) :
    stringsFrom .comment (s ++ '\n' :: t) = stringsFrom .code t := by
  induction s with
  | nil => rfl
  | cons c s ih =>
    obtain ⟨hc, hs⟩ := not_or.mp fun h => hs (List.mem_cons.mpr h)
    rw [List.cons_append, stringsFrom, if_neg (Ne.symm hc)]
    exact ih hs

/-- A string is read up to the quote that closes it. -/
theorem stringsFrom_content {mark : Char} (hmark : IsQuote mark) (hs : IsEscaped mark s)
    (content t : Text) :
    stringsFrom (.string mark content) (s ++ mark :: t)
      = (content ++ s) :: stringsFrom .code t := by
  -- the induction follows the content, as an escape is one step of the reader
  induction hs generalizing content with
  | nil =>
    rw [List.nil_append, stringsFrom.eq_6 _ _ _ _ (by grind [hmark.ne_backslash]), if_pos rfl,
      List.append_nil]
  | @plain c s hne _ hslash _ ih =>
    rw [List.cons_append, stringsFrom.eq_6 _ _ _ _ (by grind), if_neg hne, ih, List.append_assoc]
    rfl
  | @escape c s _ _ ih =>
    rw [List.cons_append, List.cons_append, stringsFrom, ih, List.append_assoc]
    rfl

theorem stringsFrom_string {mark : Char} (hmark : IsQuote mark) (hs : IsEscaped mark s) (t : Text) :
    stringsFrom .code (mark :: (s ++ mark :: t)) = s :: stringsFrom .code t := by
  have hslash : mark ≠ '/' := by rcases hmark with rfl | rfl <;> decide
  have hopen : mark = '"' ∨ mark = '\'' := hmark
  rw [stringsFrom.eq_3 _ _ (by grind), if_pos hopen, stringsFrom_content hmark hs]
  rfl

end Strings

/-! ### The strings of a replacement -/

section Expression

variable (o : Options)

theorem stringsFrom_innerLine (line t : Text) :
    stringsFrom .code (o.innerLine line ++ t) = stringsFrom .code (line ++ t) := by
  have hbare : IsBare ('\n' :: (o.baseIndent ++ o.indent)) := isBare_of_blank
    (Text.blank_cons isBlank_newline (Text.blank_append o.baseIndent_blank o.indent_blank))
  have hsplit : o.innerLine line ++ t = ('\n' :: (o.baseIndent ++ o.indent)) ++ (line ++ t) := by
    simp [Style.innerLine]
  rw [hsplit, stringsFrom_bare hbare]

/-- The lines of one group hold its string. -/
theorem stringsFrom_group {b : Group} (hb : '\n' ∉ b.text) (t : Text) :
    stringsFrom .code ((b.heading o.toStyle).flatMap o.innerLine
      ++ (o.innerLine (quoteClass b.text) ++ t)) = quotedBody b.text :: stringsFrom .code t := by
  have hstring : stringsFrom .code (o.innerLine (quoteClass b.text) ++ t)
      = quotedBody b.text :: stringsFrom .code t := by
    rw [stringsFrom_innerLine, quoteClass_append,
      stringsFrom_string (Or.inl rfl) (isEscaped_quotedBody hb)]
  unfold Group.heading
  split
  · -- the comment ends with the newline in front of the string
    have hline : o.innerLine (quoteClass b.text) ++ t
        = '\n' :: (o.baseIndent ++ o.indent ++ quoteClass b.text ++ t) := rfl
    have hnewline : '\n' ∉ ' ' :: b.category.label := fun h =>
      (List.mem_cons.mp h).elim (by decide) (Listing.label_spec b.category).1
    have hskip (s : Text) : stringsFrom .code ('\n' :: s) = stringsFrom .code s := by
      rw [stringsFrom.eq_3 _ _ (by grind)]
      rfl
    rw [List.flatMap_singleton, stringsFrom_innerLine, ← hstring, hline, hskip]
    exact stringsFrom_comment hnewline _
  · exact hstring

theorem stringsFrom_quotedLines {g : Grouping} (hg : ∀ b ∈ g, '\n' ∉ b.text) (t : Text) :
    stringsFrom .code ((g.quotedLines o.toStyle).flatMap o.innerLine ++ t)
      = g.map (fun b => quotedBody b.text) ++ stringsFrom .code t := by
  match g with
  | [] => rfl
  | [b] =>
    rw [Grouping.quotedLines_singleton, List.flatMap_append, List.flatMap_singleton,
      List.append_assoc, stringsFrom_group o (hg b List.mem_cons_self)]
    rfl
  | b :: d :: rest =>
    -- the comma behind the string of `b` leads to the lines of the other groups
    have ih := stringsFrom_quotedLines
      (fun e (he : e ∈ d :: rest) => hg e (List.mem_cons_of_mem b he)) t
    have hcomma : IsBare ",".toList := by decide
    rw [Grouping.quotedLines_cons_cons, List.flatMap_append, List.flatMap_append,
      List.flatMap_singleton, Listing.innerLine_append, List.append_assoc, List.append_assoc,
      List.append_assoc, stringsFrom_group o (hg b List.mem_cons_self),
      stringsFrom_bare hcomma, ih]
    rfl

/-- **The strings of a replacement** are those of its groups and, for a list, the space that joins
them. -/
theorem strings_expression (hspliceable : o.format.spliceable = true) {g : Grouping} (hne : g ≠ [])
    (hg : ∀ b ∈ g, '\n' ∉ b.text) :
    strings (expression o.format (render o.toStyle g))
      = g.map (fun b => quotedBody b.text) ++ (if o.format = .array then [[' ']] else []) := by
  have hopening : IsBare o.opening := by
    unfold Style.opening
    split
    · decide
    · exact isBare_append (isBare_of_isIdentifier o.callee_identifier) (by decide)
  have hbreak : IsBare o.lastBreak :=
    isBare_of_blank (Text.blank_cons isBlank_newline o.baseIndent_blank)
  have hrender (t : Text) : stringsFrom .code (render o.toStyle g ++ t)
      = g.map (fun b => quotedBody b.text) ++ stringsFrom .code (o.closing ++ t) := by
    rw [render_of_spliceable hspliceable, block_of_ne_nil _ _ _ (Grouping.quotedLines_ne_nil hne),
      List.append_assoc, List.append_assoc, List.append_assoc, stringsFrom_bare hopening,
      stringsFrom_quotedLines o hg, stringsFrom_bare hbreak]
  unfold expression strings
  by_cases hformat : o.format = .array
  · -- what joins the list holds a string of its own
    rw [if_pos hformat, if_pos hformat, hrender, Style.closing, if_pos hformat]
    rfl
  · have hend := hrender []
    rw [Style.closing, if_neg hformat, List.append_nil] at hend
    rw [if_neg hformat, if_neg hformat, hend]
    rfl

/-- **A replacement applies the classes that were read**, whatever characters they hold. -/
theorem denotedWords_expression_perm {s : Text} (hspliceable : o.format.spliceable = true)
    (hne : group s ≠ []) :
    (denotedWords (expression o.format (render o.toStyle (group s)))).Perm
      (words (s.map Char.toNat)) := by
  have hgroup : ∀ b ∈ group s, words (codePoints (quotedBody b.text))
      = b.tokens.map (·.map Char.toNat) := by
    intro b hb
    rw [codePoints_quotedBody, words_map_toNat, tokenize_text_of_mem_group hb]
  have hspace : (if o.format = .array then [[' ']] else []).flatMap
      (fun raw : Text => words (codePoints raw)) = [] := by
    split <;> rfl
  have hwords : denotedWords (expression o.format (render o.toStyle (group s)))
      = (group s).flatten.map (·.map Char.toNat) := by
    rw [denotedWords, strings_expression o hspliceable hne fun b hb => newline_notMem_text hb,
      List.flatMap_append, hspace, List.append_nil, List.flatMap_map, Grouping.flatten,
      List.map_flatMap]
    exact List.flatMap_congr hgroup
  rw [hwords, words_map_toNat]
  exact (isPartition_groupTokens (tokenize s)).conserved.map _

end Expression

/-! ### What a fix does to the classes of a call -/

section Fix

variable {o : Options} {attributes : List Text} {source : Text} {f : Finding}

/-- The only string of a call of the helper is its argument. -/
theorem strings_call {callee w w' raw : Text} {mark : Char} (hcallee : isIdentifier callee = true)
    (hw : Text.Blank w) (hmark : IsQuote mark) (hraw : IsEscaped mark raw) (hw' : Text.Blank w') :
    strings (callee ++ '(' :: (w ++ mark :: (raw ++ mark :: (w' ++ [')'])))) = [raw] := by
  have hbracket : IsBare ['('] := by decide
  have hopening : IsBare (callee ++ '(' :: w) :=
    isBare_append (isBare_of_isIdentifier hcallee) (isBare_append hbracket (isBare_of_blank hw))
  have hclosing : IsBare (w' ++ [')']) := isBare_append (isBare_of_blank hw') (by decide)
  have hend := stringsFrom_bare hclosing []
  rw [List.append_nil] at hend
  rw [strings, ← List.cons_append, ← List.append_assoc, stringsFrom_bare hopening,
    stringsFrom_string hmark hraw, hend]
  rfl

/-- **What is replaced** is a call with one string, whose content was read as the class list. -/
theorem exists_string_of_mem_findings (hf : f ∈ findings o attributes source)
    (hkind : f.kind = .helperCall) :
    ∃ mark raw, IsEscaped mark raw ∧ strings (part source f.start f.stop) = [raw] ∧
      gate o.minTokens (unescape raw) = none ∧
      f.replacement = expression o.format
        (render (placed o source f.start).toStyle (group (unescape raw))) := by
  obtain ⟨l, hl, rfl⟩ := List.mem_map.mp hf
  obtain ⟨hliteral, hgate⟩ := List.mem_filter.mp hl
  obtain ⟨⟨kind, place, found⟩, hc, rfl⟩ := mem_literals_iff_reported.mp hliteral
  obtain rfl : kind = .helperCall := hkind
  obtain ⟨m, hm, rfl⟩ : ∃ m : Match (namesTried attributes) o.callee .helperCall,
      StandsAt source place m.text ∧ m.occurrence = found :=
    exists_match_of_mem_scanned o.callee_identifier (mem_reported_iff.mp hc).1 rfl
  obtain ⟨w₁, w₂, mark, raw, w₃, w₄, -, hw₂, hmark, hraw, hw₃, -, -, hreplaced, -, hvalue⟩ :=
    m.exists_call_pieces
  refine ⟨mark, raw, hraw, ?_, hvalue ▸ of_decide_eq_true hgate, hvalue ▸ rfl⟩
  have hpart := part_eq_replaced m hm
  rw [hreplaced] at hpart
  exact (congrArg strings hpart).trans (strings_call o.callee_identifier hw₂ hmark hraw hw₃)

/-- **A fix keeps the classes of a call** exactly if its string names no character by a letter or by
its code. -/
theorem denotedWords_replacement_perm_iff {fs : List Finding}
    (hlint : lint o attributes source = .ok fs) (hf : f ∈ fs) (hkind : f.kind = .helperCall) :
    ∃ raw, strings (part source f.start f.stop) = [raw] ∧
      ((denotedWords f.replacement).Perm (denotedWords (part source f.start f.stop))
        ↔ hasCodeEscape raw = false) := by
  have hspliceable := spliceable_of_lint hlint
  obtain rfl := Except.ok.inj ((lint_eq hspliceable).symm.trans hlint)
  obtain ⟨mark, raw, hraw, hstrings, hgate, hreplacement⟩ :=
    exists_string_of_mem_findings hf hkind
  have hne : group (unescape raw) ≠ [] := fun he =>
    absurd (he ▸ two_le_length_of_gate_eq_none hgate) (by decide)
  have hperm := denotedWords_expression_perm (placed o source f.start) hspliceable hne
  have hdenoted : denotedWords (part source f.start f.stop) = words (codePoints raw) := by
    rw [denotedWords, hstrings, List.flatMap_singleton]
  refine ⟨raw, hstrings, ?_⟩
  -- both sides compare the two readings of `raw`, since the replacement applies what was read
  rw [hdenoted, ← words_perm_iff hraw, hreplacement]
  constructor
  · exact fun h => h.symm.trans hperm
  · exact fun h => hperm.trans h.symm

/-- A source with a call whose string separates two of its classes by an escaped tab. -/
def tabbedCall : Text := "<a className=\x7bclsx(\"mt-4 flex\\tp-2 text-sm bg-white\")\x7d />"

/-- What is found in it. -/
def tabbedFinding : Finding :=
  findingFor default tabbedCall ⟨.helperCall, 14, 53, "mt-4 flextp-2 text-sm bg-white"⟩

theorem lint_tabbedCall : lint {} defaultAttributes tabbedCall = .ok [tabbedFinding] := by
  have hreported : (reported (namesTried defaultAttributes) ({} : Options).callee tabbedCall).map
      (·.literal) = [⟨.helperCall, 14, 53, "mt-4 flextp-2 text-sm bg-white"⟩] := by decide +kernel
  have hliterals : literals defaultAttributes ({} : Options).callee tabbedCall = _ :=
    literals_eq_of_pairwise (by rw [hreported]; exact List.pairwise_singleton _ _)
  have hgate : gate ({} : Options).minTokens "mt-4 flextp-2 text-sm bg-white" = none := by
    decide +kernel
  rw [lint_eq rfl, findings, hliterals, hreported, List.filter_singleton, hgate]
  rfl

/-- A fix makes one class of the two that the tab separates. -/
theorem not_denotedWords_perm_tabbedCall :
    lint {} defaultAttributes tabbedCall = .ok [tabbedFinding] ∧
    tabbedFinding.kind = .helperCall ∧
    (∀ name ∈ ["flex", "p-2"], name.toList.map Char.toNat
      ∈ denotedWords (part tabbedCall tabbedFinding.start tabbedFinding.stop)) ∧
    "flextp-2".toList.map Char.toNat ∈ denotedWords tabbedFinding.replacement ∧
    ¬(denotedWords tabbedFinding.replacement).Perm
      (denotedWords (part tabbedCall tabbedFinding.start tabbedFinding.stop)) := by
  have hone : "flextp-2".toList.map Char.toNat ∈ denotedWords tabbedFinding.replacement := by
    decide +kernel
  refine ⟨lint_tabbedCall, rfl, by decide +kernel, hone, fun hperm => ?_⟩
  exact absurd (hperm.mem_iff.mp hone) (by decide +kernel)

theorem denotedWords_replacement_perm_tabbedCall :
    lint {} defaultAttributes tabbedCall = .ok [tabbedFinding] ∧
    tabbedFinding ∈ [tabbedFinding] ∧ tabbedFinding.kind = .helperCall ∧
    ∃ raw, strings (part tabbedCall tabbedFinding.start tabbedFinding.stop) = [raw] ∧
      ((denotedWords tabbedFinding.replacement).Perm
          (denotedWords (part tabbedCall tabbedFinding.start tabbedFinding.stop))
        ↔ hasCodeEscape raw = false) :=
  ⟨lint_tabbedCall, List.mem_singleton_self _, rfl,
    denotedWords_replacement_perm_iff lint_tabbedCall (List.mem_singleton_self _) rfl⟩

end Fix

end ClassGroups.Jsx
