import ClassGroups.Proofs.Jsx.Replacement
import ClassGroups.Proofs.Jsx.Reported

/-!
# What is quoted is read back

The strings of a rendered expression are written by `quoteClass` and read by `escapedString?` and
`unescape`. The writer looks at one character at a time; the reader has to find the quote that ends
the string, among quotes and backslashes in it and behind it.

A reading is a list of pieces, each of which is a plain character or a backslash with the character
after it (`ReadsString`). No piece starts another one (`IsPiece.eq_of_append_eq`), so a text has one
reading at most, whatever stands behind the string. The writer writes one piece for each character,
whence `quote_read_back`: what is quoted is read in one way, as what it was, also where the string
is the argument of a call in a source.
-/

namespace ClassGroups.Jsx

/-! ### Pieces of a string -/

/-- **A piece of a string**: a character that stands for itself, or a backslash with the character
that it takes along. -/
inductive IsPiece (mark : Char) : Text → Prop
  | plain {c : Char} : c ≠ mark → c ≠ '\n' → c ≠ '\\' → IsPiece mark [c]
  | escape {c : Char} : c ≠ '\n' → IsPiece mark ['\\', c]

/-- **A way to read a string** at the start of a text: pieces between quotes, and what follows. -/
structure ReadsString (mark : Char) (pieces : List Text) (rest s : Text) : Prop where
  /-- Between the quotes stand nothing but pieces. -/
  isPiece : ∀ p ∈ pieces, IsPiece mark p
  /-- The text starts with the quotes and the pieces. -/
  text_eq : s = mark :: (pieces.flatten ++ mark :: rest)

section Pieces

variable {mark : Char} {p p' raw rest rest' s t t' : Text} {pieces pieces' : List Text}

/-- **No piece starts another one**: the first character tells whether there is a second one. -/
theorem IsPiece.eq_of_append_eq (h : IsPiece mark p) (h' : IsPiece mark p')
    (heq : p ++ t = p' ++ t') : p = p' ∧ t = t' := by
  cases h with
  | plain _ _ hslash =>
    cases h' with
    | plain _ _ _ =>
      obtain ⟨rfl, rfl⟩ := List.cons.inj heq
      exact ⟨rfl, rfl⟩
    | escape _ => exact absurd (List.cons.inj heq).1 hslash
  | escape _ =>
    cases h' with
    | plain _ _ hslash => exact absurd (List.cons.inj heq).1.symm hslash
    | escape _ =>
      obtain ⟨rfl, rfl⟩ := List.cons.inj (List.cons.inj heq).2
      exact ⟨rfl, rfl⟩

/-- A piece does not start with the quote. -/
theorem IsPiece.append_ne (hm : IsQuote mark) (h : IsPiece mark p) : p ++ t ≠ mark :: t' := by
  intro heq
  cases h with
  | plain hmark _ _ => exact hmark (List.cons.inj heq).1
  | escape _ => exact hm.ne_backslash (List.cons.inj heq).1.symm

/-- Pieces up to a quote are determined by the text. -/
theorem eq_of_flatten_append_eq (hm : IsQuote mark) (h : ∀ p ∈ pieces, IsPiece mark p)
    (h' : ∀ p ∈ pieces', IsPiece mark p)
    (heq : pieces.flatten ++ mark :: rest = pieces'.flatten ++ mark :: rest') :
    pieces = pieces' ∧ rest = rest' := by
  -- along the first list: in each step both go on with the same piece, or both end at the quote
  induction pieces generalizing pieces' with
  | nil =>
    cases pieces' with
    | nil => exact ⟨rfl, (List.cons.inj heq).2⟩
    | cons p' pieces' =>
      rw [List.flatten_cons, List.append_assoc] at heq
      exact absurd heq.symm ((h' p' List.mem_cons_self).append_ne hm)
  | cons p pieces ih =>
    cases pieces' with
    | nil =>
      rw [List.flatten_cons, List.append_assoc] at heq
      exact absurd heq ((h p List.mem_cons_self).append_ne hm)
    | cons p' pieces' =>
      rw [List.flatten_cons, List.flatten_cons, List.append_assoc, List.append_assoc] at heq
      obtain ⟨rfl, htail⟩ :=
        (h p List.mem_cons_self).eq_of_append_eq (h' p' List.mem_cons_self) heq
      obtain ⟨rfl, hrest⟩ := ih (fun q hq => h q (List.mem_cons_of_mem _ hq))
        (fun q hq => h' q (List.mem_cons_of_mem _ hq)) htail
      exact ⟨rfl, hrest⟩

/-- **A text is read in one way at most.** -/
theorem ReadsString.unique (hm : IsQuote mark) (h : ReadsString mark pieces rest s)
    (h' : ReadsString mark pieces' rest' s) : pieces = pieces' ∧ rest = rest' :=
  eq_of_flatten_append_eq hm h.isPiece h'.isPiece
    (List.cons.inj (h.text_eq.symm.trans h'.text_eq)).2

/-- The content of a string is a sequence of pieces. -/
theorem isEscaped_iff_exists_pieces :
    IsEscaped mark raw ↔ ∃ pieces : List Text, (∀ p ∈ pieces, IsPiece mark p) ∧
      pieces.flatten = raw := by
  constructor
  · intro h
    induction h with
    | nil => exact ⟨[], by simp, rfl⟩
    | @plain c s hmark hnewline hslash _ ih =>
      obtain ⟨pieces, hpieces, rfl⟩ := ih
      exact ⟨[c] :: pieces, List.forall_mem_cons.mpr ⟨.plain hmark hnewline hslash, hpieces⟩, rfl⟩
    | @escape c s hnewline _ ih =>
      obtain ⟨pieces, hpieces, rfl⟩ := ih
      exact ⟨['\\', c] :: pieces, List.forall_mem_cons.mpr ⟨.escape hnewline, hpieces⟩, rfl⟩
  · rintro ⟨pieces, hpieces, rfl⟩
    induction pieces with
    | nil => exact .nil
    | cons p pieces ih =>
      obtain ⟨hp, hrest⟩ := List.forall_mem_cons.mp hpieces
      cases hp with
      | plain hmark hnewline hslash => exact .plain hmark hnewline hslash (ih hrest)
      | escape hnewline => exact .escape hnewline (ih hrest)

/-- **The scanner for strings finds the reading** of a text, if it has one. -/
theorem escapedString?_eq_some_iff_reads :
    escapedString? s = some (raw, rest)
      ↔ ∃ mark pieces, IsQuote mark ∧ ReadsString mark pieces rest s ∧ pieces.flatten = raw := by
  rw [escapedString?_eq_some_iff]
  constructor
  · rintro ⟨mark, hm, hraw, rfl⟩
    obtain ⟨pieces, hpieces, rfl⟩ := isEscaped_iff_exists_pieces.mp hraw
    exact ⟨mark, pieces, hm, ⟨hpieces, rfl⟩, rfl⟩
  · rintro ⟨mark, pieces, hm, hreads, rfl⟩
    exact ⟨mark, hm, isEscaped_iff_exists_pieces.mpr ⟨pieces, hreads.isPiece, rfl⟩, hreads.text_eq⟩

end Pieces

/-! ### Written and read -/

section Written

variable {mark : Char} {s raw : Text}

/-- **What is quoted denotes what it was.** -/
theorem unescape_quotedBody (s : Text) : unescape (quotedBody s) = s := by
  induction s with
  | nil => rfl
  | cons c s ih =>
    rw [quotedBody_cons]
    split
    · next hescaped =>
      have hnewline : c ≠ '\n' := by
        rintro rfl
        exact absurd hescaped (by decide)
      calc unescape ('\\' :: c :: quotedBody s) = c :: unescape (quotedBody s) :=
            unescape_escape hnewline _
        _ = c :: s := by rw [ih]
    · next hplain =>
      have hslash : c ≠ '\\' := fun he => hplain (Or.inl he)
      calc unescape (c :: quotedBody s) = c :: unescape (quotedBody s) := unescape_cons hslash _
        _ = c :: s := by rw [ih]

theorem escapedString?_quoteClass (hs : '\n' ∉ s) (u : Text) :
    escapedString? (quoteClass s ++ u) = some (quotedBody s, u) :=
  escapedString?_eq_some_iff.mpr ⟨'"', Or.inl rfl, isEscaped_quotedBody hs, quoteClass_append s u⟩

/-- **A quoted text is read in one way**, whatever follows it. -/
theorem exists_reads_quoteClass (hs : '\n' ∉ s) (u : Text) :
    ∃ pieces : List Text, pieces.flatten = quotedBody s ∧
      ∀ pieces' u', ReadsString '"' pieces' u' (quoteClass s ++ u) ↔ pieces' = pieces ∧ u' = u := by
  obtain ⟨pieces, hpieces, hflatten⟩ := isEscaped_iff_exists_pieces.mp (isEscaped_quotedBody hs)
  have hquote : IsQuote '"' := Or.inl rfl
  have hreads : ReadsString '"' pieces u (quoteClass s ++ u) :=
    ⟨hpieces, by rw [hflatten, quoteClass_append]⟩
  refine ⟨pieces, hflatten, fun pieces' u' => ⟨fun h => h.unique hquote hreads, ?_⟩⟩
  rintro ⟨rfl, rfl⟩
  exact hreads

/-- A string holds no newline, and no escape stands for one. -/
theorem IsEscaped.newline_notMem_unescape (h : IsEscaped mark raw) : '\n' ∉ unescape raw := by
  induction h with
  | nil => exact List.not_mem_nil
  | plain _ hnewline hslash _ ih =>
    rw [unescape_cons hslash]
    exact List.not_mem_cons_of_ne_of_not_mem hnewline.symm ih
  | escape hnewline _ ih =>
    rw [unescape_escape hnewline]
    exact List.not_mem_cons_of_ne_of_not_mem hnewline.symm ih

end Written

/-! ### The only call of a source -/

section OnlyCall

variable {names : List Text} {callee source : Text} {c : Candidate}

/-- **A scan finds nothing else** than a candidate if no name of its shape stands before its own
name or behind its end. -/
theorem scannedOf_eq_of_mem_candidates (hc : isIdentifier callee = true)
    (hmem : c ∈ candidates names callee source)
    (hfirst : ∀ d ∈ candidates names callee source, c.place ≤ d.place)
    (hlast : ∀ d ∈ candidates names callee source, d.kind = c.kind → d.place < c.stop) :
    scannedOf names callee c.kind source = [c] := by
  have hscanned : c ∈ scanned names callee source := by
    refine (mem_or_overlapped_of_mem_candidates hc hmem).resolve_right ?_
    rintro ⟨d, hd, -, hlt, -⟩
    exact Nat.not_lt_of_le (hfirst d (mem_candidates_of_mem_scanned hc hd)) hlt
  have hall : ∀ d, d ∈ scannedOf names callee c.kind source ↔ d ∈ [c] := by
    intro d
    rw [List.mem_singleton]
    constructor
    · intro hd
      have hkind : d.kind = c.kind := kind_eq_of_mem_scannedOf hd
      have hdscanned := mem_scanned_of_mem_scannedOf hd
      have hdmem := mem_candidates_of_mem_scanned hc hdscanned
      have hplaces := place_lt_start_of_mem_scanned hc hdscanned
      -- one scan is free of overlaps, and neither side of the candidate has room for another one
      rcases eq_or_stop_le_of_kind_eq hdscanned hscanned hkind with heq | hbefore | hbehind
      · exact heq
      · have hle := hfirst d hdmem
        omega
      · have hlt := hlast d hdmem hkind
        omega
    · rintro rfl
      exact mem_scannedOf_of_mem_scanned hscanned
  exact List.perm_singleton.mp
    ((List.perm_ext_iff_of_nodup nodup_scannedOf (List.nodup_singleton c)).mpr hall)

/-- **A match behind the first white space** of a source is all that its scan finds, unless the
scanner accepts something behind it. -/
theorem scannedOf_match (hn : ∀ name ∈ names, IsName name) (hc : isIdentifier callee = true)
    {kind : LiteralKind} (m : Match names callee kind) {front back : Text} {blank : Char}
    (hfront : ∀ e ∈ front, isBlank e = false) (hblank : isBlank blank = true)
    (hback : ∀ p rest, IsStart back p rest → shape names callee kind rest = none) :
    scannedOf names callee kind (front ++ blank :: (m.text ++ back))
      = [⟨kind, front.length + 1, m.occurrence⟩] := by
  have hmem : ⟨kind, front.length + 1, m.occurrence⟩
      ∈ candidates names callee (front ++ blank :: (m.text ++ back)) := by
    refine (mem_candidates_iff hc).mpr ⟨m.text ++ back, ⟨front, blank, hblank, rfl, rfl⟩, ?_⟩
    exact (shape_eq_some_iff hn hc).mpr ⟨m, back, rfl, rfl⟩
  refine scannedOf_eq_of_mem_candidates hc hmem ?_ ?_
  · intro d hd
    obtain ⟨rest, hrest, -⟩ := (mem_candidates_iff hc).mp hd
    rcases isStart_append_iff.mp hrest with ⟨a, ha, -⟩ | ⟨p, hp, hplace⟩
    · obtain ⟨before, e, he, rfl, -⟩ := ha
      exact absurd he (by simp [hfront e (by simp)])
    · have hpos := hp.pos
      show front.length + 1 ≤ d.place
      omega
  · intro d hd hkind
    obtain ⟨rest, hrest, hshape⟩ := (mem_candidates_iff hc).mp hd
    rw [← List.cons_append, ← List.append_assoc] at hrest
    rcases isStart_append_iff.mp hrest with ⟨a, ha, -⟩ | ⟨p, hp, -⟩
    · -- a match does not end in white space, so the name is followed by some part of it
      obtain ⟨initial, e, hbody, he⟩ := m.exists_last
      have hlength := ha.add_length
      rw [Match.text, hbody, ← List.cons_append, ← List.append_assoc, ← List.append_assoc] at ha
      obtain ⟨a', rfl⟩ := ha.exists_append_singleton he
      simp only [List.length_append, List.length_cons, List.length_nil] at hlength
      show d.place < front.length + 1 + m.text.length
      omega
    · exact absurd hshape (by simp [hkind, hback p rest hp])

theorem kind_eq_of_mem_literalsOf {kind : LiteralKind} {scan : Text → Option Occurrence}
    {l : ClassLiteral} (h : l ∈ literalsOf kind scan source) : l.kind = kind := by
  obtain ⟨x, -, rfl⟩ := List.mem_map.mp h
  rfl

/-- The calls among the class lists of a source are what the scan for calls returns. -/
theorem filter_helperCall_literals (attributes : List Text) (callee source : Text) :
    ((literals attributes callee source).filter fun l => l.kind = .helperCall).Perm
      (literalsOf .helperCall (shape (namesTried attributes) callee .helperCall) source) := by
  rw [literals_eq_mergeSort]
  -- sorting aside, the values are dropped and the calls are kept
  refine ((List.mergeSort_perm _ _).filter _).trans (List.Perm.of_eq ?_)
  rw [List.filter_append, List.filter_eq_nil_iff.mpr, List.filter_eq_self.mpr, List.nil_append]
  · intro l hl
    exact decide_eq_true (kind_eq_of_mem_literalsOf hl)
  · intro l hl
    simp [kind_eq_of_mem_literalsOf hl]

end OnlyCall

/-! ### A quoted text in a call -/

/-- A source with a call of the helper whose only argument is a quoted text. -/
def callSource (callee s : Text) : Text :=
  "<a className=\x7b" ++ callee ++ "(" ++ quoteClass s ++ ")\x7d />"

section CallSource

variable {callee s : Text}

theorem callSource_eq (callee s : Text) :
    callSource callee s
      = "<a ".toList ++ ("className=".toList ++ '{' :: (callee ++ '(' ::
          ('"' :: (quotedBody s ++ '"' :: ')' :: '}' :: " />".toList)))) := by
  have hfront : "<a className=\x7b".toList = "<a ".toList ++ ("className=".toList ++ ['{']) := by
    decide
  have hback : ")\x7d />".toList = ')' :: '}' :: " />".toList := by decide
  unfold callSource
  rw [List.append_assoc, List.append_assoc, List.append_assoc, quoteClass_append, hback, hfront]
  simp only [List.append_assoc, List.cons_append, List.nil_append]
  rfl

/-- The call in the source, piece by piece. -/
theorem exists_match_callSource (callee : Text) (hs : '\n' ∉ s) :
    ∃ m : Match defaultAttributes callee .helperCall,
      callSource callee s = "<a ".toList ++ (m.text ++ " />".toList) ∧
      m.occurrence = ⟨11, 11 + (callee ++ '(' :: (quoteClass s ++ [')'])).length,
        m.text.length, s⟩ := by
  have hreads : Reads callee .helperCall ['{']
      (callee ++ '(' :: ('"' :: (quotedBody s ++ ['"', ')']))) ['}'] s := by
    have hquote : IsQuote '"' := Or.inl rfl
    have hcall : Reads callee .helperCall ['{']
        (callee ++ '(' :: ('"' :: (quotedBody s ++ ['"', ')']))) ['}']
        (unescape (quotedBody s)) :=
      .call Text.blank_nil Text.blank_nil hquote (isEscaped_quotedBody hs) Text.blank_nil
        Text.blank_nil
    rwa [unescape_quotedBody] at hcall
  refine ⟨⟨"className", "className=", _, _, _, s, by decide, ⟨[], [], rfl, rfl, by decide⟩, hreads⟩,
    ?_, ?_⟩
  · rw [callSource_eq]
    simp only [Match.text, Match.body, List.append_assoc, List.cons_append, List.nil_append]
  · simp only [Match.occurrence, quoteClass_append, Occurrence.mk.injEq, and_true]
    exact ⟨rfl, rfl⟩

theorem inTag_of_name_a (t : Text) : inTag ('<' :: 'a' :: ' ' :: t) 3 = true := by
  have hname : isTagNameChar ' ' = false := by decide +kernel
  have hopens : opensTag ('<' :: 'a' :: ' ' :: t) = true := by
    rw [opensTag, List.dropWhile_cons_of_neg (by simp [hname])]
    rfl
  have hstart : tagStart ('<' :: 'a' :: ' ' :: t) 3 = some 0 := by
    simp [tagStart, tagStartFrom, hopens]
  rw [inTag, hstart]
  rfl

/-- **The source has one call**, and its class list is what was quoted. -/
theorem filter_literals_callSource (hc : isIdentifier callee = true) (hs : '\n' ∉ s) :
    (literals defaultAttributes callee (callSource callee s)).filter (fun l => l.kind = .helperCall)
      = [⟨.helperCall, 14, 14 + (callee ++ '(' :: (quoteClass s ++ [')'])).length, s⟩] := by
  obtain ⟨m, hsource, hm⟩ := exists_match_callSource callee hs
  have hnames : ∀ name ∈ defaultAttributes, IsName name := by decide +kernel
  have hback : ∀ p rest, IsStart " />".toList p rest →
      shape defaultAttributes callee .helperCall rest = none := by
    intro p rest hrest
    -- a call has a brace
    refine Option.eq_none_iff_forall_ne_some.mpr fun o ho => ?_
    obtain ⟨m', rest', rfl, -⟩ := exists_match_of_shape_eq_some hc ho
    obtain ⟨w₁, w₂, q, raw, w₃, w₄, -, -, -, -, -, -, hbefore, -⟩ := m'.exists_call_pieces
    have hbrace : '{' ∈ " />".toList := hrest.mem (by simp [Match.text, Match.body, hbefore])
    exact absurd hbrace (by decide)
  have hfront : ∀ e ∈ ['<', 'a'], isBlank e = false := by simp; decide
  have hscanned : scannedOf defaultAttributes callee .helperCall (callSource callee s)
      = [⟨.helperCall, 3, m.occurrence⟩] := by
    rw [hsource]
    exact scannedOf_match hnames hc m hfront isBlank_space hback
  have htried : namesTried defaultAttributes = defaultAttributes := rfl
  have htag : inTag (callSource callee s) 3 = true := hsource ▸ inTag_of_name_a _
  have hperm := filter_helperCall_literals defaultAttributes callee (callSource callee s)
  rw [literalsOf_eq_map_scannedOf, htried, hscanned, List.filter_cons, if_pos htag, hm] at hperm
  rw [List.perm_singleton.mp hperm]
  simp only [Candidate.literal, ← Nat.add_assoc]

end CallSource

/-! ### The round trip -/

/-- **What is quoted is read back.** A quoted text without newlines is read in one way, which ends
at its last quote whatever follows, and denotes the text; as the only argument in a source it leads
to one call with the text. And what any string denotes has no newlines, so it is read back too. -/
theorem quote_read_back :
    (∀ s : Text, '\n' ∉ s →
      (∀ u, ∃ pieces,
        (∀ pieces' u', ReadsString '"' pieces' u' (quoteClass s ++ u)
          ↔ pieces' = pieces ∧ u' = u) ∧
        escapedString? (quoteClass s ++ u) = some (pieces.flatten, u) ∧
        unescape pieces.flatten = s) ∧
      ∀ callee, isIdentifier callee = true →
        (literals defaultAttributes callee (callSource callee s)).filter
            (fun l => l.kind = .helperCall)
          = [⟨.helperCall, 14, 14 + (callee ++ '(' :: (quoteClass s ++ [')'])).length, s⟩]) ∧
    ∀ mark pieces rest text, IsQuote mark → ReadsString mark pieces rest text →
      escapedString? text = some (pieces.flatten, rest) ∧
      '\n' ∉ unescape pieces.flatten ∧
      ∀ u, ∃ raw, escapedString? (quoteClass (unescape pieces.flatten) ++ u) = some (raw, u) ∧
        unescape raw = unescape pieces.flatten := by
  refine ⟨?_, ?_⟩
  · intro s hs
    refine ⟨?_, fun callee hc => filter_literals_callSource hc hs⟩
    intro u
    obtain ⟨pieces, hflatten, hunique⟩ := exists_reads_quoteClass hs u
    refine ⟨pieces, hunique, ?_, ?_⟩
    · rw [hflatten, escapedString?_quoteClass hs]
    · rw [hflatten, unescape_quotedBody]
  · intro mark pieces rest text hm hreads
    -- whatever the pieces are, they denote a text that can be quoted
    have hnewline : '\n' ∉ unescape pieces.flatten :=
      (isEscaped_iff_exists_pieces.mpr ⟨pieces, hreads.isPiece, rfl⟩).newline_notMem_unescape
    refine ⟨escapedString?_eq_some_iff_reads.mpr ⟨mark, pieces, hm, hreads, rfl⟩, hnewline, ?_⟩
    intro u
    exact ⟨_, escapedString?_quoteClass hnewline u, unescape_quotedBody _⟩

/-- A text that ends in a backslash behind a quote, before more quotes, and a string in single
quotes. -/
theorem quote_read_back_backslash :
    ('\n' ∉ "p\"\\".toList ∧ ∃ pieces,
      (∀ pieces' u', ReadsString '"' pieces' u' (quoteClass "p\"\\" ++ "\\\"".toList)
        ↔ pieces' = pieces ∧ u' = "\\\"".toList) ∧
      escapedString? (quoteClass "p\"\\" ++ "\\\"".toList)
        = some (pieces.flatten, "\\\"".toList) ∧
      unescape pieces.flatten = "p\"\\") ∧
    (isIdentifier "clsx" = true ∧
      (literals defaultAttributes "clsx" (callSource "clsx" "p\"\\")).filter
          (fun l => l.kind = .helperCall)
        = [⟨.helperCall, 14, 27, "p\"\\"⟩]) ∧
    IsQuote '\'' ∧ ReadsString '\'' [['p'], ['\\', '\''], ['"']] ['x'] "'p\\'\"'x" ∧
      '\n' ∉ unescape [['p'], ['\\', '\''], ['"']].flatten := by
  have hs : '\n' ∉ "p\"\\".toList := by decide
  have hc : isIdentifier "clsx" = true := by decide +kernel
  have hm : IsQuote '\'' := Or.inr rfl
  have hpieces : ∀ p ∈ [['p'], ['\\', '\''], ['"']], IsPiece '\'' p := by
    have hletter : IsPiece '\'' ['p'] := .plain (by decide) (by decide) (by decide)
    have hescape : IsPiece '\'' ['\\', '\''] := .escape (by decide)
    have hother : IsPiece '\'' ['"'] := .plain (by decide) (by decide) (by decide)
    simp [hletter, hescape, hother]
  have hreads : ReadsString '\'' [['p'], ['\\', '\''], ['"']] ['x'] "'p\\'\"'x" := ⟨hpieces, rfl⟩
  obtain ⟨hwrite, hread⟩ := quote_read_back
  exact ⟨⟨hs, (hwrite _ hs).1 _⟩, ⟨hc, (hwrite _ hs).2 _ hc⟩, hm, hreads,
    (hread _ _ _ _ hm hreads).2.1⟩

end ClassGroups.Jsx
