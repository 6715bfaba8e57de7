import ClassGroups.Proofs.Jsx.Overlap
import ClassGroups.Proofs.Jsx.Splicing

/-!
# What a reported class list stands in

`literals` returns places and a value. Read back in the source, they lead to what they were found
in (`StandsIn`): white space, one of the names with an equals sign, in a tag, and then a string with
the value as its content, or a call of the helper whose only argument denotes the value. The main
statement, `literals_stand_in_source`, says this for all sources and names, and that the class lists
come in the order of the source, each with a start of its own.

The other direction is `mem_or_overlapped_of_mem_candidates`: what a scanner accepts in a tag is
reported, unless something of the same shape that starts before it overlaps it.
-/

namespace ClassGroups.Jsx

/-! ### Read back in the source -/

/-- **The content of a string and what it denotes**: a backslash goes away and the character after
it stays. The quote stands in it only behind a backslash, and a newline not at all. -/
inductive Decodes (mark : Char) : (raw value : Text) → Prop
  | nil : Decodes mark [] []
  | plain {c : Char} {raw value : Text} : c ≠ mark → c ≠ '\n' → c ≠ '\\' → Decodes mark raw value →
      Decodes mark (c :: raw) (c :: value)
  | escape {c : Char} {raw value : Text} : c ≠ '\n' → Decodes mark raw value →
      Decodes mark ('\\' :: c :: raw) (c :: value)

/-- **An attribute introduces** what starts at a place: before the place stand white space, the name
with its equals sign, and an opening. The name is in a tag. -/
def IntroducedBy (source name opening : Text) (start : Nat) : Prop :=
  ∃ front blank head, isBlank blank = true ∧ IsAssignment name head ∧
    source.take start = front ++ blank :: (head ++ opening) ∧ inTag source (front.length + 1) = true

/-- **A class list stands in a source**, after one of the names. -/
inductive StandsIn (names : List Text) (callee source : Text) : ClassLiteral → Prop
  /-- The value of an attribute is a string without its quote in it. -/
  | value {name value : Text} {q : Char} {start stop : Nat} (hname : name ∈ names)
      (hintroduced : IntroducedBy source name [] start) (hquote : IsQuote q) (hvalue : q ∉ value)
      (hpart : part source start stop = q :: (value ++ [q])) :
      StandsIn names callee source ⟨.attributeValue, start, stop, value⟩
  /-- A call has a string as its only argument, and a brace closes behind it. -/
  | call {name raw value w₁ w₂ w₃ w₄ rest : Text} {q : Char} {start stop : Nat}
      (hname : name ∈ names) (hintroduced : IntroducedBy source name ('{' :: w₁) start)
      (hquote : IsQuote q) (hvalue : Decodes q raw value)
      (hpart : part source start stop
        = callee ++ '(' :: (w₂ ++ q :: (raw ++ q :: (w₃ ++ [')']))))
      (hclosed : source.drop stop = w₄ ++ '}' :: rest)
      (hblank : Text.Blank w₁ ∧ Text.Blank w₂ ∧ Text.Blank w₃ ∧ Text.Blank w₄) :
      StandsIn names callee source ⟨.helperCall, start, stop, value⟩

/-- The value of a call is what its string denotes. -/
theorem decodes_unescape {mark : Char} {raw : Text} (h : IsEscaped mark raw) :
    Decodes mark raw (unescape raw) := by
  induction h with
  | nil => exact .nil
  | plain hmark hnewline hslash _ ih =>
    rw [unescape_cons hslash]
    exact .plain hmark hnewline hslash ih
  | escape hnewline _ ih =>
    rw [unescape_escape hnewline]
    exact .escape hnewline ih

/-! ### Every reported class list -/

section Reported

variable {names attributes : List Text} {callee source : Text} {kind : LiteralKind}
  {c d : Candidate} (hc : isIdentifier callee = true)

include hc

/-- The source around what a scan has found, piece by piece. -/
theorem exists_pieces_of_mem_scanned (h : c ∈ scanned names callee source) (hkind : c.kind = kind) :
    ∃ (m : Match names callee kind) (front : Text) (blank : Char) (rest : Text),
      isBlank blank = true ∧ m.occurrence = c.found ∧ c.place = front.length + 1 ∧
      source.drop c.place = m.text ++ rest ∧ source = front ++ blank :: (m.text ++ rest) := by
  obtain ⟨text, hstart, -⟩ := (mem_candidates_iff hc).mp (mem_candidates_of_mem_scanned hc h)
  obtain ⟨m, ⟨rest, hrest⟩, hfound⟩ := exists_match_of_mem_scanned hc h hkind
  have htext : text = m.text ++ rest := hstart.eq_drop.trans hrest.symm
  -- a name is looked for only after white space
  obtain ⟨front, blank, hblank, hsource, hplace⟩ := hstart
  exact ⟨m, front, blank, rest, hblank, hfound, hplace, hrest.symm, htext ▸ hsource⟩

/-- **What is reported** stands in the source with all that the scanner looked at. -/
theorem standsIn_of_mem_reported (h : c ∈ reported names callee source) :
    StandsIn names callee source c.literal := by
  obtain ⟨hscanned, htag⟩ := mem_reported_iff.mp h
  obtain ⟨kind, place, found⟩ := c
  obtain ⟨m, front, blank, rest, hblank, rfl, rfl, hdrop, hsource⟩ :
      ∃ (m : Match names callee kind) (front : Text) (blank : Char) (rest : Text),
        isBlank blank = true ∧ m.occurrence = found ∧ place = front.length + 1 ∧
        source.drop place = m.text ++ rest ∧ source = front ++ blank :: (m.text ++ rest) :=
    exists_pieces_of_mem_scanned hc hscanned rfl
  have hpart := part_eq_replaced m ⟨rest, hdrop.symm⟩
  -- the source is cut where the part to be replaced starts and where it ends
  have hintroduced :
      IntroducedBy source m.name m.before (front.length + 1 + m.occurrence.start) := by
    refine ⟨front, blank, m.head, hblank, m.assignment, ?_, htag⟩
    have hcut : source
        = (front ++ blank :: (m.head ++ m.before)) ++ (m.replaced ++ (m.after ++ rest)) := by
      rw [hsource]
      simp only [Match.text, Match.body, List.append_assoc, List.cons_append]
    rw [hcut]
    apply List.take_left'
    simp only [Match.occurrence, List.length_append, List.length_cons]
    omega
  have hclosed : source.drop (front.length + 1 + m.occurrence.stop) = m.after ++ rest := by
    have hcut : source
        = (front ++ blank :: (m.head ++ (m.before ++ m.replaced))) ++ (m.after ++ rest) := by
      rw [hsource]
      simp only [Match.text, Match.body, List.append_assoc, List.cons_append]
    rw [hcut]
    apply List.drop_left'
    simp only [Match.occurrence, List.length_append, List.length_cons]
    omega
  cases kind with
  | attributeValue =>
    obtain ⟨q, hq, hvalue, hbefore, hreplaced⟩ := m.exists_value_pieces
    rw [hbefore] at hintroduced
    rw [hreplaced] at hpart
    exact .value m.name_mem hintroduced hq hvalue hpart
  | helperCall =>
    obtain ⟨w₁, w₂, q, raw, w₃, w₄, hw₁, hw₂, hq, hraw, hw₃, hw₄, hbefore, hreplaced, hafter,
      hvalue⟩ := m.exists_call_pieces
    rw [hbefore] at hintroduced
    rw [hreplaced] at hpart
    rw [hafter, List.append_assoc, List.singleton_append] at hclosed
    have hdecodes := decodes_unescape hraw
    rw [← hvalue] at hdecodes
    exact .call m.name_mem hintroduced hq hdecodes hpart hclosed ⟨hw₁, hw₂, hw₃, hw₄⟩

/-! ### The order of the source -/

/-- A value starts with a quote and a call with a character of the helper. -/
theorem start_ne_of_kind_ne (hcmem : c ∈ scanned names callee source)
    (hvalue : c.kind = .attributeValue) (hdmem : d ∈ scanned names callee source)
    (hcall : d.kind = .helperCall) : c.literal.start ≠ d.literal.start := by
  intro heq
  obtain ⟨q, hq, hopen, -⟩ := exists_quote_of_value hc hcmem hvalue
  obtain ⟨e, he, hcallee⟩ := exists_mem_callee_of_call hc hdmem hcall
  rw [← heq, hopen, Option.some.injEq] at hcallee
  exact (ne_of_mem_identifier hc he).1 (hcallee ▸ hq)

/-- **What the scans find** starts at different places. -/
theorem pairwise_start_ne_scanned :
    (scanned names callee source).Pairwise fun c d => c.literal.start ≠ d.literal.start := by
  have hof (kind : LiteralKind) (hmem : ∀ c ∈ scannedOf names callee kind source,
      c ∈ scanned names callee source) : (scannedOf names callee kind source).Pairwise
        fun c d => c.literal.start ≠ d.literal.start := by
    -- one scan goes on behind what it has found
    refine pairwise_scannedOf.imp_of_mem fun hcmem hdmem hstop => ?_
    have hcplaces := place_lt_start_of_mem_scanned hc (hmem _ hcmem)
    have hdplaces := place_lt_start_of_mem_scanned hc (hmem _ hdmem)
    omega
  rw [scanned, List.pairwise_append]
  refine ⟨hof _ fun c => List.mem_append_left _, hof _ fun c => List.mem_append_right _, ?_⟩
  intro c hcmem d hdmem
  exact start_ne_of_kind_ne hc (List.mem_append_left _ hcmem) (kind_eq_of_mem_scannedOf hcmem)
    (List.mem_append_right _ hdmem) (kind_eq_of_mem_scannedOf hdmem)

/-- **The class lists come in the order of the source**, each with a start of its own. -/
theorem pairwise_start_lt :
    (literals attributes callee source).Pairwise fun a b => a.start < b.start := by
  have hne : (literals attributes callee source).Pairwise fun a b => a.start ≠ b.start := by
    rw [literals_eq_reported, (List.mergeSort_perm _ _).pairwise_iff Ne.symm, List.pairwise_map]
    exact (pairwise_start_ne_scanned hc).sublist List.filter_sublist
  exact (pairwise_start_le.and hne).imp fun h => Nat.lt_of_le_of_ne h.1 h.2

end Reported

/-! ### Nothing else is passed over -/

section Complete

variable {scan : Text → Option Occurrence} {place resume : Nat} {afterBlank : Bool} {s : Text}

/-- **A scan passes nothing over** but what starts before the place where it looks next, and what
overlaps something that it has found before. -/
theorem mem_or_overlapped_of_mem_acceptedAt {x : Nat × Occurrence}
    (h : x ∈ acceptedAt scan (startsFrom place afterBlank s)) :
    x.1 < resume ∨ x ∈ occurrencesFrom scan place resume afterBlank s ∨
      ∃ y ∈ occurrencesFrom scan place resume afterBlank s,
        y.1 < x.1 ∧ x.1 < y.1 + y.2.length := by
  obtain ⟨p, o⟩ := x
  obtain ⟨rest, hrest, hscan⟩ := mem_acceptedAt_iff.mp h
  clear h
  induction s generalizing place resume afterBlank with
  | nil => exact absurd hrest List.not_mem_nil
  | cons c s ih =>
    rw [startsFrom, List.mem_append] at hrest
    rw [occurrencesFrom]
    rcases hrest with hhere | hlater
    · -- the walk stands at the place, and asks the scanner unless it looks further behind
      cases afterBlank with
      | false => exact absurd hhere (by simp)
      | true =>
        obtain ⟨rfl, rfl⟩ := Prod.mk.inj (List.mem_singleton.mp hhere)
        by_cases hresume : resume ≤ p
        · exact Or.inr (Or.inl (by simp [hresume, hscan]))
        · exact Or.inl (Nat.lt_of_not_le hresume)
    · have hlt : place < p := le_of_mem_startsFrom hlater
      split
      · next o' ho' =>
        -- what starts before the end of the one just found overlaps it
        have hbehind := @ih (place + 1) (place + o'.length) (isBlank c) hlater
        rcases hbehind with hoverlap | hfound | ⟨y, hy, hplaces⟩
        · exact Or.inr (Or.inr ⟨(place, o'), List.mem_cons_self, hlt, hoverlap⟩)
        · exact Or.inr (Or.inl (List.mem_cons_of_mem _ hfound))
        · exact Or.inr (Or.inr ⟨y, List.mem_cons_of_mem _ hy, hplaces⟩)
      · exact ih hlater

variable {names attributes : List Text} {callee source : Text} {c : Candidate}

/-- **What is passed over**: a scan finds every candidate of its shape, unless one of that shape
that it has found before reaches beyond the name. -/
theorem mem_or_overlapped_of_mem_candidates (hc : isIdentifier callee = true)
    (h : c ∈ candidates names callee source) :
    c ∈ scanned names callee source ∨
      ∃ d ∈ scanned names callee source,
        d.kind = c.kind ∧ d.place < c.place ∧ c.place < d.stop := by
  have hscanned {kind : LiteralKind} {x : Nat × Occurrence}
      (hx : x ∈ occurrencesFrom (shape names callee kind) 0 0 false source) :
      ⟨kind, x.1, x.2⟩ ∈ scanned names callee source := by
    have hmem : ⟨kind, x.1, x.2⟩ ∈ scannedOf names callee kind source :=
      List.mem_map.mpr ⟨x, hx, rfl⟩
    exact mem_scanned_of_mem_scannedOf hmem
  obtain ⟨kind, place, found⟩ := c
  obtain ⟨rest, hstart, hshape⟩ := (mem_candidates_iff hc).mp h
  have hmem : (place, rest) ∈ starts source :=
    mem_starts_iff.mpr ⟨ne_nil_of_shape_eq_some hc hshape, hstart⟩
  have haccepted : (place, found) ∈ acceptedAt (shape names callee kind) (starts source) :=
    mem_acceptedAt_iff.mpr ⟨rest, hmem, hshape⟩
  have hpassed := @mem_or_overlapped_of_mem_acceptedAt _ 0 0 false source _ haccepted
  rcases hpassed with hlt | hmem | ⟨y, hy, hlt⟩
  · exact absurd hlt (Nat.not_lt_zero _)
  · exact Or.inl (hscanned hmem)
  · exact Or.inr ⟨_, hscanned hy, rfl, hlt⟩

/-- **Every candidate in a tag is reported**, unless a scan was taken up by something of the same
shape that starts before it. -/
theorem mem_literals_or_overlapped (hc : isIdentifier callee = true)
    (h : c ∈ candidates (namesTried attributes) callee source)
    (htag : inTag source c.place = true) :
    c.literal ∈ literals attributes callee source ∨
      ∃ d ∈ scanned (namesTried attributes) callee source,
        d.kind = c.kind ∧ d.place < c.place ∧ c.place < d.stop := by
  refine (mem_or_overlapped_of_mem_candidates hc h).imp_left fun hscanned => ?_
  exact mem_literals_iff_reported.mpr ⟨c, mem_reported_iff.mpr ⟨hscanned, htag⟩, rfl⟩

end Complete

/-! ### The class lists of a source -/

/-- **What is reported stands in the source**, for all sources, names and helpers: the class lists
come in the order of the source, each with a start of its own and as a part of it that is not empty,
and each stands there in one of the two shapes, after one of the names in a tag. -/
theorem literals_stand_in_source {attributes : List Text} {callee : Text}
    (hattributes : attributes ≠ []) (hcallee : isIdentifier callee = true) (source : Text) :
    ((literals attributes callee source).Pairwise fun a b => a.start < b.start) ∧
      ∀ l ∈ literals attributes callee source,
        0 < l.start ∧ l.start < l.stop ∧ l.stop ≤ source.length ∧
          StandsIn attributes callee source l := by
  refine ⟨pairwise_start_lt hcallee, fun l hl => ?_⟩
  obtain ⟨c, hreported, rfl⟩ := mem_literals_iff_reported.mp hl
  have hnames : namesTried attributes = attributes := by simp [namesTried, hattributes]
  rw [hnames] at hreported
  have hplaces := place_lt_start_of_mem_scanned hcallee (mem_reported_iff.mp hreported).1
  have hstart : 0 < c.literal.start := Nat.zero_lt_of_lt hplaces.1
  have hstop : c.literal.stop ≤ source.length := Nat.le_trans hplaces.2.2.1 hplaces.2.2.2
  exact ⟨hstart, hplaces.2.1, hstop, standsIn_of_mem_reported hcallee hreported⟩

/-- A source with a value that holds the other quote and with a call whose string holds its own,
after two names of which one starts with the other. -/
def prefixedNames : Text := "<a class='p-1 \"' className = \x7b clsx( 'm\\'s' )\x7d>"

theorem literals_stand_in_source_prefixedNames :
    defaultAttributes.reverse ≠ [] ∧ isIdentifier "clsx" = true ∧
    literals defaultAttributes.reverse "clsx" prefixedNames
      = [⟨.attributeValue, 9, 16, "p-1 \""⟩, ⟨.helperCall, 31, 45, "m's"⟩] ∧
    ∀ l ∈ literals defaultAttributes.reverse "clsx" prefixedNames,
      StandsIn defaultAttributes.reverse "clsx" prefixedNames l := by
  have hattributes : defaultAttributes.reverse ≠ [] := by decide
  have hcallee : isIdentifier "clsx" = true := by decide +kernel
  have hreported :
      (reported (namesTried defaultAttributes.reverse) "clsx" prefixedNames).map (·.literal)
        = [⟨.attributeValue, 9, 16, "p-1 \""⟩, ⟨.helperCall, 31, 45, "m's"⟩] := by
    decide +kernel
  have hliterals : literals defaultAttributes.reverse "clsx" prefixedNames
      = [⟨.attributeValue, 9, 16, "p-1 \""⟩, ⟨.helperCall, 31, 45, "m's"⟩] := by
    rw [literals_eq_of_pairwise (by rw [hreported]; decide), hreported]
  have hstand := (literals_stand_in_source hattributes hcallee prefixedNames).2
  exact ⟨hattributes, hcallee, hliterals, fun l hl => (hstand l hl).2.2.2⟩

end ClassGroups.Jsx
