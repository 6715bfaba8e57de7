import ClassGroups.Proofs.Jsx.Scans

/-!
# When class lists overlap

The scan for values and the scan for calls do not look at each other, and each of them may find a
class list in a string that the other one has found. A fix would then splice a replacement into a
part of the source that another replacement has taken. The main statement, `disjoint_iff_no_name`,
tells when this happens: class lists overlap exactly if the name before one of them stands in
another one.

Two class lists that overlap are a value and a call, since one scan is free of overlaps. What stands
between a name and its class list is too plain for the other one to start or to end there. There is
no quote (`not_isQuote_of_between`), so a value neither starts nor ends before a call
(`value_start_le_place`, `start_lt_stop_of_place_lt`). And there is no brace before a value, whereas
a call has one on either side, so a call neither starts nor ends there (`call_start_le_place`,
`value_start_lt_stop`).
-/

namespace ClassGroups.Jsx

/-! ### What is found, once -/

section Nodup

variable {names : List Text} {callee source : Text} {kind : LiteralKind}

theorem pairwise_place_scannedOf :
    (scannedOf names callee kind source).Pairwise fun c d => c.place < d.place :=
  List.Pairwise.map _ (fun _ _ h => h)
    ((pairwise_acceptedAt _ source).sublist occurrencesFrom_sublist)

theorem nodup_scannedOf : (scannedOf names callee kind source).Nodup :=
  pairwise_place_scannedOf.imp fun hlt heq => Nat.ne_of_lt hlt (congrArg Candidate.place heq)

theorem nodup_scanned : (scanned names callee source).Nodup := by
  refine List.nodup_append.mpr ⟨nodup_scannedOf, nodup_scannedOf, fun c hc d hd heq => ?_⟩
  have hkind := kind_eq_of_mem_scannedOf hc
  rw [heq, kind_eq_of_mem_scannedOf hd] at hkind
  exact absurd hkind (by decide)

end Nodup

/-! ### Between a name and its class list -/

theorem Match.eq_or_isBlank_of_mem_before {names : List Text} {callee : Text} {kind : LiteralKind}
    (m : Match names callee kind) {ch : Char} (h : ch ∈ m.before) :
    ch = '{' ∨ isBlank ch = true := by
  cases kind with
  | attributeValue =>
    obtain ⟨q, -, -, hbefore, -⟩ := m.exists_value_pieces
    exact absurd (hbefore ▸ h) List.not_mem_nil
  | helperCall =>
    obtain ⟨w₁, w₂, q, raw, w₃, w₄, hw₁, -, -, -, -, -, hbefore, -⟩ := m.exists_call_pieces
    rcases List.mem_cons.mp (hbefore ▸ h) with hbrace | hmem
    · exact Or.inl hbrace
    · exact Or.inr (List.all_eq_true.mp hw₁ ch hmem)

section Between

variable {names : List Text} {callee source : Text} {c d : Candidate} {i : Nat} {ch : Char}
  (hn : ∀ name ∈ names, IsName name) (hc : isIdentifier callee = true)

/-- A character of an identifier delimits nothing. -/
theorem ne_of_mem_identifier (hc : isIdentifier callee = true) (hmem : ch ∈ callee) :
    ¬IsQuote ch ∧ isBlank ch = false ∧ ch ≠ '=' := by
  have hno {q : Char} (hq : isIdentifierRest q = false) : ch ≠ q := by
    rintro rfl
    exact notMem_of_isIdentifier hc hq hmem
  refine ⟨?_, not_isBlank_of_isIdentifier hc hmem, hno (by decide)⟩
  rintro (h | h)
  · exact hno (by decide) h
  · exact hno (by decide) h

include hn hc

/-- **No quote** stands between a name and its class list. -/
theorem not_isQuote_of_between (h : c ∈ scanned names callee source) (hch : source[i]? = some ch)
    (hle : c.place ≤ i) (hlt : i < c.literal.start) : ¬IsQuote ch := by
  intro hq
  obtain ⟨m, hm, hfound⟩ := exists_match_of_mem_scanned hc h rfl
  have hopens : Opens .attributeValue ch := hq
  have hpiece : StandsAt source c.place (m.head ++ m.before) := by
    rw [Match.text, Match.body, ← List.append_assoc] at hm
    exact hm.left
  simp only [Candidate.literal, ← hfound, Match.occurrence] at hlt
  have hmem := hpiece.mem hch hle (by rw [List.length_append]; omega)
  rcases List.mem_append.mp hmem with hmem | hmem
  · exact m.assignment.notMem (hn _ m.name_mem) hopens.mem_nameDelimiters hopens.ne_equals
      hq.not_isBlank hmem
  · rcases m.eq_or_isBlank_of_mem_before hmem with hbrace | hblank
    · exact hq.ne_brace hbrace
    · exact absurd hblank (by simp [hq.not_isBlank])

/-- No brace stands between a name and a value. -/
theorem not_brace_of_between (h : c ∈ scanned names callee source)
    (hkind : c.kind = .attributeValue) (hch : source[i]? = some ch) (hle : c.place ≤ i)
    (hlt : i < c.literal.start) : ch ≠ '{' ∧ ch ≠ '}' := by
  obtain ⟨m, hm, hfound⟩ := exists_match_of_mem_scanned hc h hkind
  obtain ⟨q, -, -, hbefore, -⟩ := m.exists_value_pieces
  simp only [Candidate.literal, ← hfound, Match.occurrence, hbefore, List.length_nil] at hlt
  have hmem := hm.left.mem hch hle hlt
  have hno {b : Char} (hb : b ∈ nameDelimiters) (hequals : b ≠ '=') (hblank : isBlank b = false) :
      ch ≠ b := by
    rintro rfl
    exact m.assignment.notMem (hn _ m.name_mem) hb hequals hblank hmem
  exact ⟨hno (by decide) (by decide) (by decide), hno (by decide) (by decide) (by decide)⟩

end Between

/-! ### A value and a call -/

section Assignment

variable {name head t : Text} {x : Char}

theorem IsAssignment.exists_cons (h : IsAssignment name head) : ∃ x t, head = x :: t := by
  obtain ⟨before, after, -, -, rfl⟩ := h
  exact List.exists_cons_of_ne_nil (by simp)

/-- If an assignment starts with white space, its name is empty. -/
theorem IsAssignment.eq_or_isBlank (h : IsAssignment name head) (hname : IsName name)
    (hhead : head = x :: t) (hx : isBlank x = true) :
    ∀ ch ∈ head, ch = '=' ∨ isBlank ch = true := by
  obtain ⟨before, after, hbefore, hafter, rfl⟩ := h
  cases name with
  | nil =>
    intro ch hch
    rw [List.nil_append, List.mem_append, List.mem_cons] at hch
    rcases hch with hch | hch | hch
    · exact Or.inr (List.all_eq_true.mp hbefore ch hch)
    · exact Or.inl hch
    · exact Or.inr (List.all_eq_true.mp hafter ch hch)
  | cons y name =>
    obtain rfl := (List.cons.inj hhead).1
    exact absurd hx (by simp [hname.not_isBlank List.mem_cons_self])

end Assignment

section Pair

variable {names : List Text} {callee source : Text} {c d : Candidate}
  (hn : ∀ name ∈ names, IsName name) (hc : isIdentifier callee = true)
  (hcmem : c ∈ scanned names callee source) (hvalue : c.kind = .attributeValue)
  (hdmem : d ∈ scanned names callee source) (hcall : d.kind = .helperCall)

include hc hcmem hvalue in
/-- A value starts and ends with a quote. -/
theorem exists_quote_of_value :
    ∃ q, IsQuote q ∧ source[c.literal.start]? = some q ∧ source[c.literal.stop - 1]? = some q := by
  obtain ⟨m, hm, hfound⟩ := exists_match_of_mem_scanned hc hcmem hvalue
  obtain ⟨q, hq, -, hbefore, hreplaced⟩ := m.exists_value_pieces
  have hpiece := hm.right.right.left
  rw [hreplaced, ← List.cons_append] at hpiece
  refine ⟨q, hq, ?_, ?_⟩
  · have hopen := hpiece.left.getElem?_eq
    simpa only [Candidate.literal, ← hfound, Match.occurrence, Nat.add_assoc] using hopen
  · have hclose := hpiece.right.getElem?_eq
    have hlast : c.literal.stop - 1
        = c.place + m.head.length + m.before.length + (q :: m.value).length := by
      simp only [Candidate.literal, ← hfound, Match.occurrence, hreplaced, List.length_cons,
        List.length_append, List.length_nil]
      omega
    rw [hlast, hclose]

include hc hdmem hcall in
/-- A call starts with a character of the helper. -/
theorem exists_mem_callee_of_call : ∃ e ∈ callee, source[d.literal.start]? = some e := by
  obtain ⟨m, hm, hfound⟩ := exists_match_of_mem_scanned hc hdmem hcall
  obtain ⟨w₁, w₂, q, raw, w₃, w₄, -, -, -, -, -, -, -, hreplaced, -⟩ := m.exists_call_pieces
  obtain ⟨e, ident, hident⟩ := List.exists_cons_of_ne_nil (ne_nil_of_isIdentifier hc)
  subst hident
  have hpiece := hm.right.right.left
  rw [hreplaced, List.cons_append] at hpiece
  refine ⟨e, List.mem_cons_self, ?_⟩
  have hopen := hpiece.getElem?_eq
  simpa only [Candidate.literal, ← hfound, Match.occurrence, Nat.add_assoc] using hopen

include hn hc hcmem hvalue hdmem

/-- A value does not end between the name and the start of a call. -/
theorem start_lt_stop_of_place_lt (h : d.place < c.literal.stop) :
    d.literal.start < c.literal.stop := by
  by_contra hge
  obtain ⟨q, hq, -, hclose⟩ := exists_quote_of_value hc hcmem hvalue
  have hplace := place_lt_start_of_mem_scanned hc hcmem
  exact not_isQuote_of_between hn hc hdmem hclose (by omega) (by omega) hq

include hcall

/-- A value does not start between the name and the start of a call. -/
theorem value_start_le_place (h : c.literal.start ≤ d.literal.start) :
    c.literal.start ≤ d.place := by
  by_contra hlt
  obtain ⟨q, hq, hopen, -⟩ := exists_quote_of_value hc hcmem hvalue
  obtain ⟨e, he, hcallee⟩ := exists_mem_callee_of_call hc hdmem hcall
  rcases Nat.lt_or_eq_of_le h with hstart | hstart
  · exact not_isQuote_of_between hn hc hdmem hopen (by omega) hstart hq
  · -- the first character of the helper is no quote
    rw [← hstart, hopen, Option.some.injEq] at hcallee
    exact (ne_of_mem_identifier hc he).1 (hcallee ▸ hq)

/-- A call does not end between the name and the start of a value, since a brace comes after it. -/
theorem value_start_lt_stop (h : c.place < d.literal.stop) :
    c.literal.start < d.literal.stop := by
  by_contra hge
  obtain ⟨q, hq, hopen, -⟩ := exists_quote_of_value hc hcmem hvalue
  obtain ⟨m, hm, hfound⟩ := exists_match_of_mem_scanned hc hdmem hcall
  obtain ⟨w₁, w₂, q', raw, w₃, w₄, -, -, -, -, -, hw₄, -, -, hafter, -⟩ := m.exists_call_pieces
  have hpiece : StandsAt source d.literal.stop (w₄ ++ ['}']) := by
    have hright := hm.right.right.right
    rw [hafter] at hright
    simpa only [Candidate.literal, ← hfound, Match.occurrence, Nat.add_assoc] using hright
  rcases Nat.lt_or_ge (d.literal.stop + w₄.length) c.literal.start with hlt | hle
  · -- the brace would stand before the value
    exact (not_brace_of_between hn hc hcmem hvalue hpiece.right.getElem?_eq (by omega) hlt).2 rfl
  · -- the value would start where there is white space or the brace
    have hmem := hpiece.mem hopen (by omega) (by
      rw [List.length_append, List.length_singleton]
      omega)
    rcases List.mem_append.mp hmem with hmem | hmem
    · exact Text.notMem_of_blank hw₄ hq.not_isBlank hmem
    · obtain rfl := List.mem_singleton.mp hmem
      exact absurd hq (by simp [IsQuote])

/-- A call does not start between the name and the start of a value, since a brace comes before
it. -/
theorem call_start_le_place (h : d.literal.start ≤ c.literal.start) :
    d.literal.start ≤ c.place := by
  by_contra hgt
  obtain ⟨q, hq, hopen, -⟩ := exists_quote_of_value hc hcmem hvalue
  obtain ⟨e, he, hcallee⟩ := exists_mem_callee_of_call hc hdmem hcall
  obtain ⟨hquote, hblank, hequals⟩ := ne_of_mem_identifier hc he
  obtain ⟨m, hm, hfound⟩ := exists_match_of_mem_scanned hc hdmem hcall
  obtain ⟨w₁, w₂, q', raw, w₃, w₄, hw₁, -, -, -, -, -, hbefore, -⟩ := m.exists_call_pieces
  have hpiece : StandsAt source (d.place + m.head.length) ('{' :: w₁) := by
    have hright := hm.right.left
    rwa [hbefore] at hright
  have hlength : d.literal.start = d.place + m.head.length + ('{' :: w₁).length := by
    simp only [Candidate.literal, ← hfound, Match.occurrence, hbefore, Nat.add_assoc]
  have hlt : d.literal.start < c.literal.start := by
    refine Nat.lt_of_le_of_ne h fun heq => hquote ?_
    rw [heq, hopen, Option.some.injEq] at hcallee
    exact hcallee ▸ hq
  rcases Nat.lt_or_ge (d.place + m.head.length) c.place with hbrace | hbrace
  · -- the name would start in the white space before the call, so it would be empty
    obtain ⟨m', hm', hfound'⟩ := exists_match_of_mem_scanned hc hcmem hvalue
    obtain ⟨q'', -, -, hbefore', -⟩ := m'.exists_value_pieces
    obtain ⟨x, head, hhead⟩ := m'.assignment.exists_cons
    have hat : source[c.place]? = some x := by
      have hleft := hm'.left
      rw [hhead] at hleft
      exact hleft.getElem?_eq
    have hx : isBlank x = true := by
      have hmem := hpiece.mem hat (by omega) (by omega)
      rcases List.mem_cons.mp hmem with rfl | hmem
      · exact absurd rfl (not_brace_of_between hn hc hcmem hvalue hat (by omega) (by omega)).1
      · exact List.all_eq_true.mp hw₁ x hmem
    have hmem : e ∈ m'.head := by
      refine hm'.left.mem hcallee (by omega) ?_
      simp only [Candidate.literal, ← hfound', Match.occurrence, hbefore', List.length_nil] at hlt
      exact hlt
    rcases m'.assignment.eq_or_isBlank (hn _ m'.name_mem) hhead hx e hmem with heq | heq
    · exact hequals heq
    · exact absurd heq (by simp [hblank])
  · -- the brace would stand before the value
    exact (not_brace_of_between hn hc hcmem hvalue hpiece.getElem?_eq hbrace (by omega)).1 rfl

/-- **A value and a call** do not overlap exactly if neither stands around the name of the other. -/
theorem disjoint_iff_of_value_of_call :
    (c.literal.stop ≤ d.literal.start ∨ d.literal.stop ≤ c.literal.start)
      ↔ ¬(c.literal.start ≤ d.place ∧ d.place < c.literal.stop) ∧
        ¬(d.literal.start ≤ c.place ∧ c.place < d.literal.stop) := by
  have hplace := place_lt_start_of_mem_scanned hc hcmem
  have hplace' := place_lt_start_of_mem_scanned hc hdmem
  have hstop := start_lt_stop_of_place_lt hn hc hcmem hvalue hdmem
  have hstop' := value_start_lt_stop hn hc hcmem hvalue hdmem hcall
  have hstart := value_start_le_place hn hc hcmem hvalue hdmem hcall
  have hstart' := call_start_le_place hn hc hcmem hvalue hdmem hcall
  omega

end Pair

/-! ### All class lists of a source -/

section Source

variable {attributes : List Text} {callee source : Text} {c d : Candidate}

/-- Two things that are found do not overlap exactly if neither stands around the name of the
other. -/
theorem disjoint_iff_of_ne {names : List Text} (hn : ∀ name ∈ names, IsName name)
    (hc : isIdentifier callee = true) (hcmem : c ∈ scanned names callee source)
    (hdmem : d ∈ scanned names callee source) (hne : c ≠ d) :
    (c.literal.stop ≤ d.literal.start ∨ d.literal.stop ≤ c.literal.start)
      ↔ ¬(c.literal.start ≤ d.place ∧ d.place < c.literal.stop) ∧
        ¬(d.literal.start ≤ c.place ∧ c.place < d.literal.stop) := by
  by_cases hkind : c.kind = d.kind
  · -- one scan has found both, so one of them ends before the name of the other
    have hplace := place_lt_start_of_mem_scanned hc hcmem
    have hplace' := place_lt_start_of_mem_scanned hc hdmem
    rcases eq_or_stop_le_of_kind_eq hcmem hdmem hkind with heq | hstop | hstop
    · exact absurd heq hne
    · omega
    · omega
  · cases hvalue : c.kind with
    | attributeValue =>
      cases hcall : d.kind with
      | attributeValue => exact absurd (hvalue.trans hcall.symm) hkind
      | helperCall => exact disjoint_iff_of_value_of_call hn hc hcmem hvalue hdmem hcall
    | helperCall =>
      cases hcall : d.kind with
      | attributeValue =>
        rw [Or.comm, And.comm]
        exact disjoint_iff_of_value_of_call hn hc hdmem hcall hcmem hvalue
      | helperCall => exact absurd (hvalue.trans hcall.symm) hkind

/-- **Class lists overlap only around names.** The class lists of a source do not overlap exactly if
no name before one of them stands in one of them. -/
theorem disjoint_iff_no_name (hnames : ∀ name ∈ attributes, IsName name)
    (hc : isIdentifier callee = true) :
    ((literals attributes callee source).Pairwise fun a b => a.stop ≤ b.start ∨ b.stop ≤ a.start)
      ↔ ∀ c ∈ reported (namesTried attributes) callee source,
        ∀ d ∈ reported (namesTried attributes) callee source,
          ¬(c.literal.start ≤ d.place ∧ d.place < c.literal.stop) := by
  have hn := isName_of_mem_namesTried hnames
  rw [literals_eq_reported, (List.mergeSort_perm _ _).pairwise_iff Or.symm, List.pairwise_map]
  constructor
  · intro h c hcmem d hdmem
    by_cases heq : c = d
    · -- a name does not stand in its own class list, which comes after it
      have hplace := place_lt_start_of_mem_scanned hc (mem_reported_iff.mp hdmem).1
      rw [heq]
      omega
    · have hsymm : Std.Symm fun c d : Candidate =>
          c.literal.stop ≤ d.literal.start ∨ d.literal.stop ≤ c.literal.start :=
        ⟨fun _ _ => Or.symm⟩
      exact ((disjoint_iff_of_ne hn hc (mem_reported_iff.mp hcmem).1 (mem_reported_iff.mp hdmem).1
        heq).mp (h.forall hcmem hdmem heq)).1
  · intro h
    refine (nodup_scanned.filter _).pairwise_of_forall_ne fun c hcmem d hdmem hne => ?_
    exact (disjoint_iff_of_ne hn hc (mem_reported_iff.mp hcmem).1 (mem_reported_iff.mp hdmem).1
      hne).mpr ⟨h c hcmem d hdmem, h d hdmem c hcmem⟩

/-- A source with a call in the string of a value, where the names of both stand in one tag. -/
def nestedLists : Text :=
  "<a className=\"p-1 className=\x7bclsx('mt-4 flex p-2 text-sm')\x7d m-2\">"

theorem literals_nestedLists :
    literals defaultAttributes "clsx" nestedLists
      = [⟨.attributeValue, 13, 64, "p-1 className=\x7bclsx('mt-4 flex p-2 text-sm')\x7d m-2"⟩,
        ⟨.helperCall, 29, 58, "mt-4 flex p-2 text-sm"⟩] := by
  have hreported : (reported (namesTried defaultAttributes) "clsx" nestedLists).map (·.literal)
      = [⟨.attributeValue, 13, 64, "p-1 className=\x7bclsx('mt-4 flex p-2 text-sm')\x7d m-2"⟩,
        ⟨.helperCall, 29, 58, "mt-4 flex p-2 text-sm"⟩] := by decide +kernel
  rw [literals_eq_of_pairwise (by rw [hreported]; decide), hreported]

/-- The call stands within the value, so the two overlap. -/
theorem literals_overlap_nestedLists :
    defaultAttributes ≠ [] ∧ isIdentifier "clsx" = true ∧
    ¬(literals defaultAttributes "clsx" nestedLists).Pairwise
      fun a b => a.stop ≤ b.start ∨ b.stop ≤ a.start := by
  refine ⟨by decide, by decide +kernel, ?_⟩
  rw [literals_nestedLists, List.pairwise_pair]
  decide

theorem disjoint_iff_no_name_nestedLists :
    (∀ name ∈ defaultAttributes, IsName name) ∧ isIdentifier "clsx" = true ∧
    (((literals defaultAttributes "clsx" nestedLists).Pairwise
        fun a b => a.stop ≤ b.start ∨ b.stop ≤ a.start)
      ↔ ∀ c ∈ reported (namesTried defaultAttributes) "clsx" nestedLists,
        ∀ d ∈ reported (namesTried defaultAttributes) "clsx" nestedLists,
          ¬(c.literal.start ≤ d.place ∧ d.place < c.literal.stop)) := by
  have hnames : ∀ name ∈ defaultAttributes, IsName name := by decide +kernel
  have hc : isIdentifier "clsx" = true := by decide +kernel
  exact ⟨hnames, hc, disjoint_iff_no_name hnames hc⟩

end Source

end ClassGroups.Jsx
