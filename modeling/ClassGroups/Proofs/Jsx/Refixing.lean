import ClassGroups.Proofs.Jsx.Findings
import ClassGroups.Proofs.Jsx.Replacement

/-!
# Fixing twice

A fix is meant to leave nothing to fix. In a regular source, every replacement is sealed, so a fix
takes away the candidates that it regroups and moves the others. What it leaves is therefore known
from the source (`Moved`): `Moved.splice` is one splice, and `moved_findings` the run of all.

The others are candidates that the gate keeps, or that did not count as standing in a tag. The gate
decides as before, since the class list is the same. But whether a place lies in a tag is told from
the text before it, which a fix does change. So a second fix does nothing exactly if no class list
that was passed over for its place now counts as standing in a tag (`fix_again_iff`).
-/

namespace ClassGroups.Jsx

/-! ### Candidates that have moved -/

/-- **A text with the candidates of a source**, except for some that are gone, each at the place to
which its old place has moved. -/
structure Moved (names : List Text) (callee source text : Text) (gone : List Candidate)
    (move : Nat → Nat) : Prop where
  /-- The text is regular. -/
  regular : Regular names callee text
  /-- Its candidates are those of the source that are not gone. -/
  mem_iff : ∀ c, c ∈ candidates names callee text
    ↔ ∃ d ∈ candidates names callee source, d ∉ gone ∧ c = { d with place := move d.place }
  /-- They are in the same order. -/
  lt : ∀ c ∈ candidates names callee source, ∀ d ∈ candidates names callee source,
    c ∉ gone → d ∉ gone → c.place < d.place → move c.place < move d.place

section Moved

variable {names : List Text} {callee source text text' : Text} {gone : List Candidate}
  {move move' : Nat → Nat} {c : Candidate}

theorem Moved.refl (h : Regular names callee source) : Moved names callee source source [] id where
  regular := h
  mem_iff := fun c => by simp
  lt := fun _ _ _ _ _ _ h => h

/-- The candidate that goes next stands where it has moved to. -/
theorem Moved.trans (hn : ∀ name ∈ names, IsName name) (hc : isIdentifier callee = true)
    (h : Moved names callee source text gone move) (hmem : c ∈ candidates names callee source)
    (hgone : c ∉ gone)
    (h' : Moved names callee text text' [{ c with place := move c.place }] move') :
    Moved names callee source text' (c :: gone) (move' ∘ move) := by
  have hthere {d : Candidate} (hd : d ∈ candidates names callee source) (hdgone : d ∉ gone) :
      { d with place := move d.place } ∈ candidates names callee text :=
    (h.mem_iff _).mpr ⟨d, hd, hdgone, rfl⟩
  -- as the order is kept, no other candidate has moved to the same place
  have hother {d : Candidate} (hd : d ∈ candidates names callee source) (hdgone : d ∉ gone) :
      ({ d with place := move d.place } : Candidate) ∈ [{ c with place := move c.place }]
        ↔ d = c := by
    rw [List.mem_singleton]
    constructor
    · intro heq
      have hplace : move d.place = move c.place := congrArg Candidate.place heq
      rcases Nat.lt_trichotomy d.place c.place with hlt | heq | hgt
      · exact absurd hplace (Nat.ne_of_lt (h.lt d hd c hmem hdgone hgone hlt))
      · exact eq_of_place_eq hn hc hd hmem heq
      · exact absurd hplace.symm (Nat.ne_of_lt (h.lt c hmem d hd hgone hdgone hgt))
    · rintro rfl
      rfl
  refine ⟨h'.regular, fun e => ?_, fun d hd e he hdgone hegone hlt => ?_⟩
  · -- what is in the second text was in the first one, and before that in the source
    rw [h'.mem_iff]
    constructor
    · rintro ⟨d', hd', hne, rfl⟩
      obtain ⟨d, hd, hdgone, rfl⟩ := (h.mem_iff _).mp hd'
      refine ⟨d, hd, ?_, rfl⟩
      rw [List.mem_cons, not_or]
      exact ⟨fun heq => hne ((hother hd hdgone).mpr heq), hdgone⟩
    · rintro ⟨d, hd, hdgone, rfl⟩
      rw [List.mem_cons, not_or] at hdgone
      exact ⟨_, hthere hd hdgone.2, fun hin => hdgone.1 ((hother hd hdgone.2).mp hin), rfl⟩
  · rw [List.mem_cons, not_or] at hdgone hegone
    exact h'.lt _ (hthere hd hdgone.2) _ (hthere he hegone.2)
      (fun hin => hdgone.1 ((hother hd hdgone.2).mp hin))
      (fun hin => hegone.1 ((hother he hegone.2).mp hin))
      (h.lt d hd e he hdgone.2 hegone.2 hlt)

end Moved

/-! ### One splice -/

/-- Where a place has moved to when a finding is put in, unless it lies in the part that is
replaced. -/
def Finding.shift (f : Finding) (place : Nat) : Nat :=
  if place ≤ f.start then place else place + f.replacement.length - (f.stop - f.start)

/-- In both shapes a replacement is the expression in braces. -/
theorem Match.exists_braces {names : List Text} {callee : Text} {kind : LiteralKind}
    (m : Match names callee kind) :
    ∃ w w', Text.Blank w ∧ Text.Blank w' ∧ ∀ format rendered,
      m.before ++ (wrap kind format rendered ++ m.after)
        = '{' :: (w ++ (expression format rendered ++ (w' ++ ['}']))) := by
  obtain ⟨name, head, before, replaced, after, value, hname, hhead, hreads⟩ := m
  cases hreads with
  | value _ _ =>
    refine ⟨[], [], Text.blank_nil, Text.blank_nil, fun format rendered => ?_⟩
    rw [List.nil_append, List.append_nil]
    rfl
  | @call q w₁ w₂ raw w₃ w₄ hw₁ _ _ _ _ hw₄ =>
    exact ⟨w₁, w₄, hw₁, hw₄, fun format rendered => rfl⟩

theorem splice_around {names : List Text} {callee : Text} {kind : LiteralKind}
    (m : Match names callee kind) (before : Text) (blank : Char) (rest : Text) {f : Finding}
    (hstart : f.start = (m.candidate before).literal.start)
    (hstop : f.stop = (m.candidate before).literal.stop) :
    splice (m.around before blank m.body rest) f
      = m.around before blank (m.before ++ (f.replacement ++ m.after)) rest := by
  have hsplit : m.around before blank m.body rest
      = (before ++ blank :: (m.head ++ m.before)) ++ (m.replaced ++ (m.after ++ rest)) := by
    simp [Match.around, Match.body]
  have hleft : f.start = (before ++ blank :: (m.head ++ m.before)).length := by
    rw [hstart]
    simp only [Candidate.literal, Match.candidate, Match.occurrence, List.length_append,
      List.length_cons]
    omega
  have hright : f.stop
      = ((before ++ blank :: (m.head ++ m.before)) ++ m.replaced).length := by
    rw [hstop]
    simp only [Candidate.literal, Match.candidate, Match.occurrence, List.length_append,
      List.length_cons]
    omega
  rw [splice, hsplit, List.take_left' hleft.symm, ← List.append_assoc _ m.replaced,
    List.drop_left' hright.symm]
  simp [Match.around]

/-- The other candidates stand before the body, where nothing moves, or behind it, where all moves
by the same amount. -/
theorem Regular.shift_eq {names : List Text} {callee : Text} (hn : ∀ name ∈ names, IsName name)
    (hc : isIdentifier callee = true) {kind : LiteralKind} {m : Match names callee kind}
    {before rest : Text} {blank : Char} (hblank : isBlank blank = true)
    (hreg : Regular names callee (m.around before blank m.body rest)) {f : Finding}
    (hstart : f.start = (m.candidate before).literal.start)
    (hstop : f.stop = (m.candidate before).literal.stop) {d : Candidate}
    (hd : d ∈ candidates names callee (m.around before blank m.body rest))
    (hne : d ≠ m.candidate before) :
    (d.place ≤ before.length ∧ f.shift d.place = d.place) ∨
      (before.length + 1 + m.text.length ≤ d.place ∧
        f.shift d.place = d.place + f.replacement.length - m.replaced.length) := by
  have hbody : m.body.length = m.before.length + (m.replaced.length + m.after.length) := by
    simp only [Match.body, List.length_append]
  have htext : m.text.length = m.head.length + m.body.length := List.length_append
  have hpos := m.start_lt_stop
  simp only [Candidate.literal, Match.candidate, Match.occurrence] at hstart hstop hpos
  unfold Finding.shift
  rcases hreg.stop_le_or_le_place hn hc hblank hd with ⟨hlt, -⟩ | heq | hge
  · exact Or.inl ⟨by omega, if_pos (by omega)⟩
  · exact absurd heq hne
  · refine Or.inr ⟨hge, ?_⟩
    rw [if_neg (by omega)]
    omega

/-- **One splice** takes away the candidate that it regroups and moves the others. -/
theorem Moved.splice {o : Options} (hspliceable : o.format.spliceable = true)
    {names : List Text} (hn : ∀ name ∈ names, IsName name) {source : Text}
    (hreg : Regular names o.callee source) {c : Candidate}
    (hmem : c ∈ candidates names o.callee source) {threshold : Nat}
    (hgate : gate threshold c.found.value = none) {f : Finding}
    (hstart : f.start = c.literal.start) (hstop : f.stop = c.literal.stop)
    (hreplacement : f.replacement
      = wrap c.kind o.format (render o.toStyle (group c.found.value))) :
    Moved names o.callee source (splice source f) [c] f.shift := by
  have hc := o.callee_identifier
  obtain ⟨kind, m, before, blank, rest, hblank, rfl, rfl⟩ := exists_around_of_mem hn hc hmem
  obtain ⟨w, w', hw, hw', hbraces⟩ := m.exists_braces
  change f.replacement = wrap kind o.format (render o.toStyle (group m.value)) at hreplacement
  -- the new body is the expression in braces, so it takes no part in a candidate
  have hsealed : Sealed names o.callee (m.before ++ (f.replacement ++ m.after)) := by
    rw [hreplacement, hbraces]
    exact sealed_expression o hspliceable hn hgate (hreg.plain _ hmem) hw hw'
  rw [splice_around m before blank rest hstart hstop]
  have hbody : m.body.length = m.before.length + (m.replaced.length + m.after.length) := by
    simp only [Match.body, List.length_append]
  have htext : m.text.length = m.head.length + m.body.length := List.length_append
  refine ⟨hreg.around hn hc hblank hsealed, fun d => ?_, fun d hd e he hdne hene hlt => ?_⟩
  · rw [mem_candidates_around_iff hn hc hblank hreg hsealed]
    refine exists_congr fun e => and_congr_right fun he => ?_
    rw [List.mem_singleton]
    refine and_congr_right fun hne => ?_
    have hplace : (if e.place ≤ before.length then e.place else e.place
        + (m.before ++ (f.replacement ++ m.after)).length - m.body.length) = f.shift e.place := by
      rw [List.length_append, List.length_append]
      rcases hreg.shift_eq hn hc hblank hstart hstop he hne with ⟨hle, heq⟩ | ⟨hge, heq⟩
      · rw [if_pos hle, heq]
      · rw [if_neg (by omega), heq]
        omega
    rw [hplace]
  · -- of two places, both before the body, both behind it, or the first one before it
    rw [List.mem_singleton] at hdne hene
    rcases hreg.shift_eq hn hc hblank hstart hstop hd hdne with ⟨hle, heq⟩ | ⟨hge, heq⟩ <;>
      rcases hreg.shift_eq hn hc hblank hstart hstop he hene with ⟨hle', heq'⟩ | ⟨hge', heq'⟩ <;>
      omega

/-! ### The run of all splices -/

/-- Where a place has moved to when all findings are put in, from the last to the first. -/
def moved (fs : List Finding) (place : Nat) : Nat := fs.foldr Finding.shift place

/-- A place before all findings stays. -/
theorem moved_of_le {fs : List Finding} {place : Nat} (h : ∀ f ∈ fs, place ≤ f.start) :
    moved fs place = place := by
  induction fs with
  | nil => rfl
  | cons f fs ih =>
    have hrest := ih fun g hg => h g (List.mem_cons_of_mem f hg)
    unfold moved at hrest ⊢
    rw [List.foldr_cons, hrest, Finding.shift, if_pos (h f List.mem_cons_self)]

section Run

variable {o : Options} (hspliceable : o.format.spliceable = true) {attributes : List Text}
  (hnames : ∀ name ∈ attributes, IsName name) {source : Text}
  (hreg : Regular (namesTried attributes) o.callee source)

include hspliceable hnames hreg

/-- **All splices**: the induction puts in the first finding after those behind it, which have not
touched what stands before them. -/
theorem moved_spliceAll {cs : List Candidate}
    (hmem : ∀ c ∈ cs, c ∈ candidates (namesTried attributes) o.callee source ∧
      gate o.minTokens c.found.value = none)
    (hpairwise : cs.Pairwise fun c d => c.literal.stop ≤ d.literal.start) :
    Moved (namesTried attributes) o.callee source
      (spliceAll source (cs.map fun c => findingFor o source c.literal))
      cs (moved (cs.map fun c => findingFor o source c.literal)) := by
  have hn := isName_of_mem_namesTried hnames
  have hc := o.callee_identifier
  induction cs with
  | nil => exact Moved.refl hreg
  | cons c cs ih =>
    obtain ⟨hfirst, hrest⟩ := List.pairwise_cons.mp hpairwise
    have hmoved := ih (fun d hd => hmem d (List.mem_cons_of_mem c hd)) hrest
    obtain ⟨hcmem, hgate⟩ := hmem c List.mem_cons_self
    have hstart := start_lt_stop_of_mem hn hc hcmem
    have hgone : c ∉ cs := fun hin => absurd (hfirst c hin) (by omega)
    -- `c` stands before all that has been put in, so it is where it was
    have hstays : moved (cs.map fun c => findingFor o source c.literal) c.place = c.place := by
      refine moved_of_le fun f hf => ?_
      obtain ⟨d, hd, rfl⟩ := List.mem_map.mp hf
      have hle : c.literal.stop ≤ (findingFor o source d.literal).start := hfirst d hd
      omega
    have hthere := (hmoved.mem_iff c).mpr ⟨c, hcmem, hgone, by rw [hstays]⟩
    have hnext : Moved (namesTried attributes) o.callee
        (spliceAll source (cs.map fun c => findingFor o source c.literal))
        (spliceAll source ((c :: cs).map fun c => findingFor o source c.literal))
        [{ c with place := moved (cs.map fun c => findingFor o source c.literal) c.place }]
        (findingFor o source c.literal).shift := by
      rw [hstays]
      exact Moved.splice (o := placed o source c.literal.start) hspliceable hn hmoved.regular
        hthere hgate rfl rfl rfl
    exact hmoved.trans hn hc hcmem hgone hnext

omit hspliceable hnames in
/-- Class lists of the source are those of candidates, in the same order. -/
theorem exists_candidates {ls : List ClassLiteral}
    (hls : ∀ l ∈ ls, l ∈ literals attributes o.callee source) :
    ∃ cs : List Candidate, cs.map (·.literal) = ls ∧
      ∀ c ∈ cs, c ∈ candidates (namesTried attributes) o.callee source ∧
        inTag source c.place = true := by
  induction ls with
  | nil => exact ⟨[], rfl, fun c hc => absurd hc List.not_mem_nil⟩
  | cons l ls ih =>
    obtain ⟨cs, rfl, hcs⟩ := ih fun l hl => hls l (List.mem_cons_of_mem _ hl)
    obtain ⟨c, hcmem, hin, rfl⟩ :=
      (mem_literals_iff o.callee_identifier hreg.apart).mp (hls l List.mem_cons_self)
    exact ⟨c :: cs, rfl, List.forall_mem_cons.mpr ⟨⟨hcmem, hin⟩, hcs⟩⟩

omit hspliceable in
/-- The candidates that a fix regroups: they stand in tags and pass the gate. -/
theorem exists_regrouped :
    ∃ cs : List Candidate,
      (∀ c, c ∈ cs ↔ c ∈ candidates (namesTried attributes) o.callee source ∧
        inTag source c.place = true ∧ gate o.minTokens c.found.value = none) ∧
      cs.Pairwise (fun c d => c.literal.stop ≤ d.literal.start) ∧
      findings o attributes source = cs.map fun c => findingFor o source c.literal := by
  have hn := isName_of_mem_namesTried hnames
  have hc := o.callee_identifier
  have hlists : ∀ l ∈ (literals attributes o.callee source).filter
      fun l => gate o.minTokens l.value = none, l ∈ literals attributes o.callee source :=
    fun l hl => (List.mem_filter.mp hl).1
  obtain ⟨cs, hmap, hcs⟩ := exists_candidates hreg hlists
  refine ⟨cs, fun c => ⟨fun hmem => ?_, fun ⟨hcmem, hin, hgate⟩ => ?_⟩, ?_, ?_⟩
  · -- a chosen candidate has a class list that passes the gate
    have hl := hmap ▸ List.mem_map_of_mem (f := Candidate.literal) hmem
    exact ⟨(hcs c hmem).1, (hcs c hmem).2, of_decide_eq_true (List.mem_filter.mp hl).2⟩
  · -- a candidate with such a class list is the chosen one, as they are apart
    have hl : c.literal ∈ cs.map (·.literal) := by
      rw [hmap, List.mem_filter]
      exact ⟨(mem_literals_iff hc hreg.apart).mpr ⟨c, hcmem, hin, rfl⟩, decide_eq_true hgate⟩
    obtain ⟨d, hd, heq⟩ := List.mem_map.mp hl
    have hsame := hreg.apart.eq_of_start_eq hn hc (hcs d hd).1 hcmem (congrArg _ heq)
    exact hsame ▸ hd
  · have hpairwise := (pairwise_literals hn hc hreg.apart).filter
      fun l => gate o.minTokens l.value = none
    rw [← hmap, List.pairwise_map] at hpairwise
    exact hpairwise
  · rw [findings, ← hmap, List.map_map]
    rfl

/-- **What a fix leaves** is the source with the regrouped candidates taken away. -/
theorem moved_findings :
    ∃ cs : List Candidate,
      (∀ c, c ∈ cs ↔ c ∈ candidates (namesTried attributes) o.callee source ∧
        inTag source c.place = true ∧ gate o.minTokens c.found.value = none) ∧
      Moved (namesTried attributes) o.callee source
        (applyFindings source (findings o attributes source)) cs
        (moved (findings o attributes source)) := by
  have hn := isName_of_mem_namesTried hnames
  obtain ⟨cs, hcs, hpairwise, hfindings⟩ := exists_regrouped hnames hreg
  refine ⟨cs, hcs, ?_⟩
  have hstarts : (findings o attributes source).Pairwise fun f g => f.start < g.start := by
    rw [hfindings, List.pairwise_map]
    refine hpairwise.imp_of_mem fun {c d} hc _ hle => ?_
    have hlt := start_lt_stop_of_mem hn o.callee_identifier ((hcs c).mp hc).1
    exact Nat.lt_of_lt_of_le hlt.2.1 hle
  rw [applyFindings_eq_spliceAll hstarts, hfindings]
  exact moved_spliceAll hspliceable hnames hreg
    (fun c hc => ⟨((hcs c).mp hc).1, ((hcs c).mp hc).2.2⟩) hpairwise

/-- **What a second fix keeps.** The fixed text keeps all its class lists exactly if no class list
that passes the gate and was passed over stands in a tag there. -/
theorem keeps_fixed_iff :
    (∀ l ∈ literals attributes o.callee (applyFindings source (findings o attributes source)),
        gate o.minTokens l.value ≠ none)
      ↔ ∀ c ∈ candidates (namesTried attributes) o.callee source,
        gate o.minTokens c.found.value = none → inTag source c.place = false →
          inTag (applyFindings source (findings o attributes source))
            (moved (findings o attributes source) c.place) = false := by
  obtain ⟨cs, hcs, hmoved⟩ := moved_findings hspliceable hnames hreg
  simp only [mem_literals_iff o.callee_identifier hmoved.regular.apart]
  constructor
  · -- a candidate that was passed over is still there, as only those in tags are gone
    intro h c hcmem hgate hout
    by_contra hin
    have hgone : c ∉ cs := fun hmem => absurd hout (by simp [((hcs c).mp hmem).2.1])
    exact h _ ⟨_, (hmoved.mem_iff _).mpr ⟨c, hcmem, hgone, rfl⟩, by simpa using hin, rfl⟩ hgate
  · rintro h l ⟨c', hc', hin, rfl⟩ hgate
    obtain ⟨c, hcmem, hgone, rfl⟩ := (hmoved.mem_iff _).mp hc'
    -- a class list of the fixed text is one that was passed over, for the others are gone
    cases hout : inTag source c.place with
    | true => exact hgone ((hcs c).mpr ⟨hcmem, hout, hgate⟩)
    | false => exact absurd hin (by simp [h c hcmem hgate hout])

end Run

section Again

variable {o : Options} {attributes : List Text} {source text : Text} {n : Nat}

/-- **Nothing passed over, nothing left.** If all class lists that pass the gate stand in tags, a
second fix does nothing. -/
theorem fix_again_of_inTag (hnames : ∀ name ∈ attributes, IsName name)
    (hreg : Regular (namesTried attributes) o.callee source)
    (hin : ∀ c ∈ candidates (namesTried attributes) o.callee source,
      gate o.minTokens c.found.value = none → inTag source c.place = true)
    (hfix : fix o attributes source = .ok (text, n)) : fix o attributes text = .ok (text, 0) := by
  have hspliceable := spliceable_of_fix hfix
  rw [fix_eq hspliceable] at hfix
  obtain ⟨rfl, -⟩ := Prod.mk.inj (Except.ok.inj hfix)
  refine (fix_eq_self_iff hspliceable).mpr ((keeps_fixed_iff hspliceable hnames hreg).mpr ?_)
  intro c hcmem hgate hout
  exact absurd (hin c hcmem hgate) (by simp [hout])

/-- **Fixing twice.** In a regular source, a second fix does nothing exactly if no class list that
passes the gate and was passed over, since it did not stand in a tag, does so in the fixed text. -/
theorem fix_again_iff (hnames : ∀ name ∈ attributes, IsName name)
    (hreg : Regular (namesTried attributes) o.callee source)
    (hfix : fix o attributes source = .ok (text, n)) :
    fix o attributes text = .ok (text, 0)
      ↔ ∀ c ∈ candidates (namesTried attributes) o.callee source,
        gate o.minTokens c.found.value = none → inTag source c.place = false →
          inTag text (moved (findings o attributes source) c.place) = false := by
  have hspliceable := spliceable_of_fix hfix
  rw [fix_eq hspliceable] at hfix
  obtain ⟨rfl, -⟩ := Prod.mk.inj (Except.ok.inj hfix)
  rw [fix_eq_self_iff hspliceable]
  exact keeps_fixed_iff hspliceable hnames hreg

/-- A source with an apostrophe before its first class list. On the line of the second tag it counts
as the start of a string, until the first class list has been spread over lines. -/
def apostrophe : Text :=
  "<p\n  title=\"Don't\" className=\"mt-4 flex p-2 text-sm\"><b className=\"mt-4 flex p-2 text-sm\">hi</b></p>"

/-- The source with the apostrophe is regular, so the statement tells what a second fix does. -/
theorem fix_again_apostrophe :
    (∀ name ∈ defaultAttributes, IsName name) ∧
    Regular (namesTried defaultAttributes) ({} : Options).callee apostrophe ∧
    ∃ text n, fix {} defaultAttributes apostrophe = .ok (text, n) ∧
      (fix {} defaultAttributes text = .ok (text, 0)
        ↔ ∀ c ∈ candidates (namesTried defaultAttributes) ({} : Options).callee apostrophe,
          gate ({} : Options).minTokens c.found.value = none → inTag apostrophe c.place = false →
            inTag text (moved (findings {} defaultAttributes apostrophe) c.place) = false) := by
  have hnames : ∀ name ∈ defaultAttributes, IsName name := by decide +kernel
  have hreg : Regular (namesTried defaultAttributes) ({} : Options).callee apostrophe := by
    decide +kernel
  exact ⟨hnames, hreg, _, _, fix_eq rfl, fix_again_iff hnames hreg (fix_eq rfl)⟩

theorem fix_again_apostrophe_changes :
    ∃ text text', fix {} defaultAttributes apostrophe = .ok (text, 1) ∧
      fix {} defaultAttributes text = .ok (text', 1) := by
  have hfix {s : Text} (h : (findings {} defaultAttributes s).length = 1) :
      fix {} defaultAttributes s
        = .ok (applyFindings s (findings {} defaultAttributes s), 1) := by
    rw [fix_eq rfl, h]
  have hfirst : (findings {} defaultAttributes apostrophe).length = 1 := by decide +kernel
  have hsecond : (findings {} defaultAttributes (applyFindings apostrophe
      (findings {} defaultAttributes apostrophe))).length = 1 := by decide +kernel
  exact ⟨_, _, hfix hfirst, hfix hsecond⟩

end Again

end ClassGroups.Jsx
