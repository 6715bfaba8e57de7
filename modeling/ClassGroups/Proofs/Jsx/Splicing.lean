import ClassGroups.Proofs.Jsx.Findings
import ClassGroups.Proofs.Jsx.Scans

/-!
# The splice is exact

A fix works on the text from the last finding to the first, with places that were taken from the
source. `weave` puts the same text together from left to right: the source up to a finding, what
replaces it, and so on from the end of the finding. The main statement, `fix_eq_weave`, is that the
two agree as long as no two findings overlap. With the findings that replace nothing, `weave` gives
the source back, so the characters outside of the findings are kept in their order.

The invariant of the run of splices is `spliceAll_eq_weave`: what stands before the findings that
have been put in is still the source, so that the places of the next one, which lie there, are
right.
-/

namespace ClassGroups.Jsx

/-- The part of a source between two places. -/
def part (source : Text) (start stop : Nat) : Text := (source.take stop).drop start

/-- **The source with its replacements**, from a place on and from left to right. -/
def weave (source : Text) (place : Nat) : List Finding → Text
  | [] => source.drop place
  | f :: fs => part source place f.start ++ (f.replacement ++ weave source f.stop fs)

/-- The finding with what it replaces as its replacement. -/
def Finding.unchanged (source : Text) (f : Finding) : Finding :=
  { f with replacement := part source f.start f.stop }

/-! ### Parts of a source -/

section Part

variable {source : Text} {start stop : Nat}

theorem take_append_part (h : start ≤ stop) :
    source.take start ++ part source start stop = source.take stop := by
  have htake : source.take start = (source.take stop).take start := by
    rw [List.take_take, Nat.min_eq_left h]
  rw [part, htake, List.take_append_drop]

theorem part_append_drop (h : start ≤ stop) :
    part source start stop ++ source.drop stop = source.drop start := by
  have hdrop : source.drop stop = (source.drop start).drop (stop - start) := by
    rw [List.drop_drop, Nat.add_sub_cancel' h]
  rw [part, List.drop_take, hdrop, List.take_append_drop]

/-- What a match replaces is the part of the source between the places that it gives. -/
theorem part_eq_replaced {names : List Text} {callee : Text} {kind : LiteralKind} {place : Nat}
    (m : Match names callee kind) (h : StandsAt source place m.text) :
    part source (place + m.occurrence.start) (place + m.occurrence.stop) = m.replaced := by
  have hstart : place + m.occurrence.start = place + m.head.length + m.before.length := by
    simp only [Match.occurrence]
    omega
  have hstop : place + m.occurrence.stop
      = place + m.head.length + m.before.length + m.replaced.length := by
    simp only [Match.occurrence]
    omega
  rw [Match.text, Match.body] at h
  rw [hstart, hstop]
  exact h.right.right.left.take_drop_eq

end Part

/-! ### A run of splices -/

section Run

variable {source : Text} {fs : List Finding}

/-- **All splices** leave what stands before the findings as it is and weave the rest. -/
theorem spliceAll_eq_weave (hwithin : ∀ f ∈ fs, f.start ≤ f.stop ∧ f.stop ≤ source.length)
    (hordered : fs.Pairwise fun f g => f.stop ≤ g.start) {place : Nat}
    (hplace : ∀ f ∈ fs, place ≤ f.start) :
    spliceAll source fs = source.take place ++ weave source place fs := by
  induction fs generalizing place with
  | nil => exact (List.take_append_drop place source).symm
  | cons f fs ih =>
    obtain ⟨hnext, hrest⟩ := List.pairwise_cons.mp hordered
    obtain ⟨hle, hlength⟩ := hwithin f List.mem_cons_self
    -- the findings behind `f` are in, and up to the end of `f` there is still the source
    have hafter := ih (fun g hg => hwithin g (List.mem_cons_of_mem f hg)) hrest hnext
    have hkept : (source.take f.stop).length = f.stop := List.length_take_of_le hlength
    have htake : (source.take f.stop ++ weave source f.stop fs).take f.start
        = source.take f.start := by
      rw [List.take_append_of_le_length (by omega), List.take_take, Nat.min_eq_left hle]
    have hdrop : (source.take f.stop ++ weave source f.stop fs).drop f.stop
        = weave source f.stop fs := List.drop_left' hkept
    calc spliceAll source (f :: fs) = splice (spliceAll source fs) f := rfl
      _ = source.take f.start ++ f.replacement ++ weave source f.stop fs := by
        rw [hafter, splice, htake, hdrop]
      _ = source.take place ++ weave source place (f :: fs) := by
        rw [← take_append_part (hplace f List.mem_cons_self), weave, List.append_assoc,
          List.append_assoc]

/-- The parts between the findings and the findings themselves make up the source. -/
theorem weave_unchanged (hwithin : ∀ f ∈ fs, f.start ≤ f.stop)
    (hordered : fs.Pairwise fun f g => f.stop ≤ g.start) {place : Nat}
    (hplace : ∀ f ∈ fs, place ≤ f.start) :
    weave source place (fs.map (·.unchanged source)) = source.drop place := by
  induction fs generalizing place with
  | nil => rfl
  | cons f fs ih =>
    obtain ⟨hnext, hrest⟩ := List.pairwise_cons.mp hordered
    have hafter := ih (fun g hg => hwithin g (List.mem_cons_of_mem f hg)) hrest hnext
    calc weave source place ((f :: fs).map (·.unchanged source))
        = part source place f.start ++
            (part source f.start f.stop ++ weave source f.stop (fs.map (·.unchanged source))) := rfl
      _ = part source place f.start ++ source.drop f.start := by
        rw [hafter, part_append_drop (hwithin f List.mem_cons_self)]
      _ = source.drop place := part_append_drop (hplace f List.mem_cons_self)

end Run

/-! ### The findings of a source -/

section Findings

variable {o : Options} {attributes : List Text} {source : Text}

theorem start_lt_stop_of_mem_findings {f : Finding} (h : f ∈ findings o attributes source) :
    f.start < f.stop ∧ f.stop ≤ source.length := by
  obtain ⟨l, hl, rfl⟩ := List.mem_map.mp h
  exact start_lt_stop_of_mem_literals o.callee_identifier (List.mem_filter.mp hl).1

theorem pairwise_findings :
    (findings o attributes source).Pairwise fun f g => f.start ≤ g.start :=
  List.Pairwise.map _ (fun _ _ h => h) (pairwise_start_le.filter _)

/-- Findings that do not overlap follow each other, as they are listed by their starts. -/
theorem pairwise_stop_le_of_disjoint (h : (findings o attributes source).Pairwise
      fun f g => f.stop ≤ g.start ∨ g.stop ≤ f.start) :
    (findings o attributes source).Pairwise fun f g => f.stop ≤ g.start := by
  refine (pairwise_findings.and h).imp_of_mem ?_
  rintro f g - hg ⟨hle, hstop | hstop⟩
  · exact hstop
  · have hlt := (start_lt_stop_of_mem_findings hg).1
    omega

/-- **The splice is exact.** If the findings of a source do not overlap, they follow each other, and
a fix leaves the source with each of them replaced and nothing else changed. -/
theorem fix_eq_weave (hformat : o.format.spliceable = true)
    (hdisjoint : (findings o attributes source).Pairwise
      fun f g => f.stop ≤ g.start ∨ g.stop ≤ f.start) :
    lint o attributes source = .ok (findings o attributes source) ∧
    ((findings o attributes source).Pairwise fun f g => f.stop ≤ g.start) ∧
    fix o attributes source
      = .ok (weave source 0 (findings o attributes source),
          (findings o attributes source).length) ∧
    weave source 0 ((findings o attributes source).map (·.unchanged source)) = source := by
  have hordered := pairwise_stop_le_of_disjoint hdisjoint
  have hwithin : ∀ f ∈ findings o attributes source, f.start ≤ f.stop ∧ f.stop ≤ source.length :=
    fun f hf => (start_lt_stop_of_mem_findings hf).imp_left Nat.le_of_lt
  have hplace : ∀ f ∈ findings o attributes source, 0 ≤ f.start := fun f _ => Nat.zero_le _
  refine ⟨lint_eq hformat, hordered, ?_, weave_unchanged (fun f hf => (hwithin f hf).1) hordered
    hplace⟩
  have hstarts : (findings o attributes source).Pairwise fun f g => f.start < g.start :=
    hordered.imp_of_mem fun hf _ hle =>
      Nat.lt_of_lt_of_le (start_lt_stop_of_mem_findings hf).1 hle
  rw [fix_eq hformat, applyFindings_eq_spliceAll hstarts,
    spliceAll_eq_weave hwithin hordered hplace, List.take_zero, List.nil_append]

/-- A source with a value and a call that are both regrouped. -/
def twoLists : Text :=
  "<p className=\"mt-4 flex p-2 text-sm\"><b className=\x7bclsx('p-4 flex m-1 w-2')\x7d /></p>"

theorem fix_eq_weave_twoLists :
    ({} : Options).format.spliceable = true ∧
    ((findings {} defaultAttributes twoLists).Pairwise
      fun f g => f.stop ≤ g.start ∨ g.stop ≤ f.start) ∧
    (findings {} defaultAttributes twoLists).length = 2 ∧
    fix {} defaultAttributes twoLists
      = .ok (weave twoLists 0 (findings {} defaultAttributes twoLists), 2) := by
  have hreported : (reported (namesTried defaultAttributes) ({} : Options).callee twoLists).map
      (·.literal) = [⟨.attributeValue, 13, 36, "mt-4 flex p-2 text-sm"⟩,
        ⟨.helperCall, 51, 75, "p-4 flex m-1 w-2"⟩] := by decide +kernel
  have hliterals : literals defaultAttributes ({} : Options).callee twoLists = _ :=
    literals_eq_of_pairwise (by rw [hreported]; decide)
  -- both class lists pass the gate
  have hfindings : findings {} defaultAttributes twoLists
      = [findingFor {} twoLists ⟨.attributeValue, 13, 36, "mt-4 flex p-2 text-sm"⟩,
        findingFor {} twoLists ⟨.helperCall, 51, 75, "p-4 flex m-1 w-2"⟩] := by
    rw [findings, hliterals, hreported, List.filter_eq_self.mpr (by decide +kernel)]
    rfl
  have hdisjoint : (findings {} defaultAttributes twoLists).Pairwise
      fun f g => f.stop ≤ g.start ∨ g.stop ≤ f.start := by
    rw [hfindings]
    exact List.pairwise_pair.mpr (Or.inl (by decide))
  have hlength : (findings {} defaultAttributes twoLists).length = 2 := by
    rw [hfindings]
    rfl
  refine ⟨rfl, hdisjoint, hlength, ?_⟩
  rw [(fix_eq_weave rfl hdisjoint).2.2.1, hlength]

end Findings

end ClassGroups.Jsx
