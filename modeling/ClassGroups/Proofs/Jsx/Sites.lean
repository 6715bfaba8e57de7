import ClassGroups.Proofs.Decision

/-!
# What a report depends on

A report on a source shows where class lists would be regrouped, not what they would be replaced by:
this is the `Site` of a finding. All options flow through the formatting of every class list, with
the indentation of its line put in, but the sites of a source come down to `sites`, into which only
two of them enter: the callee, which tells class lists from other text, and the threshold, which is
part of the gate.

A higher threshold can only keep the gate from letting a class list through
(`gate_eq_none_iff_of_le`), so it thins out the sites and leaves their order (`sites_sublist`). The
main statement, `sites_of_threshold_and_callee`, compares two runs of the linter over one source.
-/

namespace ClassGroups

/-- What passes the gate under a higher threshold is what passes it under the lower one and has
tokens enough. -/
theorem gate_eq_none_iff_of_le {threshold threshold' : Nat} (hle : threshold ≤ threshold')
    (s : Text) :
    gate threshold' s = none ↔ gate threshold s = none ∧ threshold' ≤ (tokenize s).length := by
  rw [gate_eq_none_iff, gate_eq_none_iff]
  constructor
  · rintro ⟨hline, henough, hmixed⟩
    exact ⟨⟨hline, hle.trans henough, hmixed⟩, henough⟩
  · rintro ⟨⟨hline, -, hmixed⟩, henough⟩
    exact ⟨hline, henough, hmixed⟩

namespace Jsx

/-- **What a report says of a finding**: everything but its replacement. -/
structure Site where
  /-- The line where the part to be replaced starts. -/
  line : Nat
  /-- The column where it starts. -/
  column : Nat
  /-- The text of the warning. -/
  message : Text
  /-- The place where it starts. -/
  start : Nat
  /-- The place where it ends. -/
  stop : Nat
deriving DecidableEq, Repr

/-- The site of a finding. -/
def Finding.site (f : Finding) : Site := ⟨f.line, f.column, f.kind.message, f.start, f.stop⟩

/-- The site at which a class list would be reported. -/
def ClassLiteral.site (source : Text) (l : ClassLiteral) : Site :=
  ⟨Jsx.line source l.start, Jsx.column source l.start, l.kind.message, l.start, l.stop⟩

/-- The sites of a source, in terms of the threshold and the callee. -/
def sites (threshold : Nat) (callee : Text) (attributes : List Text) (source : Text) : List Site :=
  ((literals attributes callee source).filter fun l => gate threshold l.value = none).map
    (·.site source)

section Sites

variable {o o' : Options} {threshold threshold' : Nat} {callee source : Text}
  {attributes : List Text}

/-- **No other option** enters into the sites. -/
theorem map_site_findings (o : Options) (attributes : List Text) (source : Text) :
    (findings o attributes source).map (·.site) = sites o.minTokens o.callee attributes source := by
  rw [findings, List.map_map]
  rfl

theorem sites_sublist (hle : threshold ≤ threshold') :
    (sites threshold' callee attributes source).Sublist
      (sites threshold callee attributes source) := by
  refine List.Sublist.map _ (List.monotone_filter_right _ fun l hl => ?_)
  rw [decide_eq_true_eq] at hl ⊢
  exact ((gate_eq_none_iff_of_le hle l.value).mp hl).1

/-- A higher threshold drops the reports on class lists with less tokens, and no others. -/
theorem reports_iff_of_le (ho : o.format.spliceable = true) (ho' : o'.format.spliceable = true)
    (hcallee : o.callee = o'.callee) (hle : o.minTokens ≤ o'.minTokens) {l : ClassLiteral}
    (hl : l ∈ literals attributes o.callee source) :
    Reports o' attributes source l
      ↔ Reports o attributes source l ∧ o'.minTokens ≤ (tokenize l.value).length := by
  have hl' : l ∈ literals attributes o'.callee source := hcallee ▸ hl
  rw [reports_iff ho hl, reports_iff ho' hl', ← gate_eq_none_iff, ← gate_eq_none_iff]
  exact gate_eq_none_iff_of_le hle l.value

end Sites

/-- **The sites depend on the threshold and the callee** alone. Under two options with the same
callee, whose formats can stand in a source, linting succeeds for every source. With the same
threshold the findings have the same sites. With different ones the sites under the higher threshold
are those under the lower one without the class lists that have too few tokens for it. -/
theorem sites_of_threshold_and_callee {o o' : Options} (ho : o.format.spliceable = true)
    (ho' : o'.format.spliceable = true) (hcallee : o.callee = o'.callee) (attributes : List Text)
    (source : Text) :
    ∃ fs fs', lint o attributes source = .ok fs ∧ lint o' attributes source = .ok fs' ∧
      (o.minTokens = o'.minTokens → fs.map (·.site) = fs'.map (·.site)) ∧
      (o.minTokens ≤ o'.minTokens → (fs'.map (·.site)).Sublist (fs.map (·.site)) ∧
        ∀ l ∈ literals attributes o.callee source, Reports o' attributes source l
          ↔ Reports o attributes source l ∧ o'.minTokens ≤ (tokenize l.value).length) := by
  refine ⟨_, _, lint_eq ho, lint_eq ho', fun hthreshold => ?_, fun hle => ⟨?_, fun l hl => ?_⟩⟩
  · rw [map_site_findings, map_site_findings, hthreshold, hcallee]
  · rw [map_site_findings, map_site_findings, hcallee]
    exact sites_sublist hle
  · exact reports_iff_of_le ho ho' hcallee hle hl

/-- A tag with a class list of four tokens and one of five. -/
def twoLengths : Text := "<a class='mt-4 flex p-2 text-sm'\n className='mt-4 flex p-2 text-sm h-1'>"

theorem sites_of_threshold_and_callee_twoLengths :
    ({} : Options).format.spliceable = true ∧
    ({ format := .array, minTokens := 5 } : Options).format.spliceable = true ∧
    ∃ fs fs', lint {} defaultAttributes twoLengths = .ok fs ∧
      lint { format := .array, minTokens := 5 } defaultAttributes twoLengths = .ok fs' ∧
      (fs'.map (·.site)).Sublist (fs.map (·.site)) ∧
      fs.map (·.site) = [⟨1, 10, LiteralKind.message .attributeValue, 9, 32⟩,
        ⟨2, 12, LiteralKind.message .attributeValue, 44, 71⟩] := by
  have ho : ({} : Options).format.spliceable = true := rfl
  have ho' : ({ format := .array, minTokens := 5 } : Options).format.spliceable = true := rfl
  obtain ⟨fs, fs', hlint, hlint', -, hle⟩ :=
    sites_of_threshold_and_callee ho ho' rfl defaultAttributes twoLengths
  have hreported : (reported (namesTried defaultAttributes) "clsx" twoLengths).map (·.literal)
      = [⟨.attributeValue, 9, 32, "mt-4 flex p-2 text-sm"⟩,
        ⟨.attributeValue, 44, 71, "mt-4 flex p-2 text-sm h-1"⟩] := by decide +kernel
  have hliterals : literals defaultAttributes "clsx" twoLengths = _ :=
    literals_eq_of_pairwise (by rw [hreported]; decide)
  -- both class lists pass the gate of the default
  have hsites : sites 4 "clsx" defaultAttributes twoLengths
      = [⟨1, 10, LiteralKind.message .attributeValue, 9, 32⟩,
        ⟨2, 12, LiteralKind.message .attributeValue, 44, 71⟩] := by
    rw [sites, hliterals, hreported]
    decide +kernel
  obtain rfl := Except.ok.inj ((lint_eq ho).symm.trans hlint)
  refine ⟨ho, ho', _, fs', hlint, hlint', (hle (by decide)).1, ?_⟩
  exact (map_site_findings {} defaultAttributes twoLengths).trans hsites

end Jsx

end ClassGroups
