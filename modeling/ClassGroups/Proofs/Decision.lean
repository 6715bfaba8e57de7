import ClassGroups.Html.Audit
import ClassGroups.Proofs.CommandLine
import ClassGroups.Proofs.Definitions
import ClassGroups.Proofs.Jsx.Findings
import ClassGroups.Proofs.Jsx.Scans
import ClassGroups.Proofs.Tokens

/-!
# One decision for all front ends

A class list reaches the gate by several routes. Formatting goes straight to it. The linter formats
every class list of a source under options of its own, with the indentation of the line. The audit
has a blank test in front of the gate. The command line looks only at whether a formatting has
changed its input. `WorthGrouping` says without any of them which class lists are regrouped, and the
main statement, `agreement`, is that each front end takes this decision:

* `gate_eq_none_iff` — the gate;
* `changed_iff_worthGrouping`, `text_ne_iff`, `grouping_ne_nil_iff` — the three traces that a
  formatting leaves;
* `Jsx.reports_iff` — the linter, for a class list at any place of any source;
* `Html.auditElement?_eq` — the audit, for any element of any document;
* `Command.run_check` — the exit status of a check.
-/

namespace ClassGroups

/-- **A class list is worth grouping** under a threshold. -/
structure WorthGrouping (threshold : Nat) (s : Text) : Prop where
  /-- It stands on one line. -/
  oneLine : '\n' ∉ s
  /-- It has enough tokens. -/
  enough : threshold ≤ (tokenize s).length
  /-- Two of its tokens have different categories. -/
  mixed : ∃ t ∈ tokenize s, ∃ u ∈ tokenize s, classify t ≠ classify u

/-! ### The gate -/

section Gate

variable {threshold : Nat} {s : Text}

/-- A class list has two groups as soon as two of its tokens differ in their categories. -/
theorem two_le_length_group_iff :
    2 ≤ (group s).length ↔ ∃ t ∈ tokenize s, ∃ u ∈ tokenize s, classify t ≠ classify u := by
  have hpart := isPartition_groupTokens (tokenize s)
  constructor
  · intro h
    -- the first two groups have different categories, and each of them has a token
    obtain ⟨a, b, rest, hab⟩ : ∃ a b rest, group s = a :: b :: rest := by
      match hg : group s with
      | [] => simp [hg] at h
      | [_] => simp [hg] at h
      | a :: b :: rest => exact ⟨a, b, rest, rfl⟩
    have ha : a ∈ group s := hab ▸ List.mem_cons_self
    have hb : b ∈ group s := hab ▸ List.mem_cons_of_mem a List.mem_cons_self
    have hne : a.category ≠ b.category := by
      have hnodup : ((group s).map (·.category)).Nodup := hpart.distinct
      rw [hab, List.map_cons, List.map_cons, List.nodup_cons] at hnodup
      intro heq
      exact hnodup.1 (heq ▸ List.mem_cons_self)
    obtain ⟨t, ht, htc⟩ := hpart.mem_categories_iff.mp (List.mem_map_of_mem ha)
    obtain ⟨u, hu, huc⟩ := hpart.mem_categories_iff.mp (List.mem_map_of_mem hb)
    refine ⟨t, ht, u, hu, ?_⟩
    rw [htc, huc]
    exact hne
  · rintro ⟨t, ht, u, hu, hne⟩
    -- with less than two groups both tokens would be in the same one
    have htc : classify t ∈ (group s).map (·.category) :=
      hpart.mem_categories_iff.mpr ⟨t, ht, rfl⟩
    have huc : classify u ∈ (group s).map (·.category) :=
      hpart.mem_categories_iff.mpr ⟨u, hu, rfl⟩
    match hg : group s with
    | [] =>
      rw [hg] at htc
      exact absurd htc List.not_mem_nil
    | [a] =>
      rw [hg, List.map_singleton, List.mem_singleton] at htc huc
      exact absurd (htc.trans huc.symm) hne
    | a :: b :: rest =>
      rw [List.length_cons, List.length_cons]
      exact Nat.le_add_left 2 _

/-- **The gate** lets through what is worth grouping. -/
theorem gate_eq_none_iff : gate threshold s = none ↔ WorthGrouping threshold s := by
  unfold gate
  constructor
  · intro h
    split at h
    · exact absurd h (by simp)
    · next hshort =>
      split at h
      · exact absurd h (by simp)
      · next hline =>
        split at h
        · exact absurd h (by simp)
        · next hsingle =>
          exact ⟨hline, Nat.le_of_not_lt hshort,
            two_le_length_group_iff.mp (Nat.lt_of_not_le hsingle)⟩
  · intro h
    have hlength : 2 ≤ (group s).length := two_le_length_group_iff.mpr h.mixed
    rw [if_neg (Nat.not_lt.mpr h.enough), if_neg h.oneLine, if_neg (Nat.not_le.mpr hlength)]

/-- What is worth grouping has tokens, so it is not blank. -/
theorem WorthGrouping.not_blank (h : WorthGrouping threshold s) : ¬Text.Blank s := by
  intro hblank
  obtain ⟨t, ht, -⟩ := h.mixed
  have hnil : tokenize (s ++ []) = tokenize [] := tokenize_append_of_blank hblank []
  rw [List.append_nil] at hnil
  rw [hnil] at ht
  exact absurd ht List.not_mem_nil

end Gate

/-! ### Formatting -/

section Format

variable {o : Options} {s : Text}

theorem changed_iff_worthGrouping :
    (format o s).changed = true ↔ WorthGrouping o.minTokens s :=
  changed_iff.trans gate_eq_none_iff

/-- A text that was rewritten is never the text that it was made from. -/
theorem text_ne_iff : (format o s).text ≠ s ↔ WorthGrouping o.minTokens s := by
  rw [← changed_iff_worthGrouping]
  constructor
  · intro hne
    by_contra hc
    exact hne (text_of_not_changed (Bool.eq_false_iff.mpr hc))
  · intro hc heq
    -- what was written would be changed again, but it is settled
    have hsettled : Settled (format o s).text := settled_of_changed hc
    rw [heq] at hsettled
    exact absurd (hsettled o) (by simp [hc])

/-- Without a change there is no grouping, and with one it is the grouping of the input. -/
theorem grouping_format (o : Options) (s : Text) :
    (format o s).grouping = if gate o.minTokens s = none then group s else [] := by
  unfold format
  cases hgate : gate o.minTokens s with
  | none => rfl
  | some reason => rfl

theorem grouping_ne_nil_iff : (format o s).grouping ≠ [] ↔ WorthGrouping o.minTokens s := by
  rw [grouping_format, ← gate_eq_none_iff]
  constructor
  · intro hne
    by_contra hgate
    exact hne (if_neg hgate)
  · intro hgate hnil
    rw [if_pos hgate] at hnil
    have h2 : 2 ≤ (group s).length := two_le_length_of_gate_eq_none hgate
    rw [hnil] at h2
    exact absurd h2 (by decide)

end Format

/-! ### The linter -/

namespace Jsx

/-- **A class list is reported**: linting succeeds, and one of its findings is of the same shape and
replaces the same part of the source. -/
def Reports (o : Options) (attributes : List Text) (source : Text) (l : ClassLiteral) : Prop :=
  ∃ fs, lint o attributes source = .ok fs ∧
    ∃ f ∈ fs, f.kind = l.kind ∧ f.start = l.start ∧ f.stop = l.stop

section Lint

variable {o : Options} {attributes : List Text} {callee source : Text} {l l' : ClassLiteral}

/-- No two class lists of one shape start at the same place. -/
theorem eq_of_kind_eq_of_start_eq (hc : isIdentifier callee = true)
    (hl : l ∈ literals attributes callee source) (hl' : l' ∈ literals attributes callee source)
    (hkind : l.kind = l'.kind) (hstart : l.start = l'.start) : l = l' := by
  obtain ⟨c, hcmem, rfl⟩ := mem_literals_iff_reported.mp hl
  obtain ⟨d, hdmem, rfl⟩ := mem_literals_iff_reported.mp hl'
  have hcs := (mem_reported_iff.mp hcmem).1
  have hds := (mem_reported_iff.mp hdmem).1
  have hcp := place_lt_start_of_mem_scanned hc hcs
  have hdp := place_lt_start_of_mem_scanned hc hds
  -- otherwise one of them would end before the name of the other
  rcases eq_or_stop_le_of_kind_eq hcs hds hkind with rfl | hle | hle
  · rfl
  · exact absurd hstart (by omega)
  · exact absurd hstart (by omega)

/-- **The linter reports** the class lists that are worth grouping, wherever they stand. -/
theorem reports_iff (hformat : o.format.spliceable = true)
    (hl : l ∈ literals attributes o.callee source) :
    Reports o attributes source l ↔ WorthGrouping o.minTokens l.value := by
  rw [← gate_eq_none_iff]
  unfold Reports
  rw [lint_eq hformat]
  constructor
  · rintro ⟨fs, hfs, f, hf, hkind, hstart, -⟩
    obtain rfl := Except.ok.inj hfs
    obtain ⟨l', hl', rfl⟩ := List.mem_map.mp hf
    obtain ⟨hmem, hgate⟩ := List.mem_filter.mp hl'
    -- the finding was made for `l` itself
    obtain rfl : l' = l := eq_of_kind_eq_of_start_eq o.callee_identifier hmem hl hkind hstart
    exact of_decide_eq_true hgate
  · intro hgate
    refine ⟨_, rfl, findingFor o source l, ?_, rfl, rfl, rfl⟩
    exact List.mem_map_of_mem (List.mem_filter.mpr ⟨hl, decide_eq_true hgate⟩)

end Lint

end Jsx

/-! ### The audit -/

namespace Html

variable {threshold : Nat} {all : List Element} {e : Element} {c : Text}

/-- **The audit of an element** follows the gate: its own test for blank class lists never decides,
as these have no two tokens anyway. -/
theorem auditElement?_eq (he : e.classes? = some c) (i : Nat) :
    auditElement? threshold e i
      = if gate threshold c = none then some ⟨e.tag, i, c, group c⟩ else none := by
  unfold auditElement? Element.classList?
  rw [he, Option.filter_some]
  by_cases hblank : Text.Blank c
  · have hgate : gate threshold c ≠ none := fun h => (gate_eq_none_iff.mp h).not_blank hblank
    rw [if_neg (by simp [hblank]), if_neg hgate]
    rfl
  · rw [if_pos (by simpa using hblank)]
    show (if (gate threshold c).isNone = true then some () else none).bind _ = _
    cases gate threshold c with
    | none => rfl
    | some reason => rfl

/-- The report on an element stands under its place. -/
theorem mem_auditElements_iff {a : AuditedElement} :
    a ∈ auditElements threshold all
      ↔ ∃ i e, all[i]? = some e ∧ auditElement? threshold e i = some a := by
  unfold auditElements
  rw [List.mem_filterMap]
  constructor
  · rintro ⟨⟨e, i⟩, hmem, ha⟩
    exact ⟨i, e, List.mk_mem_zipIdx_iff_getElem?.mp hmem, ha⟩
  · rintro ⟨i, e, hmem, ha⟩
    exact ⟨(e, i), List.mk_mem_zipIdx_iff_getElem?.mpr hmem, ha⟩

theorem index_of_auditElement? {i : Nat} {a : AuditedElement}
    (h : auditElement? threshold e i = some a) : a.index = i := by
  unfold auditElement? at h
  obtain ⟨classes, -, h⟩ := Option.bind_eq_some_iff.mp h
  obtain ⟨-, -, h⟩ := Option.bind_eq_some_iff.mp h
  rw [← Option.some.inj h]

/-- **What the audit lists for an element** of a document: nothing, or its tag, its place, its class
list and the groups of its class list. -/
theorem mem_auditElements_index_iff {i : Nat} (hi : all[i]? = some e)
    (he : e.classes? = some c) {a : AuditedElement} :
    a ∈ auditElements threshold all ∧ a.index = i
      ↔ WorthGrouping threshold c ∧ a = ⟨e.tag, i, c, group c⟩ := by
  rw [mem_auditElements_iff, ← gate_eq_none_iff]
  constructor
  · rintro ⟨⟨j, e', hj, ha⟩, hindex⟩
    -- the report is on the element at its place, which is `e`
    obtain rfl : j = i := (index_of_auditElement? ha).symm.trans hindex
    obtain rfl : e' = e := Option.some.inj (hj.symm.trans hi)
    rw [auditElement?_eq he] at ha
    split at ha
    · next hgate => exact ⟨hgate, (Option.some.inj ha).symm⟩
    · exact absurd ha (by simp)
  · rintro ⟨hgate, rfl⟩
    refine ⟨⟨i, e, hi, ?_⟩, rfl⟩
    rw [auditElement?_eq he, if_pos hgate]

end Html

/-! ### The command line -/

namespace Command

open Arguments

/-- **A check of a class list** under a threshold: the command line asks only whether the class list
would change, and the options that it and the environment describe are admissible. -/
def Checks (arguments : List Text) (env : Environment) (definitions input : Text)
    (threshold : Nat) (c : Text) : Prop :=
  ∃ env' p o, env.withDefinitions definitions = .ok env' ∧
    parseLine arguments = .ok (.format, p) ∧ p.has "--check" = true ∧
    optionsOf env' p renderFields = .ok o ∧ o.minTokens = threshold ∧
    classSource p (Text.normalizeNewlines input) = c

section Check

variable {arguments : List Text} {env env' : Environment} {definitions input c : Text}
  {threshold : Nat}

/-- **A check prints nothing** and ends with an exit status that tells what is worth grouping. -/
theorem run_check (h : Checks arguments env definitions input threshold c) :
    (run arguments env definitions input).output = [] ∧
    (run arguments env definitions input).fault? = none ∧
    (run arguments env definitions input).status = if gate threshold c = none then 1 else 0 := by
  obtain ⟨env', p, o, henv, hline, hcheck, hoptions, rfl, rfl⟩ := h
  rw [run_format henv hline hoptions, runFormat, if_pos hcheck]
  refine ⟨rfl, rfl, ?_⟩
  change (if (format o _).changed = true then 1 else 0) = _
  by_cases hgate : gate o.minTokens (classSource p (Text.normalizeNewlines input)) = none
  · rw [if_pos (changed_iff.mpr hgate), if_pos hgate]
  · rw [if_neg (fun hc => hgate (changed_iff.mp hc)), if_neg hgate]

/-- **Every class list can be checked**, also one that looks like an option: it is the only operand,
behind the separator. -/
theorem parseLine_check (c : Text) :
    parseLine ["format", "--check", "--", c]
      = .ok (.format, { values := [("--check", .given)], operands := some [c] }) := by
  have htop : programGrammar.readAll ["--check", "--", c]
      = .ok [("--check", .unknown), ("--", .separator), (c, .operand)] := rfl
  -- the command sees a flag and a row of operands
  have hbelow : formatGrammar.parseKnown ["--check", "--", c]
      = .ok { values := [("--check", .given)], operands := some [c] } := by
    have hread : formatGrammar.readAll ["--check", "--", c]
        = .ok [("--check", .option ⟨"--check", .flag⟩ none), ("--", .separator),
          (c, .operand)] := rfl
    refine parseKnown_eq hread ?_ rfl
    rw [act_cons_of_flag, act_cons_of_row rfl (by simp [isOperand]) rfl (by rintro _ _ ⟨⟩)]
    rfl
  exact parseLine_eq (by decide) htop hbelow rfl

/-- The options for such a check come from the environment alone. -/
theorem checks_operand {o : Options} (henv : env.withDefinitions definitions = .ok env')
    (hoptions : optionsOf env' {} renderFields = .ok o) (c : Text) :
    Checks ["format", "--check", "--", c] env definitions input o.minTokens c := by
  refine ⟨env', _, o, henv, parseLine_check c, rfl, hoptions, rfl, ?_⟩
  change Text.intercalate " " [c] = c
  exact List.intercalate_singleton

end Check

end Command

/-! ### All of them -/

open Jsx Html in
/-- **The front ends agree** on a class list under options if each of them takes it for worth
grouping exactly when it is. -/
structure Agreement (o : Options) (s : Text) : Prop where
  /-- The gate has no reason to leave it alone. -/
  passed : gate o.minTokens s = none ↔ WorthGrouping o.minTokens s
  /-- Formatting says that it has changed. -/
  changed : (format o s).changed = true ↔ WorthGrouping o.minTokens s
  /-- Formatting returns another text. -/
  rewritten : (format o s).text ≠ s ↔ WorthGrouping o.minTokens s
  /-- Formatting returns a grouping. -/
  grouped : (format o s).grouping ≠ [] ↔ WorthGrouping o.minTokens s
  /-- The linter reports it, wherever it stands in a source. -/
  reported : o.format.spliceable = true → ∀ attributes source l,
    l ∈ literals attributes o.callee source → l.value = s →
      (Reports o attributes source l ↔ WorthGrouping o.minTokens s)
  /-- The audit lists an element that has it, with the grouping that formatting returns. -/
  audited : ∀ (all : List Element) (i : Nat) (e : Element), all[i]? = some e →
    e.classes? = some s →
      ((∃ a ∈ auditElements o.minTokens all, a.index = i) ↔ WorthGrouping o.minTokens s) ∧
      ∀ a ∈ auditElements o.minTokens all, a.index = i →
        a.toJson = .dict [("tag", .text e.tag), ("index", .int i), ("classes", .text s),
          ("groups", (format o s).grouping.toJson)]
  /-- A check of it prints nothing, and its exit status tells. -/
  checked : ∀ arguments env definitions input,
    Command.Checks arguments env definitions input o.minTokens s →
      (Command.run arguments env definitions input).output = [] ∧
      (Command.run arguments env definitions input).fault? = none ∧
      ((Command.run arguments env definitions input).status = 1 ↔ WorthGrouping o.minTokens s) ∧
      ((Command.run arguments env definitions input).status = 0 ↔ ¬WorthGrouping o.minTokens s)

/-- **All front ends take the same decision**, under all options and for every class list. -/
theorem agreement (o : Options) (s : Text) : Agreement o s where
  passed := gate_eq_none_iff
  changed := changed_iff_worthGrouping
  rewritten := text_ne_iff
  grouped := grouping_ne_nil_iff
  reported := by
    rintro hformat attributes source l hl rfl
    exact Jsx.reports_iff hformat hl
  audited := by
    intro all i e hi he
    have hmem (a : Html.AuditedElement) :
        a ∈ Html.auditElements o.minTokens all ∧ a.index = i
          ↔ WorthGrouping o.minTokens s ∧ a = ⟨e.tag, i, s, group s⟩ :=
      Html.mem_auditElements_index_iff hi he
    refine ⟨⟨?_, ?_⟩, ?_⟩
    · rintro ⟨a, ha, hindex⟩
      exact ((hmem a).mp ⟨ha, hindex⟩).1
    · intro hworth
      exact ⟨_, (hmem _).mpr ⟨hworth, rfl⟩⟩
    · intro a ha hindex
      obtain ⟨hworth, rfl⟩ := (hmem a).mp ⟨ha, hindex⟩
      rw [grouping_format, if_pos (gate_eq_none_iff.mpr hworth)]
      rfl
  checked := by
    intro arguments env definitions input h
    obtain ⟨houtput, hfault, hstatus⟩ := Command.run_check h
    rw [← gate_eq_none_iff, hstatus]
    refine ⟨houtput, hfault, ?_, ?_⟩
    · by_cases hgate : gate o.minTokens s = none <;> simp [hgate]
    · by_cases hgate : gate o.minTokens s = none <;> simp [hgate]

/-- A class list that is worth grouping. -/
def mixedList : Text := "mt-4 flex p-2 text-sm"

/-- A source with the class list in a call. -/
def mixedSource : Text := "<p className=\x7bclsx('mt-4 flex p-2 text-sm')\x7d />"

theorem agreement_mixedList :
    WorthGrouping ({} : Options).minTokens mixedList ∧
    (∃ l ∈ Jsx.literals Jsx.defaultAttributes ({} : Options).callee mixedSource,
      l.value = mixedList ∧ Jsx.Reports {} Jsx.defaultAttributes mixedSource l) ∧
    (∃ a ∈ Html.auditElements ({} : Options).minTokens [⟨"p", []⟩, ⟨"b", [("class", mixedList)]⟩],
      a.index = 1) ∧
    (Command.run ["format", "--check", "--", mixedList] [] [] []).status = 1 := by
  have hall : Agreement {} mixedList := agreement {} mixedList
  have hworth : WorthGrouping ({} : Options).minTokens mixedList :=
    hall.passed.mp (by decide +kernel)
  have hreported : (Jsx.reported (Jsx.namesTried Jsx.defaultAttributes) ({} : Options).callee
      mixedSource).map (·.literal) = [⟨.helperCall, 14, 43, mixedList⟩] := by decide +kernel
  have hliterals : Jsx.literals Jsx.defaultAttributes ({} : Options).callee mixedSource
      = [⟨.helperCall, 14, 43, mixedList⟩] := by
    rw [← hreported]
    exact Jsx.literals_eq_of_pairwise (by rw [hreported]; decide)
  refine ⟨hworth, ⟨_, hliterals ▸ List.mem_cons_self, rfl, ?_⟩, ?_, ?_⟩
  · exact (hall.reported rfl _ _ _ (hliterals ▸ List.mem_cons_self) rfl).mpr hworth
  · exact (hall.audited _ 1 ⟨"b", [("class", mixedList)]⟩ rfl rfl).1.mpr hworth
  · have henv : Environment.withDefinitions [] [] = .ok [] := Environment.withDefinitions_nil []
    have hoptions : Command.optionsOf [] {} Command.renderFields = .ok {} := rfl
    exact (hall.checked _ _ _ _
      (Command.checks_operand henv hoptions mixedList)).2.2.1.mpr hworth

end ClassGroups
