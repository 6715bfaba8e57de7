import ClassGroups.Jsx.Lint
import ClassGroups.Proofs.Jsx.Candidates
import ClassGroups.Proofs.Settled
import Mathlib.Data.List.Pairwise
import Mathlib.Tactic.ByContra

/-!
# Findings

The linter works in a monad, since each class list is formatted under options of its own: their
indentation is that of the line on which the list starts. This indentation is white space, so the
options are always admissible, and linting fails only on a format that cannot stand in a source
(`lint_eq`). What it returns is a list that can be named: `findings`.

A fix puts the replacements in from the last to the first. If the findings stand in the order of the
source, this is a run of splices over their list (`applyFindings_eq_spliceAll`), so that what holds
of one splice can be carried through all of them by induction.
-/

namespace ClassGroups.Jsx

/-- The options for a place of a source. -/
def placed (o : Options) (source : Text) (place : Nat) : Options :=
  { o with
    baseIndent := lineIndent source place
    baseIndent_blank := Text.blank_leadingBlanks _ }

/-- The indentation of a line is admissible. -/
theorem rebase_lineIndent (o : Options) (source : Text) (place : Nat) :
    o.rebase (lineIndent source place) = .ok (placed o source place) :=
  dif_pos (Text.blank_leadingBlanks _)

/-- The finding for a class list that is regrouped. -/
def findingFor (o : Options) (source : Text) (l : ClassLiteral) : Finding where
  kind := l.kind
  line := line source l.start
  column := column source l.start
  start := l.start
  stop := l.stop
  replacement := wrap l.kind o.format (render (placed o source l.start).toStyle (group l.value))

/-- The class lists that pass the gate, as findings. -/
def findings (o : Options) (attributes : List Text) (source : Text) : List Finding :=
  ((literals attributes o.callee source).filter
    fun l => gate o.minTokens l.value = none).map (findingFor o source)

section Lint

variable {o : Options} {attributes : List Text} {source text : Text} {n : Nat}

theorem finding?_format (o : Options) (source : Text) (l : ClassLiteral) :
    finding? o source l (format (placed o source l.start) l.value)
      = if gate o.minTokens l.value = none then some (findingFor o source l) else none := by
  unfold format
  cases hgate : gate o.minTokens l.value with
  | none =>
    rw [show gate (placed o source l.start).minTokens l.value = none from hgate]
    rfl
  | some reason =>
    rw [show gate (placed o source l.start).minTokens l.value = some reason from hgate]
    rfl

theorem inspect_eq (o : Options) (attributes : List Text) (source : Text) :
    inspect o attributes source
      = .ok ((literals attributes o.callee source).map
          fun l => (l, format (placed o source l.start) l.value)) := by
  unfold inspect
  simp only [rebase_lineIndent]
  exact List.mapM_pure

/-- **Linting fails only on its format**, whatever the source is. -/
theorem lint_eq (h : o.format.spliceable = true) :
    lint o attributes source = .ok (findings o attributes source) := by
  -- a class list is regrouped exactly if it passes the gate
  have hfindings : findingsOf o source ((literals attributes o.callee source).map
      fun l => (l, format (placed o source l.start) l.value)) = findings o attributes source := by
    unfold findingsOf findings
    rw [List.filterMap_map, ← List.filterMap_eq_map, List.filterMap_filter]
    congr 1
    funext l
    exact (finding?_format o source l).trans (by simp)
  rw [lint, Options.requireSpliceable, if_pos h, inspect_eq]
  exact congrArg Except.ok hfindings

theorem fix_eq (h : o.format.spliceable = true) :
    fix o attributes source
      = .ok (applyFindings source (findings o attributes source),
          (findings o attributes source).length) := by
  rw [fix, lint_eq h]
  rfl

theorem lint_of_not_spliceable (h : o.format.spliceable = false) :
    lint o attributes source = .error (.notSpliceable o.format) := by
  rw [lint, Options.requireSpliceable, if_neg (by simp [h])]
  rfl

/-- Linting that succeeds shows that the format can stand in a source. -/
theorem spliceable_of_lint {fs : List Finding} (h : lint o attributes source = .ok fs) :
    o.format.spliceable = true := by
  cases hformat : o.format.spliceable with
  | true => rfl
  | false => exact absurd ((lint_of_not_spliceable hformat).symm.trans h) nofun

/-- A fix that succeeds shows that the format can stand in a source. -/
theorem spliceable_of_fix (h : fix o attributes source = .ok (text, n)) :
    o.format.spliceable = true := by
  cases hlint : lint o attributes source with
  | ok fs => exact spliceable_of_lint hlint
  | error e =>
    rw [fix, hlint] at h
    exact absurd h (by simp [Bind.bind, Except.bind])

/-- **A fix changes nothing** exactly if all class lists are kept. -/
theorem fix_eq_self_iff (h : o.format.spliceable = true) :
    fix o attributes source = .ok (source, 0)
      ↔ ∀ l ∈ literals attributes o.callee source, gate o.minTokens l.value ≠ none := by
  have hnil : (findings o attributes source = []) ↔
      ∀ l ∈ literals attributes o.callee source, gate o.minTokens l.value ≠ none := by
    rw [findings, List.map_eq_nil_iff, List.filter_eq_nil_iff]
    simp
  rw [fix_eq h, ← hnil]
  constructor
  · intro heq
    exact List.length_eq_zero_iff.mp (Prod.mk.inj (Except.ok.inj heq)).2
  · intro heq
    rw [heq, applyFindings, List.mergeSort_nil]
    rfl

end Lint

/-! ### A run of splices -/

/-- The source with a list of findings put in from the back of the list. -/
def spliceAll (source : Text) (fs : List Finding) : Text :=
  fs.foldr (fun f text => splice text f) source

/-- Findings that follow each other are put in from the last to the first. -/
theorem applyFindings_eq_spliceAll {fs : List Finding}
    (h : fs.Pairwise fun f g => f.start < g.start) (source : Text) :
    applyFindings source fs = spliceAll source fs := by
  have hsort : fs.mergeSort (fun f g => g.start ≤ f.start) = fs.reverse := by
    have hinj : ∀ f ∈ fs, ∀ g ∈ fs, f.start = g.start → f = g := by
      intro f hf g hg heq
      have hsymm : Std.Symm fun f g : Finding => f.start ≠ g.start := ⟨fun _ _ => Ne.symm⟩
      by_contra hne
      exact (h.imp Nat.ne_of_lt).forall hf hg hne heq
    have hsorted : (fs.mergeSort fun f g => g.start ≤ f.start).Pairwise
        fun f g => g.start ≤ f.start := pairwise_mergeSort_key (· ≥ ·) Finding.start fs
    -- two lists with the same findings, both sorted from the last to the first
    refine List.Perm.eq_of_pairwise ?_ hsorted (List.pairwise_reverse.mpr (h.imp Nat.le_of_lt))
      ((List.mergeSort_perm _ _).trans (List.reverse_perm fs).symm)
    intro f g hf hg hfg hgf
    exact hinj f (List.mem_mergeSort.mp hf) g (List.mem_reverse.mp hg) (Nat.le_antisymm hgf hfg)
  rw [applyFindings, hsort, List.foldl_reverse]
  rfl

end ClassGroups.Jsx
