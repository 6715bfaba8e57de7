import ClassGroups.Command.Lint
import ClassGroups.Proofs.Access
import ClassGroups.Proofs.Jsx.Findings
import ClassGroups.Proofs.Results

/-!
# What a lint run comes to

A run visits one file after the other, each in the tree that the visits before have left.
`Scan.Visits` describes such a run by what was found in the files that it has done with, the tree
that it leaves and how it ends: after all files, at a file that cannot be examined, or at one whose
findings cannot be printed or fixed.

The main statements, `visitAll_of_visits` and `run_of_visits`, say that a run comes to what is
described, and `Scan.exists_visits` that every run can be described so. All that is shown of runs
from there on is shown of the description, by induction on it. In a mode that writes nothing the
description depends on the mode only in where a run gets stuck (`Scan.Visits.tree_eq`).
-/

namespace ClassGroups.Command

open Files

/-! ### What is found, whatever the mode -/

/-- **What a run is to do**, its mode apart. -/
structure Scan where
  /-- The options for class lists. -/
  options : Options
  /-- The attributes that hold class lists, unless the value of one was taken away. -/
  attributes : Except Fault (List Text)
  /-- What is printed for bytes in the paths of files. -/
  showing : Showing
  /-- The files. -/
  files : List Located

/-- What is found in a file. -/
structure Examined where
  file : Located
  bytes : Text.Bytes
  findings : List Jsx.Finding

namespace Examined

def source (e : Examined) : Text := Text.ofFile e.bytes

def fixed (e : Examined) : Text := Jsx.applyFindings e.source e.findings

def warnings (e : Examined) : List Name := e.findings.map (reportLine e.file.path)

end Examined

def totalFindings (l : List Examined) : Nat := (l.flatMap (·.findings)).length

namespace Scan

/-- The job of a run in a mode. -/
def job (scan : Scan) (mode : LintMode) (verbose : Bool) : LintJob where
  options := scan.options
  attributes := scan.attributes
  mode := mode
  verbose := verbose
  showing := scan.showing

/-- What is found in a file, or why the run breaks off there. -/
def examine (scan : Scan) (t : Tree) (f : Located) : Except Fault Examined :=
  (readFile t f).bind fun bytes => scan.attributes.map fun attributes =>
    { file := f, bytes, findings := Jsx.findings scan.options attributes (Text.ofFile bytes) }

/-- **A file cannot be examined**: a directory stands in its place, it cannot be read, or the value
of an option for an attribute was taken away. -/
def Unread (scan : Scan) (t : Tree) (f : Located) (fault : Fault) : Prop :=
  t.file? f.place = none ∧ fault = .isDirectory f.path ∨
  t.isUnreadable f.place = true ∧ fault = .denied f.path ∨ scan.attributes = .error fault

/-- **What a run finds** in a file: its findings are those of the linter, and a fix of the text puts
them all in. -/
structure Examines (scan : Scan) (t : Tree) (e : Examined) : Prop where
  /-- The content is that of the file. -/
  read : t.file? e.file.place = some e.bytes
  readable : t.isUnreadable e.file.place = false
  /-- The findings are those of its text. -/
  linted : ∃ attributes, scan.attributes = .ok attributes ∧
    Jsx.lint scan.options attributes (Text.ofFile e.bytes) = .ok e.findings ∧
    Jsx.fix scan.options attributes (Text.ofFile e.bytes) = .ok (e.fixed, e.findings.length)

section Examine

variable {scan : Scan} {t t' : Tree} {f : Located} {e : Examined} {bytes : Text.Bytes}
  {fault : Fault}

theorem examine_congr (scan : Scan) (hfile : t'.file? f.place = t.file? f.place)
    (hreadable : t'.isUnreadable f.place = t.isUnreadable f.place) :
    scan.examine t' f = scan.examine t f := by
  unfold examine
  rw [readFile_congr hfile hreadable]

/-- **What is found in a file** is what its content and the attributes determine. -/
theorem examine_eq_ok_iff :
    scan.examine t f = .ok e ↔ readFile t f = .ok e.bytes ∧ e.file = f ∧
      ∃ attributes, scan.attributes = .ok attributes ∧
        e.findings = Jsx.findings scan.options attributes e.source := by
  constructor
  · intro h
    obtain ⟨bytes, hread, h⟩ := exists_of_bind_eq_ok h
    obtain ⟨attributes, hattributes, rfl⟩ := exists_of_map_eq_ok h
    exact ⟨hread, rfl, attributes, hattributes, rfl⟩
  · rintro ⟨hread, rfl, attributes, hattributes, hfindings⟩
    unfold examine
    rw [hread, hattributes]
    show Except.ok (Examined.mk e.file e.bytes (Jsx.findings scan.options attributes e.source)) = _
    rw [← hfindings]

theorem file_of_examine (h : scan.examine t f = .ok e) : e.file = f := (examine_eq_ok_iff.mp h).2.1

theorem file?_of_examine (h : scan.examine t f = .ok e) : t.file? e.file.place = some e.bytes := by
  obtain ⟨hread, rfl, -⟩ := examine_eq_ok_iff.mp h
  exact (readFile_eq_ok_iff.mp hread).1

theorem examines_of_examine (hs : scan.options.format.spliceable = true)
    (h : scan.examine t f = .ok e) : scan.Examines t e := by
  obtain ⟨hread, rfl, attributes, hattributes, hfindings⟩ := examine_eq_ok_iff.mp h
  obtain ⟨hfile, hreadable⟩ := readFile_eq_ok_iff.mp hread
  refine ⟨hfile, hreadable, attributes, hattributes, ?_, ?_⟩
  · rw [Jsx.lint_eq hs, hfindings]
    rfl
  · rw [Jsx.fix_eq hs, Examined.fixed, hfindings]
    rfl

theorem unread_of_examine (h : scan.examine t f = .error fault) : scan.Unread t f fault := by
  rcases eq_error_or_of_bind_eq_error h with hread | ⟨bytes, -, h⟩
  · exact (readFile_eq_error_iff.mp hread).imp_right .inl
  · exact .inr (.inr (eq_error_of_map_eq_error h))

/-- Whether a file cannot be examined does not depend on its content. -/
theorem examine_eq_error_congr (hfile : (t'.file? f.place).isSome = (t.file? f.place).isSome)
    (hreadable : t'.isUnreadable f.place = t.isUnreadable f.place)
    (h : scan.examine t f = .error fault) : scan.examine t' f = .error fault := by
  unfold examine at h ⊢
  rcases eq_error_or_of_bind_eq_error h with hread | ⟨bytes, hread, h⟩
  · have hread' : readFile t' f = .error fault := by
      refine readFile_eq_error_iff.mpr ((readFile_eq_error_iff.mp hread).imp ?_ ?_)
      · rintro ⟨hnone, hfault⟩
        rw [hnone, Option.isSome_none] at hfile
        exact ⟨Option.not_isSome_iff_eq_none.mp (Bool.eq_false_iff.mp hfile), hfault⟩
      · rintro ⟨hunreadable, hfault⟩
        exact ⟨hreadable.trans hunreadable, hfault⟩
    rw [hread']
    rfl
  · -- the attributes are what is missing
    obtain ⟨hbytes, hunreadable⟩ := readFile_eq_ok_iff.mp hread
    rw [hbytes, Option.isSome_some] at hfile
    obtain ⟨bytes', hbytes'⟩ := Option.isSome_iff_exists.mp hfile
    have hread' : readFile t' f = .ok bytes' :=
      readFile_eq_ok_iff.mpr ⟨hbytes', hreadable.trans hunreadable⟩
    rw [hread', show scan.attributes = .error fault from eq_error_of_map_eq_error h]
    rfl

/-- **Whether a file can be examined** is the same in a tree that has grown. -/
theorem examine_eq_error_iff_of_grows (hgrows : t.Grows t') (hf : t.holds f.place = true) :
    scan.examine t' f = .error fault ↔ scan.examine t f = .error fault := by
  have hfile := hgrows.file f.place hf
  have hreadable := hgrows.isUnreadable_eq hf
  exact ⟨examine_eq_error_congr hfile.symm hreadable.symm, examine_eq_error_congr hfile hreadable⟩

end Examine

end Scan

/-! ### One visit -/

namespace LintMode

/-- What becomes of the tree when a file is visited, and what breaks the run off there. -/
def act (mode : LintMode) (showing : Showing) (t : Tree) (e : Examined) : Tree × Option Fault :=
  match mode with
  | .report => (t, (printLines showing e.warnings).2)
  | .preview => (t, none)
  | .fix backup =>
    if e.findings = [] then (t, none) else fixFile t backup e.file e.source e.fixed

/-- What a visit prints. -/
def printed (mode : LintMode) (showing : Showing) (e : Examined) : Text :=
  match mode with
  | .report => (printLines showing e.warnings).1
  | _ => []

/-- Whether a mode leaves files alone. -/
def reads : LintMode → Bool
  | .fix _ => false
  | _ => true

theorem act_fix (backup : Bool) (showing : Showing) (t : Tree) (e : Examined) :
    (fix backup).act showing t e
      = if e.findings = [] then (t, none) else fixFile t backup e.file e.source e.fixed := rfl

theorem act_fst_of_reads {mode : LintMode} (h : mode.reads = true) (showing : Showing) (t : Tree)
    (e : Examined) : (mode.act showing t e).1 = t := by
  cases mode with
  | report => rfl
  | preview => rfl
  | fix backup => exact absurd h Bool.false_ne_true

end LintMode

section Visit

variable {scan : Scan} {mode : LintMode} {verbose : Bool} {s : LintState} {t : Tree} {f : Located}
  {e : Examined} {fault : Fault}

theorem search_of_error (h : scan.examine t f = .error fault) :
    (scan.job mode verbose).search t f = .error fault := by
  unfold LintJob.search
  -- either the file cannot be read or there are no attributes to look for
  rcases eq_error_or_of_bind_eq_error h with hread | ⟨bytes, hread, h⟩
  · rw [hread]
    rfl
  · have hattributes : (scan.job mode verbose).attributes = .error fault :=
      eq_error_of_map_eq_error h
    rw [hread, hattributes]
    rfl

/-- With options that can be spliced neither the linter nor the inspection fails. -/
theorem search_of_ok (mode : LintMode) (verbose : Bool)
    (hs : scan.options.format.spliceable = true) (h : scan.examine t f = .ok e) :
    ∃ inspected, (scan.job mode verbose).search t f
      = .ok { source := e.source, findings := e.findings, inspected } := by
  obtain ⟨hread, rfl, attributes, hattributes, hfindings⟩ := Scan.examine_eq_ok_iff.mp h
  unfold LintJob.search
  rw [hread]
  show ∃ inspected, (scan.attributes).bind _ = _
  rw [hattributes]
  show ∃ inspected, (orRefused (Jsx.lint scan.options attributes e.source)).bind _ = _
  rw [Jsx.lint_eq hs, ← hfindings]
  show ∃ inspected, (orRefused (Jsx.inspect scan.options attributes e.source)).bind _ = _
  rw [Jsx.inspect_eq]
  exact ⟨_, rfl⟩

theorem visit_of_error (h : scan.examine s.tree f = .error fault) :
    (scan.job mode verbose).visit s f = (s, some fault) := by
  unfold LintJob.visit
  rw [search_of_error h]

/-- **A visit** comes to what is found in the file: its findings are counted, printed or fixed. -/
theorem visit_of_ok (mode : LintMode) (verbose : Bool)
    (hs : scan.options.format.spliceable = true)
    (h : scan.examine s.tree f = .ok e) :
    ∃ log, (scan.job mode verbose).visit s f =
      ({ tree := (mode.act scan.showing s.tree e).1
         total := s.total + e.findings.length
         output := s.output ++ mode.printed scan.showing e
         log }, (mode.act scan.showing s.tree e).2) := by
  obtain ⟨inspected, hsearch⟩ := search_of_ok mode verbose hs h
  obtain rfl := Scan.file_of_examine h
  have hsilent : s.output ++ [] = s.output := List.append_nil _
  unfold LintJob.visit
  rw [hsearch]
  cases mode with
  | report => exact ⟨_, rfl⟩
  | preview =>
    show ∃ log, _ = (LintState.mk _ _ (s.output ++ []) log, none)
    rw [hsilent]
    exact ⟨_, rfl⟩
  | fix backup =>
    show ∃ log, _ = (LintState.mk _ _ (s.output ++ []) log, _)
    rw [hsilent, LintMode.act_fix]
    -- a file without findings is not written at all
    by_cases hnil : e.findings = []
    · rw [if_pos hnil, hnil]
      exact ⟨_, rfl⟩
    · rw [if_neg hnil]
      refine ⟨_, if_neg ?_⟩
      rwa [List.isEmpty_iff]

end Visit

/-! ### One visit after the other -/

/-- How visits of files end. -/
inductive Ending where
  /-- There is no file left. -/
  | finished
  /-- A file cannot be examined. -/
  | unread (fault : Fault)
  /-- What was found in a file cannot be printed or fixed. -/
  | stuck (e : Examined) (fault : Fault)

/-- What breaks a run off at its end. -/
def Ending.fault? : Ending → Option Fault
  | finished => none
  | unread fault => some fault
  | stuck _ fault => some fault

/-- The file that a run gets stuck at, if there is one. -/
def Ending.pending : Ending → List Examined
  | finished => []
  | unread _ => []
  | stuck e _ => [e]

theorem Ending.pending_eq_nil_or (ending : Ending) :
    ending.pending = [] ∨ ∃ e fault, ending = .stuck e fault := by
  cases ending with
  | finished => exact .inl rfl
  | unread fault => exact .inl rfl
  | stuck e fault => exact .inr ⟨e, fault, rfl⟩

/-- **Visits of files** in a mode, from a tree: what is found in those that the run has done with,
the tree after them, and how they end. -/
inductive Scan.Visits (scan : Scan) (mode : LintMode) :
    Tree → List Located → List Examined → Tree → Ending → Prop
  | nil (t : Tree) : scan.Visits mode t [] [] t .finished
  | unread {t : Tree} {f : Located} {fault : Fault} (rest : List Located)
      (h : scan.examine t f = .error fault) :
      scan.Visits mode t (f :: rest) [] t (.unread fault)
  | stuck {t t' : Tree} {f : Located} {e : Examined} {fault : Fault} (rest : List Located)
      (h : scan.examine t f = .ok e) (hact : mode.act scan.showing t e = (t', some fault)) :
      scan.Visits mode t (f :: rest) [] t' (.stuck e fault)
  | cons {t u t' : Tree} {f : Located} {rest : List Located} {e : Examined} {l : List Examined}
      {ending : Ending} (h : scan.examine t f = .ok e)
      (hact : mode.act scan.showing t e = (u, none))
      (hrest : scan.Visits mode u rest l t' ending) :
      scan.Visits mode t (f :: rest) (e :: l) t' ending

namespace Scan.Visits

variable {scan : Scan} {mode : LintMode} {t t' : Tree} {files : List Located}
  {l : List Examined} {ending : Ending}

/-- The files that a run has examined are the first ones of those it is to visit. -/
theorem map_file_prefix (h : scan.Visits mode t files l t' ending) :
    (l ++ ending.pending).map (·.file) <+: files := by
  induction h with
  | nil t => exact List.prefix_rfl
  | unread rest h => exact List.nil_prefix
  | stuck rest h hact =>
    obtain rfl := file_of_examine h
    exact List.cons_prefix_cons.mpr ⟨rfl, List.nil_prefix⟩
  | cons h hact hrest ih =>
    obtain rfl := file_of_examine h
    exact List.cons_prefix_cons.mpr ⟨rfl, ih⟩

/-- A run that ends has done with all files. -/
theorem map_file (h : scan.Visits mode t files l t' .finished) : l.map (·.file) = files := by
  generalize hending : Ending.finished = ending at h
  induction h with
  | nil t => rfl
  | unread rest h => exact absurd hending nofun
  | stuck rest h hact => exact absurd hending nofun
  | cons h hact hrest ih => rw [List.map_cons, file_of_examine h, ih hending]

theorem tree_eq (h : scan.Visits mode t files l t' ending) (hreads : mode.reads = true) :
    t' = t := by
  induction h with
  | nil t => rfl
  | unread rest h => rfl
  | @stuck t t' f e fault rest h hact =>
    have htree := LintMode.act_fst_of_reads hreads scan.showing t e
    rwa [hact] at htree
  | @cons t u t' f rest e l ending h hact hrest ih =>
    have htree := LintMode.act_fst_of_reads hreads scan.showing t e
    rw [hact] at htree
    exact ih.trans htree

/-- A run can be described in one way only. -/
theorem unique {l' : List Examined} {t'' : Tree} {ending' : Ending}
    (h : scan.Visits mode t files l t' ending) (h' : scan.Visits mode t files l' t'' ending') :
    l = l' ∧ t' = t'' := by
  induction h generalizing l' with
  | nil t =>
    cases h'
    exact ⟨rfl, rfl⟩
  | unread rest h =>
    cases h' with
    | unread rest h' => exact ⟨rfl, rfl⟩
    | stuck rest h' hact' => exact absurd (h.symm.trans h') nofun
    | cons h' hact' hrest' => exact absurd (h.symm.trans h') nofun
  | stuck rest h hact =>
    cases h' with
    | unread rest h' => exact absurd (h.symm.trans h') nofun
    | stuck rest h' hact' =>
      obtain rfl := Except.ok.inj (h.symm.trans h')
      exact ⟨rfl, (Prod.mk.inj (hact.symm.trans hact')).1⟩
    | cons h' hact' hrest' =>
      obtain rfl := Except.ok.inj (h.symm.trans h')
      exact absurd (Prod.mk.inj (hact.symm.trans hact')).2 nofun
  | cons h hact hrest ih =>
    cases h' with
    | unread rest h' => exact absurd (h.symm.trans h') nofun
    | stuck rest h' hact' =>
      obtain rfl := Except.ok.inj (h.symm.trans h')
      exact absurd (Prod.mk.inj (hact.symm.trans hact')).2 nofun
    | cons h' hact' hrest' =>
      obtain rfl := Except.ok.inj (h.symm.trans h')
      obtain rfl := (Prod.mk.inj (hact.symm.trans hact')).1
      obtain ⟨rfl, htree⟩ := ih hrest'
      exact ⟨rfl, htree⟩

end Scan.Visits

section Runs

variable {scan : Scan} {mode : LintMode} {verbose : Bool} {s : LintState} {t t' : Tree}
  {files : List Located} {l : List Examined} {ending : Ending}

/-- **Every run** can be described. -/
theorem Scan.exists_visits (scan : Scan) (mode : LintMode) (t : Tree) (files : List Located) :
    ∃ l t' ending, scan.Visits mode t files l t' ending := by
  induction files generalizing t with
  | nil => exact ⟨_, _, _, .nil t⟩
  | cons f files ih =>
    cases h : scan.examine t f with
    | error fault => exact ⟨_, _, _, .unread files h⟩
    | ok e =>
      cases hact : mode.act scan.showing t e with
      | mk u fault? =>
        cases fault? with
        | some fault => exact ⟨_, _, _, .stuck files h hact⟩
        | none =>
          obtain ⟨l, t', ending, hrest⟩ := ih u
          exact ⟨_, _, _, .cons h hact hrest⟩

/-- **Visits of files** come to what is described. -/
theorem visitAll_of_visits (verbose : Bool) (hs : scan.options.format.spliceable = true)
    (h : scan.Visits mode s.tree files l t' ending) :
    ∃ s', (scan.job mode verbose).visitAll s files = (s', ending.fault?) ∧ s'.tree = t' ∧
      (ending = .finished → s'.total = s.total + totalFindings l ∧
        s'.output = s.output ++ l.flatMap (mode.printed scan.showing)) := by
  generalize ht : s.tree = t at h
  induction h generalizing s with
  | nil t =>
    refine ⟨s, rfl, ht, fun _ => ⟨rfl, ?_⟩⟩
    rw [List.flatMap_nil, List.append_nil]
  | unread rest h =>
    subst ht
    rw [LintJob.visitAll, visit_of_error h]
    exact ⟨s, rfl, rfl, nofun⟩
  | stuck rest h hact =>
    subst ht
    obtain ⟨log, hvisit⟩ := visit_of_ok mode verbose hs h
    rw [hact] at hvisit
    rw [LintJob.visitAll, hvisit]
    exact ⟨_, rfl, rfl, nofun⟩
  | @cons t u t' f rest e l ending h hact hrest ih =>
    subst ht
    obtain ⟨log, hvisit⟩ := visit_of_ok mode verbose hs h
    rw [hact] at hvisit
    rw [LintJob.visitAll, hvisit]
    -- the rest of the run goes on from the state after the visit
    obtain ⟨s', hall, htree, hfinished⟩ := ih (s := ⟨u, s.total + e.findings.length,
      s.output ++ mode.printed scan.showing e, log⟩) rfl
    refine ⟨s', hall, htree, fun hending => ?_⟩
    obtain ⟨htotal, houtput⟩ := hfinished hending
    constructor
    · rw [htotal, totalFindings, totalFindings, List.flatMap_cons, List.length_append,
        Nat.add_assoc]
    · rw [houtput, List.flatMap_cons, List.append_assoc]

end Runs

/-! ### How a run ends -/

namespace TreeRun

/-- **A run ends** with an exit status and has printed some lines. -/
structure Ends (r : TreeRun) (status : Nat) (lines : List Text) : Prop where
  status : r.outcome.status = status
  output : r.outcome.output = Text.unlines lines
  /-- No fault broke it off. -/
  unbroken : r.outcome.fault? = none

instance (r : TreeRun) (status : Nat) (lines : List Text) : Decidable (r.Ends status lines) :=
  decidable_of_iff (r.outcome.status = status ∧ r.outcome.output = Text.unlines lines ∧
      r.outcome.fault?.isNone = true)
    ⟨fun h => ⟨h.1, h.2.1, Option.isNone_iff_eq_none.mp h.2.2⟩,
      fun h => ⟨h.status, h.output, Option.isNone_iff_eq_none.mpr h.unbroken⟩⟩

/-- **A run breaks off** with a fault. -/
structure BreaksOff (r : TreeRun) (fault : Fault) : Prop where
  status : r.outcome.status = 1
  fault : r.outcome.fault? = some fault

/-- **A run comes to its end**, unless there is a fault that breaks it off. -/
def ComesTo (r : TreeRun) (fault? : Option Fault) (status : Nat) (lines : List Text) : Prop :=
  match fault? with
  | none => r.Ends status lines
  | some fault => r.BreaksOff fault

variable {r : TreeRun} {status : Nat} {lines : List Text} {fault : Fault}

/-- Warnings in front are neither printed nor a fault. -/
theorem Ends.afterWarnings (h : r.Ends status lines) (warnings : List Text) :
    (r.afterWarnings warnings).Ends status lines :=
  ⟨h.status, h.output, h.unbroken⟩

theorem BreaksOff.afterWarnings (h : r.BreaksOff fault) (warnings : List Text) :
    (r.afterWarnings warnings).BreaksOff fault :=
  ⟨h.status, h.fault⟩

theorem ComesTo.afterWarnings {fault? : Option Fault} (h : r.ComesTo fault? status lines)
    (warnings : List Text) : (r.afterWarnings warnings).ComesTo fault? status lines := by
  cases fault? with
  | none => exact Ends.afterWarnings h warnings
  | some fault => exact BreaksOff.afterWarnings h warnings

end TreeRun

section Run

variable {scan : Scan} {mode : LintMode} {t t' : Tree} {l : List Examined} {ending : Ending}

/-- **A run** leaves the tree that is described. At its end it has printed what was printed of the
files and how much it has found, and it fails if it is to report and has found anything. -/
theorem run_of_visits (hs : scan.options.format.spliceable = true)
    (h : scan.Visits mode t scan.files l t' ending) (lines : List Text)
    (hlines : ending = .finished → l.flatMap (mode.printed scan.showing) = Text.unlines lines)
    (verbose : Bool) :
    ((scan.job mode verbose).run t scan.files).tree = t' ∧
    ((scan.job mode verbose).run t scan.files).ComesTo ending.fault?
      (if mode = .report ∧ totalFindings l ≠ 0 then 1 else 0)
      (lines ++ [summaryLine mode (totalFindings l)]) := by
  obtain ⟨s, hall, htree, hfinished⟩ :=
    visitAll_of_visits (s := { tree := t }) verbose hs h
  unfold LintJob.run
  rw [hall]
  cases ending with
  | unread fault => exact ⟨htree, rfl, rfl⟩
  | stuck e fault => exact ⟨htree, rfl, rfl⟩
  | finished =>
    obtain ⟨htotal, houtput⟩ := hfinished rfl
    rw [Nat.zero_add] at htotal
    refine ⟨htree, ?_, ?_, rfl⟩
    · show (if mode = .report ∧ s.total ≠ 0 then 1 else 0) = _
      rw [htotal]
    · show s.output ++ Text.unlines [summaryLine mode s.total] = _
      rw [htotal, houtput, hlines rfl, List.nil_append, Text.unlines, Text.unlines, Text.unlines,
        List.map_append, List.flatten_append]

end Run

end ClassGroups.Command
