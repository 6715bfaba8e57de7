import ClassGroups.Proofs.Lint.Modes
import Mathlib

/-!
# Every source is linted

A report looks at the sources below its root. `Report.total` says without a walk what there is to
find in them: it adds up the findings of the linter in all files that have one of the extensions and
lie in no directory of foreign sources. The main statement, `report_ends_iff`, says for all trees,
arguments and environments when a report comes to this total.

Three things keep it from that. If a directory has the name of a source, the walk takes it for one,
and the run breaks off where it should be read, as it does at a source that cannot be read
(`Report.exists_breaksOff_of_blocked`). And a finding cannot be printed if there is a byte on the
way to its file that belongs to no character and that the output refuses.
-/

namespace ClassGroups.Command

open Arguments Files

/-! ### What there is to find -/

/-- **A report** on all sources below a root. -/
structure Report where
  /-- The options for class lists. -/
  options : Options
  /-- The attributes that hold class lists. -/
  attributes : List Text
  /-- The extensions of sources. -/
  extensions : List Name
  /-- What is printed for bytes in the paths of files. -/
  showing : Showing
  /-- The root. -/
  root : Located

namespace Report

/-- Whether the way down from the root is that of a source: its last name has one of the extensions,
and no directory on it is one of foreign sources. -/
def covers (r : Report) (way : Place) : Bool :=
  r.extensions.contains (Path.suffix ⟨[], way⟩)
    && !way.dropLast.contains (Name.ofText foreignDirectory)

/-- The number of findings of the linter in what stands at a place. A directory has none. -/
def findingsAt (r : Report) (t : Tree) (p : Place) : Nat :=
  match t.file? p with
  | none => 0
  | some bytes =>
    match Jsx.lint r.options r.attributes (Text.ofFile bytes) with
    | .ok findings => findings.length
    | .error _ => 0

/-- **What there is to find**: the findings in all files below the root that are covered. -/
def total (r : Report) (t : Tree) : Nat :=
  (((t.places.filterMap r.root.place.below?).filter r.covers).map
    fun way => r.findingsAt t (r.root.place ++ way)).sum

/-- **Nothing can be read** at a place: a directory stands there, or a file that cannot be read. -/
def Blocked (t : Tree) (p : Place) : Prop := t.isDirectory p = true ∨ t.isUnreadable p = true

/-- **A command line asks for a report.** -/
structure IsChosenBy (r : Report) (terminal : Terminal) (p : Parsed) (env : Environment)
    (t : Tree) : Prop where
  /-- Findings are not to be fixed. -/
  unfixed : p.has "--fix" = false
  /-- The root is named. -/
  rooted : ∃ root, p.text? "--root" = some root ∧
    Path.ofArgument terminal.spelling root = r.root.path
  /-- Something stands there. -/
  stands : t.find? r.root.path = some r.root.place
  /-- The options are valid. -/
  options : lintOptions env p = .ok r.options
  /-- The attributes have their values. -/
  attributes : attributesOf p = .ok r.attributes
  /-- The extensions have their value, if they are named. -/
  valued : p.value? "--ext" ≠ some .dropped
  extensions : r.extensions = extensionsFor terminal.spelling p
  showing : r.showing = terminal.showing

/-- **Arguments ask for a report**, in an environment with a file of definitions. -/
def IsAskedBy (r : Report) (terminal : Terminal) (arguments : List Text) (env : Environment)
    (definitions : Text) (t : Tree) : Prop :=
  ∃ env' p, env.withDefinitions definitions = .ok env' ∧
    lintGrammar.parse arguments = .ok p ∧ r.IsChosenBy terminal p env' t

/-- What the run for a report looks at. -/
def scan (r : Report) (t : Tree) : Scan where
  options := r.options
  attributes := .ok r.attributes
  showing := r.showing
  files := sourceFiles t r.extensions r.root

end Report

/-! ### Which files are looked at -/

section Sources

variable {r : Report} {t : Tree} {way : Place}

theorem nil_notMem_extensionsFor (spelling : Spelling) (p : Parsed) :
    [] ∉ extensionsFor spelling p := by
  unfold extensionsFor extensionsOf
  intro hmem
  obtain ⟨extension, hmem, hnil⟩ := List.mem_map.mp hmem
  obtain rfl := List.map_eq_nil_iff.mp hnil
  obtain ⟨part, -, h⟩ := List.mem_filterMap.mp hmem
  -- what is named has a point at least
  split at h
  · exact absurd h nofun
  · exact absurd (Option.some.inj h) (List.cons_ne_nil _ _)
  · exact absurd (Option.some.inj h) (List.cons_ne_nil _ _)

theorem name_descend (path : Path) (hway : way ≠ []) :
    (path.descend way).name = Path.name ⟨[], way⟩ := by
  unfold Path.name Path.descend
  rw [List.getLast?_append_of_ne_nil _ hway]

theorem suffix_descend (path : Path) (hway : way ≠ []) :
    (path.descend way).suffix = Path.suffix ⟨[], way⟩ := by
  unfold Path.suffix
  rw [name_descend path hway]

/-- The name of the directories of foreign sources has no extension. -/
theorem suffix_of_foreign (h : way.getLast? = some (Name.ofText foreignDirectory)) :
    Path.suffix ⟨[], way⟩ = [] := by
  unfold Path.suffix Path.name
  rw [h]
  decide

/-- **A path below the root** is that of a source exactly if the way down to it is covered. -/
theorem Report.isSource_descend (hnil : [] ∉ r.extensions)
    (hroot : Name.ofText foreignDirectory ∉ r.root.path.parts) (hway : way ≠ []) :
    isSource r.extensions (r.root.path.descend way) = r.covers way := by
  unfold isSource covers
  rw [suffix_descend _ hway, Bool.eq_iff_iff]
  simp only [Bool.and_eq_true, Bool.not_eq_true', Bool.eq_false_iff, ne_eq, List.contains_iff_mem]
  refine and_congr_right fun hsuffix => not_congr ?_
  show Name.ofText foreignDirectory ∈ r.root.path.parts ++ way ↔ _
  constructor
  · intro h
    have hmem : Name.ofText foreignDirectory ∈ way := (List.mem_append.mp h).resolve_left hroot
    -- the last name has an extension, so it is not that of a directory of foreign sources
    rw [← List.dropLast_append_getLast hway, List.mem_append] at hmem
    refine hmem.resolve_right fun hlast => hnil ?_
    rw [List.mem_singleton] at hlast
    rwa [suffix_of_foreign (hlast ▸ List.getLast?_eq_some_getLast hway)] at hsuffix
  · intro h
    exact List.mem_append_right _ (List.dropLast_subset way h)

end Sources

/-! ### What a report comes to -/

section Reports

variable {r : Report} {terminal : Terminal} {t : Tree} {p : Parsed} {env : Environment}
  {arguments : List Text} {definitions : Text} {l : List Examined} {fault? : Option Fault}

namespace Report

/-- What is found in a file is what the linter finds in its text. -/
theorem findingsAt_eq {e : Examined} (h : (r.scan t).Examines t e) :
    r.findingsAt t e.file.place = e.findings.length := by
  obtain ⟨hread, -, attributes, hattributes, hlint, -⟩ := h
  obtain rfl := Except.ok.inj hattributes
  unfold findingsAt
  rw [hread]
  dsimp only
  rw [show Jsx.lint r.options r.attributes (Text.ofFile e.bytes) = .ok e.findings from hlint]

theorem Blocked.holds {p : Place} (h : Blocked t p) : t.holds p = true := by
  rcases h with hdir | hunreadable
  · exact (Tree.isDirectory_iff.mp hdir).1
  · exact Tree.holds_of_isUnreadable hunreadable

/-- Where something is found, there is a file. -/
theorem exists_file?_of_findingsAt {place : Place} (h : 0 < r.findingsAt t place) :
    ∃ bytes, t.file? place = some bytes := by
  unfold findingsAt at h
  cases hfile : t.file? place with
  | none =>
    rw [hfile] at h
    exact absurd h (Nat.lt_irrefl 0)
  | some bytes => exact ⟨bytes, rfl⟩

/-- The findings of a run that comes to its end are those of its files. -/
theorem totalFindings_eq (h : (r.scan t).Finds t l none) :
    totalFindings l = ((r.scan t).files.map fun f => r.findingsAt t f.place).sum := by
  unfold totalFindings
  rw [List.length_flatMap, ← h.ended rfl, List.map_map]
  congr 1
  exact List.map_congr_left fun e he => (findingsAt_eq (h.found e he)).symm

theorem IsChosenBy.scansFor (h : r.IsChosenBy terminal p env t) :
    ScansFor terminal p env t (r.scan t) := by
  obtain ⟨root, hroot, hpath⟩ := h.rooted
  refine ⟨root, r.root.place, hroot, ?_, h.options, h.attributes, h.showing.symm, ?_⟩
  · rw [hpath]
    exact h.stands
  · rw [hpath, ← h.extensions]
    rfl

/-- **The run for a report** agrees with what there is to find in the files it looks at. -/
theorem IsAskedBy.exists_finds (h : r.IsAskedBy terminal arguments env definitions t) :
    ∃ l fault?, (r.scan t).Finds t l fault? ∧
      ReportAgrees r.showing l fault? (lint terminal arguments env definitions t) := by
  obtain ⟨env', p, henv, hparse, hchosen⟩ := h
  have hscans := hchosen.scansFor
  have hs := hscans.spliceable
  obtain ⟨l, v, ending, hpreview⟩ := (r.scan t).exists_visits .preview t (r.scan t).files
  refine ⟨l, ending.fault?, hpreview.finds hs, ?_⟩
  unfold lint TreeRun.start
  rw [henv, hparse]
  show ReportAgrees r.showing l ending.fault? ((lintFor terminal p env' t).afterWarnings _)
  rw [hscans.lintFor_eq hchosen.valued, LintMode.ofArguments_report hchosen.unfixed]
  exact (reportAgrees_of_visits hs hpreview ..).1

theorem IsAskedBy.nil_notMem (h : r.IsAskedBy terminal arguments env definitions t) :
    [] ∉ r.extensions := by
  obtain ⟨env', p, -, -, hchosen⟩ := h
  rw [hchosen.extensions]
  exact nil_notMem_extensionsFor terminal.spelling p

/-- What cannot be examined breaks a report off, if it gets there. -/
theorem exists_breaksOff_of_agrees {report : TreeRun} {fault : Fault}
    (h : ReportAgrees r.showing l (some fault) report) : ∃ fault', report.BreaksOff fault' := by
  cases h with
  | printed warnings hpaths hwarnings hlength hends => exact ⟨fault, hends⟩
  | unprinted e line he hline hpath hbroken => exact ⟨_, hbroken⟩

section Walk

variable (hnil : [] ∉ r.extensions) (hroot : Name.ofText foreignDirectory ∉ r.root.path.parts)
  (hdir : t.isDirectory r.root.place = true)

include hnil hroot hdir

/-- **What a report looks at**: everything below the root that is covered, directories included. -/
theorem files_scan :
    (r.scan t).files = ((t.below r.root.place).filter r.covers).map
      fun way => ⟨r.root.path.descend way, r.root.place ++ way⟩ := by
  have hnone : ¬(t.file? r.root.place).isSome = true := by
    rw [(Tree.isDirectory_iff.mp hdir).2]
    exact Bool.false_ne_true
  show sourceFiles t r.extensions r.root = _
  unfold sourceFiles Tree.locatedBelow
  rw [if_neg hnone, List.filter_map]
  congr 1
  refine List.filter_congr fun way hway => ?_
  exact isSource_descend hnil hroot (Tree.mem_below_iff_append.mp hway).1

theorem mem_files_scan_iff {f : Located} :
    f ∈ (r.scan t).files ↔ ∃ way, way ≠ [] ∧ t.holds (r.root.place ++ way) = true ∧
      r.covers way = true ∧ f = ⟨r.root.path.descend way, r.root.place ++ way⟩ := by
  rw [files_scan hnil hroot hdir, List.mem_map]
  constructor
  · rintro ⟨way, hmem, rfl⟩
    obtain ⟨hbelow, hcovers⟩ := List.mem_filter.mp hmem
    obtain ⟨hway, hplace⟩ := Tree.mem_below_iff_append.mp hbelow
    exact ⟨way, hway, Tree.holds_iff.mpr (.inr hplace), hcovers, rfl⟩
  · rintro ⟨way, hway, hholds, hcovers, rfl⟩
    have hplace : r.root.place ++ way ∈ t.places :=
      (Tree.holds_iff.mp hholds).resolve_left (List.append_ne_nil_of_right_ne_nil _ hway)
    exact ⟨way, List.mem_filter.mpr ⟨Tree.mem_below_iff_append.mpr ⟨hway, hplace⟩, hcovers⟩, rfl⟩

/-- The order in which files are looked at does not matter for their number of findings. -/
theorem sum_findingsAt_files :
    ((r.scan t).files.map fun f => r.findingsAt t f.place).sum = r.total t := by
  rw [files_scan hnil hroot hdir, List.map_map]
  -- the walk sorts what it finds, the total does not
  unfold total Tree.below
  exact (((List.mergeSort_perm _ _).filter _).map _).sum_nat

/-- **What breaks a run off** is a directory with the name of a source, or a source that cannot be
read. -/
theorem exists_blocked_of_finds {fault : Fault} (h : (r.scan t).Finds t l (some fault)) :
    ∃ way, way ≠ [] ∧ Blocked t (r.root.place ++ way) ∧ r.covers way = true := by
  obtain ⟨f, rest, hsplit, hunread⟩ := h.stopped fault rfl
  have hf : f ∈ (r.scan t).files := hsplit ▸ List.mem_append_right _ List.mem_cons_self
  obtain ⟨way, hway, hholds, hcovers, rfl⟩ := (mem_files_scan_iff hnil hroot hdir).mp hf
  -- the attributes are there, so it is the file that cannot be read
  obtain ⟨hnone, -⟩ | ⟨hunreadable, -⟩ | hattributes := hunread
  · exact ⟨way, hway, .inl (Tree.isDirectory_iff.mpr ⟨hholds, hnone⟩), hcovers⟩
  · exact ⟨way, hway, .inr hunreadable, hcovers⟩
  · exact absurd hattributes nofun

/-- What has the name of a source is looked at, although it cannot be read. -/
theorem not_finds_of_blocked {way : Place} (hway : way ≠ [])
    (hblocked : Blocked t (r.root.place ++ way)) (hcovers : r.covers way = true) :
    ¬(r.scan t).Finds t l none := by
  intro h
  have hmem := (mem_files_scan_iff hnil hroot hdir).mpr ⟨way, hway, hblocked.holds, hcovers, rfl⟩
  rw [← h.ended rfl] at hmem
  obtain ⟨e, he, hfile⟩ := List.mem_map.mp hmem
  have hexamines := h.found e he
  rcases hblocked with hsource | hunreadable
  · have hread := hexamines.read
    rw [hfile, (Tree.isDirectory_iff.mp hsource).2] at hread
    exact absurd hread nofun
  · have hreadable := hexamines.readable
    rw [hfile, hunreadable] at hreadable
    exact absurd hreadable nofun

end Walk

section Asked

variable (h : r.IsAskedBy terminal arguments env definitions t)
  (hroot : Name.ofText foreignDirectory ∉ r.root.path.parts)
  (hdir : t.isDirectory r.root.place = true)

include h hroot hdir

/-- **If a source cannot be read**, or a directory has the name of one, a run breaks off. -/
theorem exists_breaksOff_of_blocked {way : Place} (hway : way ≠ [])
    (hblocked : Blocked t (r.root.place ++ way)) (hcovers : r.covers way = true) :
    ∃ fault, (lint terminal arguments env definitions t).BreaksOff fault := by
  obtain ⟨l, fault?, hfinds, hagrees⟩ := h.exists_finds
  cases fault? with
  | none => exact absurd hfinds (not_finds_of_blocked h.nil_notMem hroot hdir hway hblocked hcovers)
  | some fault => exact exists_breaksOff_of_agrees hagrees

/-- **If all sources can be read**, and all findings printed, a run comes to its end and to all
there is to find. -/
theorem ends_of_not_blocked
    (hno : ∀ way, way ≠ [] → Blocked t (r.root.place ++ way) → r.covers way = false)
    (hshown : ∀ way, way ≠ [] → r.covers way = true → 0 < r.findingsAt t (r.root.place ++ way) →
      (r.root.path.descend way).IsShown r.showing) :
    ∃ warnings : List Text, warnings.length = r.total t ∧
      (lint terminal arguments env definitions t).Ends (if 0 < r.total t then 1 else 0)
        (warnings ++ ["[TW-LINT] warnings=".toList ++ Text.ofNat (r.total t)]) := by
  have hnil := h.nil_notMem
  obtain ⟨l, fault?, hfinds, hagrees⟩ := h.exists_finds
  cases fault? with
  | some fault =>
    obtain ⟨way, hway, hblocked, hcovers⟩ := exists_blocked_of_finds hnil hroot hdir hfinds
    exact absurd hcovers (Bool.eq_false_iff.mp (hno way hway hblocked))
  | none =>
    have htotal : totalFindings l = r.total t :=
      (totalFindings_eq hfinds).trans (sum_findingsAt_files hnil hroot hdir)
    cases hagrees with
    | printed warnings hpaths hwarnings hlength hends =>
      rw [htotal] at hlength hends
      exact ⟨warnings, hlength, hends⟩
    | unprinted e line he hline hpath hbroken =>
      have hmem : e.file ∈ (r.scan t).files := hfinds.ended rfl ▸ List.mem_map_of_mem he
      obtain ⟨way, hway, hholds, hcovers, hfile⟩ := (mem_files_scan_iff hnil hroot hdir).mp hmem
      refine absurd ?_ hpath
      rw [hfile]
      refine hshown way hway hcovers ?_
      -- a line is printed for a finding
      obtain ⟨finding, hfinding, -⟩ := List.mem_map.mp hline
      have hcount := findingsAt_eq (hfinds.found e he)
      rw [hfile] at hcount
      rw [hcount]
      exact List.length_pos_of_mem hfinding

/-- If a run comes to its end, what it has found could be printed. -/
theorem isShown_of_ends {status : Nat} {lines : List Text} {way : Place}
    (hends : (lint terminal arguments env definitions t).Ends status lines) (hway : way ≠ [])
    (hcovers : r.covers way = true) (hfindings : 0 < r.findingsAt t (r.root.place ++ way)) :
    (r.root.path.descend way).IsShown r.showing := by
  obtain ⟨l, fault?, hfinds, hagrees⟩ := h.exists_finds
  cases fault? with
  | some fault =>
    obtain ⟨fault', hbroken⟩ := exists_breaksOff_of_agrees hagrees
    exact absurd (hbroken.fault.symm.trans hends.unbroken) nofun
  | none =>
    cases hagrees with
    | unprinted e line he hline hpath hbroken =>
      exact absurd (hbroken.fault.symm.trans hends.unbroken) nofun
    | printed warnings hpaths =>
      obtain ⟨bytes, hbytes⟩ := exists_file?_of_findingsAt hfindings
      have hmem := (mem_files_scan_iff h.nil_notMem hroot hdir).mpr
        ⟨way, hway, Tree.holds_of_file? hbytes, hcovers, rfl⟩
      rw [← hfinds.ended rfl] at hmem
      obtain ⟨e, he, hfile⟩ := List.mem_map.mp hmem
      have hcount := findingsAt_eq (hfinds.found e he)
      rw [hfile] at hcount
      have hpath := hpaths e he (List.length_pos_iff.mp (hcount ▸ hfindings))
      rwa [hfile] at hpath

/-- **When every source is linted.** A report on a directory ends, with a warning for everything
there is to find and a failure if there is anything, exactly if no directory below the root and no
file that cannot be read has the name of a source, and the path of every file in which there is
something to find can be printed. -/
theorem report_ends_iff :
    (∃ warnings : List Text, warnings.length = r.total t ∧
      (lint terminal arguments env definitions t).Ends (if 0 < r.total t then 1 else 0)
        (warnings ++ ["[TW-LINT] warnings=".toList ++ Text.ofNat (r.total t)])) ↔
    (∀ way, way ≠ [] → Blocked t (r.root.place ++ way) → r.covers way = false) ∧
    ∀ way, way ≠ [] → r.covers way = true → 0 < r.findingsAt t (r.root.place ++ way) →
      (r.root.path.descend way).IsShown r.showing := by
  constructor
  · rintro ⟨warnings, -, hends⟩
    refine ⟨fun way hway hblocked => ?_, fun way hway hcovers hfindings =>
      isShown_of_ends h hroot hdir hends hway hcovers hfindings⟩
    rw [Bool.eq_false_iff]
    intro hcovers
    -- a run that ends is not broken off
    obtain ⟨fault, hbroken⟩ := exists_breaksOff_of_blocked h hroot hdir hway hblocked hcovers
    exact absurd (hbroken.fault.symm.trans hends.unbroken) nofun
  · rintro ⟨hno, hshown⟩
    exact ends_of_not_blocked h hroot hdir hno hshown

end Asked

/-- The report that is made if nothing but the root is named. -/
def plain (root : Text) (place : Place) : Report where
  options := default
  attributes := Jsx.defaultAttributes
  extensions := (extensionsOf defaultExtensions).map Name.ofText
  showing := Terminal.strict.showing
  root := ⟨Path.ofText root, place⟩

theorem isAskedBy_plain {root : Text} {place : Place} (hroot : root.head? ≠ some '-')
    (hplace : t.find? (Path.ofText root) = some place) :
    (plain root place).IsAskedBy .strict ["--root", root] [] [] t := by
  refine ⟨[], { values := [("--root", .text root)] }, Environment.withDefinitions_nil [],
    parse_root hroot, ?_⟩
  exact {
    unfixed := rfl
    rooted := ⟨root, rfl, rfl⟩
    stands := hplace
    options := rfl
    attributes := rfl
    valued := by nofun
    extensions := rfl
    showing := rfl }

end Report

end Reports

/-- A directory with the name of a source stands below the root, as packages of scripts do, but
among the sources of others. -/
def packagedTree : Tree where
  files := [
    ([Name.ofText "src", Name.ofText "a.jsx"],
      Text.encode "<p className=\"mt-4 flex p-2 text-sm\" />"),
    ([Name.ofText "src", Name.ofText "node_modules", Name.ofText "chart.js",
        Name.ofText "index.js"],
      Text.encode "<p className=\"mt-4 flex p-2 text-sm\" />")]

theorem report_ends_iff_packagedTree :
    (Report.plain "src" [Name.ofText "src"]).IsAskedBy .strict ["--root", "src"] [] []
      packagedTree ∧
    (Report.plain "src" [Name.ofText "src"]).total packagedTree = 1 ∧
    ∃ warnings : List Text, warnings.length = 1 ∧
      (lint .strict ["--root", "src"] [] [] packagedTree).Ends 1
        (warnings ++ ["[TW-LINT] warnings=".toList ++ Text.ofNat 1]) := by
  have hasked : (Report.plain "src" [Name.ofText "src"]).IsAskedBy .strict ["--root", "src"] [] []
      packagedTree := Report.isAskedBy_plain (by decide) (by decide)
  have htotal : (Report.plain "src" [Name.ofText "src"]).total packagedTree = 1 := by
    decide +kernel
  have hall : ∀ way ∈ packagedTree.places.filterMap (Place.below? [Name.ofText "src"]),
      packagedTree.isDirectory (Name.ofText "src" :: way) = true →
        (Report.plain "src" [Name.ofText "src"]).covers way = false := by decide +kernel
  have hshown : ∀ entry ∈ packagedTree.files, ∀ n ∈ entry.1,
      n.IsShown Terminal.strict.showing := by decide +kernel
  have hends := (Report.report_ends_iff hasked (by decide) (by decide)).mpr ⟨?_, ?_⟩
  · rw [htotal] at hends
    exact ⟨hasked, htotal, hends⟩
  · rintro way hway (hdir | hunreadable)
    · have hplace : Name.ofText "src" :: way ∈ packagedTree.places := by
        have hholds := (Tree.isDirectory_iff.mp hdir).1
        exact (Tree.holds_iff.mp hholds).resolve_left (List.cons_ne_nil _ way)
      exact hall way (List.mem_filterMap.mpr ⟨_, hplace, Place.below?_append hway _⟩) hdir
    · -- all files can be read
      exact absurd (Bool.and_eq_true_iff.mp hunreadable).2 Bool.false_ne_true
  · intro way _ _ hfindings
    obtain ⟨bytes, hbytes⟩ := Report.exists_file?_of_findingsAt hfindings
    exact hshown _ (Tree.mem_files_of_file? hbytes)

/-- A directory with the name of a source stands below the root. -/
def namedTree : Tree where
  files := [([Name.ofText "lib.js", Name.ofText "a.jsx"], Text.encode "<p />")]

/-- A report that is asked for in the plainest way on a tree of one file and one directory does not
end. -/
theorem not_report_ends_namedTree :
    (Report.plain "." []).IsAskedBy .strict ["--root", "."] [] [] namedTree ∧
    namedTree.isDirectory [] = true ∧
    Name.ofText foreignDirectory ∉ (Report.plain "." []).root.path.parts ∧
    ¬∃ status lines, (lint .strict ["--root", "."] [] [] namedTree).Ends status lines := by
  have hasked : (Report.plain "." []).IsAskedBy .strict ["--root", "."] [] [] namedTree :=
    Report.isAskedBy_plain (by decide) (by decide)
  refine ⟨hasked, by decide, by decide, ?_⟩
  rintro ⟨status, lines, hends⟩
  have hway : ([Name.ofText "lib.js"] : Place) ≠ [] := by decide
  obtain ⟨fault, hbroken⟩ := Report.exists_breaksOff_of_blocked hasked (by decide) (by decide)
    hway (.inl (by decide +kernel)) (by decide +kernel)
  exact absurd (hbroken.fault.symm.trans hends.unbroken) nofun

end ClassGroups.Command
