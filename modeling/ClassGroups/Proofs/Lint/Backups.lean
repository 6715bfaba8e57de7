import ClassGroups.Proofs.Encoding
import ClassGroups.Proofs.Lint.Rewriting
import ClassGroups.Proofs.Lint.Sources

/-!
# What a backup restores

Runs that fix and back up follow one another on a tree. The first of them that rewrites a file
leaves a backup beside it, and no later one touches the backup, since something stands there. But a
backup holds the text of the file as it was read, not its bytes. `backup_restores_iff` says for all
trees and sequences of runs when this is the same: there has to be no directory in the place of the
backup, and the bytes of the file have to be those of a text without carriage returns. The run is
meant to rewrite a file that has several places at one of them only.

The argument has three parts: before the file is rewritten the place of its backup stays free
(`free_treeAfterAll`), the run that rewrites the file takes it (`LintStep.file?_backupPlace`), and
from then on it is kept (`file?_treeAfterAll_of_holds`). The first part needs that the file is not
locked: a run that is hindered by that has made a backup before. But then no run rewrites the file.
-/

namespace ClassGroups.Command

open Arguments Files

/-! ### Runs one after the other -/

/-- **A run that is asked for.** -/
structure LintCall where
  terminal : Terminal
  arguments : List Text
  env : Environment
  definitions : Text

namespace LintCall

def treeAfter (c : LintCall) (t : Tree) : Tree :=
  (lint c.terminal c.arguments c.env c.definitions t).tree

/-- The tree after a sequence of runs. -/
def treeAfterAll (t : Tree) (calls : List LintCall) : Tree :=
  calls.foldl (fun t c => c.treeAfter t) t

/-- **A run is to fix files after a backup of each**, unless it is refused. Backups are not among
its sources. -/
def BacksUp (c : LintCall) : Prop :=
  ∀ p, lintGrammar.parse c.arguments = .ok p →
    p.has "--fix" = true ∧ p.has "--backup" = true ∧
      Name.ofText ".bak" ∉ extensionsFor c.terminal.spelling p

/-- **What a run fixes**: it is not refused, and not only a preview. -/
def Fixes (c : LintCall) (t : Tree) (scan : Scan) : Prop :=
  ∃ env p, c.env.withDefinitions c.definitions = .ok env ∧
    lintGrammar.parse c.arguments = .ok p ∧ p.value? "--ext" ≠ some .dropped ∧
    LintMode.ofArguments p = .fix true ∧ ScansFor c.terminal p env t scan

end LintCall

/-- A run in a sequence, with the tree that it starts from. -/
structure LintStep where
  call : LintCall
  tree : Tree

/-- What is rewritten among files that a run has done with. -/
def RewrittenAt (l : List Examined) (p : Place) : Prop :=
  ∃ e ∈ l, e.findings ≠ [] ∧ e.file.place = p

namespace LintStep

def treeAfter (s : LintStep) : Tree := s.call.treeAfter s.tree

/-- **A run rewrites a file** if it fixes, comes to the file, finds something in it and is not
hindered. It keeps the content of everything else (`file?_of_holds`). -/
def Rewrites (s : LintStep) (p : Place) : Prop :=
  ∃ scan l t' ending, s.call.Fixes s.tree scan ∧
    scan.Visits (.fix true) s.tree scan.files l t' ending ∧ RewrittenAt l p

/-- Where the root of the run leads to. -/
def root? (s : LintStep) : Option Place :=
  match lintGrammar.parse s.call.arguments with
  | .error _ => none
  | .ok p => (p.text? "--root").bind fun root =>
      s.tree.find? (Path.ofArgument s.call.terminal.spelling root)

end LintStep

/-- The runs of a sequence. -/
def LintCall.history : Tree → List LintCall → List LintStep
  | _, [] => []
  | t, c :: calls => ⟨c, t⟩ :: history (c.treeAfter t) calls

/-- **A tree without backups**, of a directory: no name of a file in it ends like that of a
backup. -/
structure WithoutBackups (t : Tree) : Prop where
  rooted : t.file? [] = none
  unbacked : ∀ p content, t.file? p = some content → ¬Name.ofText ".bak" <:+ p.name

/-- **The first run of a sequence that rewrites a file**: `r`, with the runs before and after it and
the content that it finds in the file. -/
structure FirstRewriting (t : Tree) (calls : List LintCall) (p : Place) (before : List LintCall)
    (r : LintCall) (after : List LintCall) (bytes : Text.Bytes) : Prop where
  split : calls = before ++ r :: after
  untouched : ∀ s ∈ LintCall.history t before, ¬s.Rewrites p
  rewrites : LintStep.Rewrites ⟨r, LintCall.treeAfterAll t before⟩ p
  content : (LintCall.treeAfterAll t before).file? p = some bytes

section Steps

variable {s : LintStep} {c : LintCall} {t : Tree} {p q : Place} {env : Environment} {args : Parsed}
  {scan scan' : Scan} {terminal : Terminal}

theorem WithoutBackups.file?_backupPlace (h : WithoutBackups t) (p : Place) :
    t.file? (backupPlace p) = none := by
  rw [Option.eq_none_iff_forall_not_mem]
  intro content hcontent
  refine h.unbacked (backupPlace p) content hcontent ?_
  rw [name_backupPlace]
  exact List.suffix_append ..

theorem LintCall.Fixes.unique (h : c.Fixes t scan) (h' : c.Fixes t scan') : scan' = scan := by
  obtain ⟨env, p, henv, hp, -, -, root, place, hroot, hplace, ho, ha, hs, hfiles⟩ := h
  obtain ⟨env', p', henv', hp', -, -, root', place', hroot', hplace', ho', ha', hs',
    hfiles'⟩ := h'
  -- the same arguments in the same environment lead to the same root
  obtain rfl := Except.ok.inj (henv.symm.trans henv')
  obtain rfl := Except.ok.inj (hp.symm.trans hp')
  obtain rfl := Option.some.inj (hroot.symm.trans hroot')
  obtain rfl := Option.some.inj (hplace.symm.trans hplace')
  obtain ⟨options, attributes, showing, files⟩ := scan
  obtain ⟨options', attributes', showing', files'⟩ := scan'
  obtain rfl := Except.ok.inj (ho.symm.trans ho')
  obtain rfl := ha.symm.trans ha'
  obtain rfl := hs.symm.trans hs'
  obtain rfl := hfiles.trans hfiles'.symm
  rfl

/-- A run that is refused writes nothing. -/
theorem tree_lintFor_of_refused
    (h : ¬∃ scan, args.value? "--ext" ≠ some .dropped ∧ ScansFor terminal args env t scan) :
    (lintFor terminal args env t).tree = t := by
  unfold lintFor
  split
  · rfl
  · next root hroot =>
    dsimp only
    split
    · rfl
    · rfl
    · next place hplace =>
      unfold lintRoot
      split
      · rfl
      · next options hoptions =>
        by_cases hext : args.value? "--ext" = some .dropped
        · rw [if_pos hext]
          rfl
        · -- otherwise there is something to scan
          exact absurd ⟨⟨options, attributesOf args, _, _⟩, hext, root, place, hroot,
            findFile_eq_ok_some_iff.mp hplace, hoptions, rfl, rfl, rfl⟩ h

/-- **The tree after a run** that fixes is that after its visits. -/
theorem LintCall.Fixes.treeAfter_eq {l : List Examined} {t' : Tree} {ending : Ending}
    (h : c.Fixes t scan) (hvisits : scan.Visits (.fix true) t scan.files l t' ending) :
    c.treeAfter t = t' := by
  obtain ⟨env, p, henv, hp, hext, hmode, hscans⟩ := h
  have hlines : l.flatMap ((LintMode.fix true).printed scan.showing) = Text.unlines [] :=
    List.flatMap_eq_nil_iff.mpr fun _ _ => rfl
  unfold treeAfter lint TreeRun.start
  rw [henv, hp]
  show (lintFor c.terminal p env t).tree = _
  rw [hscans.lintFor_eq hext, hmode]
  exact (run_of_visits hscans.spliceable hvisits _ (fun _ => hlines) _).1

/-- A run that fixes nothing, since it is refused or a preview, writes nothing. -/
theorem LintCall.BacksUp.treeAfter_eq_self (hc : c.BacksUp) (h : ¬∃ scan, c.Fixes t scan) :
    c.treeAfter t = t := by
  unfold treeAfter lint TreeRun.start
  cases henv : c.env.withDefinitions c.definitions with
  | error e => rfl
  | ok env =>
    cases hp : lintGrammar.parse c.arguments with
    | error stop => rfl
    | ok p =>
      show (lintFor c.terminal p env t).tree = t
      obtain ⟨hfix, hbackup, -⟩ := hc p hp
      by_cases hscan : ∃ scan, p.value? "--ext" ≠ some .dropped ∧ ScansFor c.terminal p env t scan
      · -- it is not refused, so it must be a preview
        obtain ⟨scan, hext, hscans⟩ := hscan
        by_cases hdry : p.has "--dry-run" = true
        · obtain ⟨l, v, ending, hpreview⟩ := scan.exists_visits .preview t scan.files
          have hlines : l.flatMap (LintMode.preview.printed scan.showing) = Text.unlines [] :=
            List.flatMap_eq_nil_iff.mpr fun _ _ => rfl
          rw [hscans.lintFor_eq hext, LintMode.ofArguments_preview hfix hdry,
            (run_of_visits hscans.spliceable hpreview _ (fun _ => hlines) _).1,
            hpreview.tree_eq rfl]
        · have hmode : LintMode.ofArguments p = .fix true :=
            hbackup ▸ LintMode.ofArguments_fix hfix (Bool.eq_false_iff.mpr hdry)
          exact absurd ⟨scan, env, p, henv, hp, hext, hmode, hscans⟩ h
      · exact tree_lintFor_of_refused hscan

namespace LintStep

/-- **What a run comes to**: files that are fixed one after the other. A run that is refused or a
preview comes to none. -/
structure Goes (s : LintStep) (scan : Scan) (files : List Located) (l : List Examined)
    (ending : Ending) : Prop where
  waiting : Waiting s.tree files
  visits : scan.Visits (.fix true) s.tree files l s.treeAfter ending
  rewrites : ∀ p, s.Rewrites p ↔ RewrittenAt l p

theorem exists_goes (hs : s.call.BacksUp) : ∃ scan files l ending, s.Goes scan files l ending := by
  by_cases hfix : ∃ scan, s.call.Fixes s.tree scan
  · obtain ⟨scan, hfix⟩ := hfix
    obtain ⟨env, p, -, -, -, -, hscans⟩ := id hfix
    obtain ⟨l, t', ending, hvisits⟩ := scan.exists_visits (.fix true) s.tree scan.files
    have htree : s.treeAfter = t' := hfix.treeAfter_eq hvisits
    refine ⟨scan, scan.files, l, ending, hscans.waiting, htree ▸ hvisits, fun p => ⟨?_, ?_⟩⟩
    · rintro ⟨scan', l', t'', ending', hfix', hvisits', hp⟩
      obtain rfl := hfix.unique hfix'
      obtain ⟨rfl, -⟩ := hvisits.unique hvisits'
      exact hp
    · exact fun hp => ⟨scan, l, t', ending, hfix, hvisits, hp⟩
  · have htree : s.treeAfter = s.tree := hs.treeAfter_eq_self hfix
    refine ⟨scanHere [], [], [], .finished, ⟨?_, List.nodup_nil⟩, ?_, fun p => ⟨?_, ?_⟩⟩
    · exact fun f hf => absurd hf List.not_mem_nil
    · rw [htree]
      exact .nil s.tree
    · rintro ⟨scan, l, t', ending, hscan, -⟩
      exact absurd ⟨scan, hscan⟩ hfix
    · rintro ⟨e, he, -⟩
      exact absurd he List.not_mem_nil

section Goes

variable {files : List Located} {l : List Examined} {ending : Ending} {e : Examined}

theorem Goes.fixedTree (h : s.Goes scan files l ending) :
    FixedTree true l (l ++ ending.pending) s.tree s.treeAfter :=
  fixedTree_of_visits h.waiting.stand h.visits

theorem Goes.holds (h : s.Goes scan files l ending) (he : e ∈ l ++ ending.pending) :
    s.tree.holds e.file.place = true :=
  h.waiting.stand _ (h.visits.map_file_prefix.subset (List.mem_map_of_mem he))

/-- What a run has examined is a file. -/
theorem Goes.isSome_file? (h : s.Goes scan files l ending) (he : e ∈ l ++ ending.pending) :
    (s.tree.file? e.file.place).isSome = true := by
  obtain ⟨before, after, hsplit⟩ := List.append_of_mem he
  obtain ⟨u, hfixed, hexamine⟩ := h.visits.exists_examine h.waiting hsplit
  rw [← hfixed.file _ (h.holds he), Scan.file?_of_examine hexamine]
  rfl

/-- **What is found in a file** is what it holds at the start, unless it is rewritten before at
another one of its places. -/
theorem Goes.file?_of_mem (h : s.Goes scan files l ending) (he : e ∈ l)
    (hother : ∀ q, s.tree.linked e.file.place q = true → s.Rewrites q → q = e.file.place) :
    s.tree.file? e.file.place = some e.bytes := by
  have he' : e ∈ l ++ ending.pending := List.mem_append_left _ he
  obtain ⟨before, after, rfl⟩ := List.append_of_mem he
  have hsplit : before ++ e :: after ++ ending.pending
      = before ++ e :: (after ++ ending.pending) := by simp
  obtain ⟨u, hfixed, hexamine⟩ := h.visits.exists_examine h.waiting hsplit
  rw [← Scan.file?_of_examine hexamine]
  symm
  refine hfixed.kept _ (h.holds he') fun d hd hfindings => ?_
  rw [Bool.eq_false_iff]
  intro hlinked
  have hrewrites : s.Rewrites d.file.place :=
    (h.rewrites _).mpr ⟨d, List.mem_append_left _ hd, hfindings, rfl⟩
  have hplace := hother _ ((Tree.linked_comm ..).trans hlinked) hrewrites
  -- two files with the same place would have the same backup
  exact h.waiting.ne_of_prefix (hsplit ▸ h.visits.map_file_prefix) d hd
    (congrArg backupPlace hplace)

end Goes

/-- **A run leaves standing** what stands. -/
theorem grows (hs : s.call.BacksUp) : s.tree.Grows s.treeAfter := by
  obtain ⟨scan, files, l, ending, h⟩ := exists_goes hs
  exact h.fixedTree.toGrows

/-- **What stands and is not rewritten**, at this place or another one of the file, is kept by a
run. -/
theorem file?_of_holds (hs : s.call.BacksUp) (hq : s.tree.holds q = true)
    (hno : ∀ x, s.tree.linked x q = true → ¬s.Rewrites x) :
    s.treeAfter.file? q = s.tree.file? q := by
  obtain ⟨scan, files, l, ending, h⟩ := exists_goes hs
  refine h.fixedTree.kept q hq fun e he hfindings => ?_
  rw [Bool.eq_false_iff]
  exact fun hlinked => hno _ hlinked ((h.rewrites _).mpr ⟨e, he, hfindings, rfl⟩)

/-- What a run rewrites is a file. -/
theorem isSome_file?_of_rewrites (hs : s.call.BacksUp) (h : s.Rewrites p) :
    (s.tree.file? p).isSome = true := by
  obtain ⟨scan, files, l, ending, hgoes⟩ := exists_goes hs
  obtain ⟨e, he, -, rfl⟩ := (hgoes.rewrites p).mp h
  exact hgoes.isSome_file? (List.mem_append_left _ he)

theorem ne_nil_of_rewrites (hs : s.call.BacksUp) (hroot : s.tree.file? [] = none)
    (h : s.Rewrites p) : p ≠ [] := by
  rintro rfl
  have hfile := isSome_file?_of_rewrites hs h
  rw [hroot] at hfile
  exact absurd hfile Bool.false_ne_true

/-- What a run rewrites is not locked. -/
theorem locks_of_rewrites (hs : s.call.BacksUp) (h : s.Rewrites p) : s.tree.locks p = false := by
  obtain ⟨scan, files, l, ending, hgoes⟩ := exists_goes hs
  obtain ⟨e, he, hfindings, rfl⟩ := (hgoes.rewrites p).mp h
  rw [Bool.eq_false_iff]
  exact fun hlocked =>
    hgoes.visits.not_hinders hgoes.waiting he hfindings _ (.lockedFile hlocked)

/-- A backup in the place of that of a file is its own. -/
theorem Goes.place_eq {files : List Located} {l : List Examined} {ending : Ending} {e : Examined}
    (h : s.Goes scan files l ending) (hroot : s.tree.file? [] = none) (hp : p ≠ [])
    (he : e ∈ l ++ ending.pending) (hplace : backupPlace p = backupPlace e.file.place) :
    e.file.place = p := by
  refine (eq_of_backupPlace_eq hp (fun hnil => ?_) hplace).symm
  have hfile := h.isSome_file? he
  rw [hnil, hroot] at hfile
  exact absurd hfile Bool.false_ne_true

/-- **Before a file is rewritten** a run leaves the place of its backup alone, if the file is not
locked. -/
theorem holds_backupPlace (hs : s.call.BacksUp) (hp : p ≠ []) (hroot : s.tree.file? [] = none)
    (hlocks : s.tree.holds p = true → s.tree.locks p = false) (hno : ¬s.Rewrites p) :
    s.treeAfter.holds (backupPlace p) = s.tree.holds (backupPlace p) := by
  obtain ⟨scan, files, l, ending, h⟩ := exists_goes hs
  rw [Bool.eq_iff_iff]
  refine ⟨fun hholds => ?_, h.fixedTree.stands _⟩
  by_contra hfree
  rw [Bool.not_eq_true] at hfree
  -- what would be new there is the backup of the file itself
  obtain ⟨-, e, he, hfindings, hplace, -⟩ := h.fixedTree.added _ hfree hholds
  obtain rfl := h.place_eq hroot hp he hplace
  rcases List.mem_append.mp he with hl | hpending
  · exact hno ((h.rewrites _).mpr ⟨e, hl, hfindings, rfl⟩)
  · rcases ending.pending_eq_nil_or with hnil | ⟨d, fault, rfl⟩
    · exact absurd (hnil ▸ hpending) List.not_mem_nil
    · obtain rfl := List.mem_singleton.mp hpending
      have hfixed := h.visits.fixedTree_unlocked h.waiting (hlocks (h.holds he))
      obtain ⟨-, d, hd, hfindings, hplace, -⟩ := hfixed.added _ hfree hholds
      have hsame := h.place_eq hroot hp (List.mem_append_left _ hd) hplace
      exact hno ((h.rewrites _).mpr ⟨d, hd, hfindings, hsame⟩)

/-- What is no file and stands is no file after a run. -/
theorem file?_eq_none (hs : s.call.BacksUp) (hq : s.tree.holds q = true)
    (hnone : s.tree.file? q = none) : s.treeAfter.file? q = none := by
  rw [← Option.not_isSome_iff_eq_none, (grows hs).file q hq, hnone]
  exact Bool.false_ne_true

/-- **The run that rewrites a file** makes its backup, unless something stands in its place. -/
theorem file?_backupPlace {bytes : Text.Bytes} (hs : s.call.BacksUp)
    (hroot : s.tree.file? [] = none) (hnone : s.tree.file? (backupPlace p) = none)
    (h : s.Rewrites p) (hbytes : s.tree.file? p = some bytes)
    (hother : ∀ q, s.tree.linked p q = true → s.Rewrites q → q = p) :
    s.treeAfter.holds (backupPlace p) = true ∧
      s.treeAfter.file? (backupPlace p)
        = if s.tree.isDirectory (backupPlace p) then none
          else some (Text.encode (Text.ofFile bytes)) := by
  have hp := ne_nil_of_rewrites hs hroot h
  obtain ⟨scan, files, l, ending, hgoes⟩ := exists_goes hs
  obtain ⟨e, he, hfindings, rfl⟩ := (hgoes.rewrites p).mp h
  obtain rfl := Option.some.inj ((hgoes.file?_of_mem he hother).symm.trans hbytes)
  have hholds := hgoes.fixedTree.backedUp rfl e he hfindings
  refine ⟨hholds, ?_⟩
  by_cases hdir : s.tree.isDirectory (backupPlace e.file.place) = true
  · rw [if_pos hdir]
    exact file?_eq_none hs (Tree.isDirectory_iff.mp hdir).1 hnone
  · have hfree := Tree.not_holds_of_isDirectory_eq_false hnone (Bool.eq_false_iff.mpr hdir)
    obtain ⟨-, d, hd, -, hplace, hcontent⟩ := hgoes.fixedTree.added _ hfree hholds
    -- no two files have the same backup
    have hapart := hgoes.waiting.nodup_of_prefix hgoes.visits.map_file_prefix
    obtain rfl := List.inj_on_of_nodup_map hapart (List.mem_append_left _ he) hd hplace
    rw [if_neg hdir, hcontent]
    rfl

/-- **Only a run with a backup as its root** rewrites it, if backups are not among the sources. -/
theorem root?_eq_of_rewrites (hs : s.call.BacksUp) (h : s.Rewrites (backupPlace p)) :
    s.root? = some (backupPlace p) := by
  obtain ⟨scan, l, t', ending, ⟨env, q, -, hq, -, -, root, place, hroot, hplace, -, -, -, hfiles⟩,
    hvisits, e, he, -, heq⟩ := h
  have hmem : e.file ∈ scan.files :=
    hvisits.map_file_prefix.subset (List.mem_map_of_mem (List.mem_append_left _ he))
  rw [hfiles] at hmem
  unfold sourceFiles at hmem
  split at hmem
  · -- the root is a file, and then it is what is rewritten
    have hfile := List.mem_singleton.mp hmem
    rw [hfile] at heq
    unfold root?
    rw [hq]
    show (q.text? "--root").bind _ = _
    rw [hroot, Option.bind_some, hplace]
    exact congrArg some heq
  · -- below a root it would have to have the extension of a source
    exfalso
    obtain ⟨hbelow, hsource⟩ := List.mem_filter.mp hmem
    obtain ⟨way, hway, hfile⟩ := List.mem_map.mp hbelow
    have hnil := (Tree.mem_below_iff_append.mp hway).1
    have hname : e.file.path.name = p.name ++ Name.ofText backupEnding := by
      have hlast := name_backupPlace p
      rw [← heq, ← hfile, Place.name, List.getLast?_append_of_ne_nil _ hnil] at hlast
      rw [← hfile, name_descend _ hnil]
      exact hlast
    have hsuffix := List.contains_iff_mem.mp (Bool.and_eq_true_iff.mp hsource).1
    rcases suffix_of_backup hname with hnone | hbak
    · exact nil_notMem_extensionsFor _ _ (hnone ▸ hsuffix)
    · exact (hs q hq).2.2 (hbak ▸ hsuffix)

end LintStep

end Steps

/-! ### A sequence of runs -/

section Sequences

open LintCall

variable {t : Tree} {c : LintCall} {calls before after : List LintCall} {r : LintCall} {p q : Place}
  {s : LintStep}

theorem call_mem_of_mem_history (h : s ∈ history t calls) : s.call ∈ calls := by
  induction calls generalizing t with
  | nil => exact absurd h List.not_mem_nil
  | cons c calls ih =>
    rcases List.mem_cons.mp h with rfl | h
    · exact List.mem_cons_self
    · exact List.mem_cons_of_mem c (ih h)

theorem treeAfterAll_append (t : Tree) (before after : List LintCall) :
    treeAfterAll t (before ++ after) = treeAfterAll (treeAfterAll t before) after :=
  List.foldl_append ..

/-- **A sequence of runs leaves standing** what stands. -/
theorem grows_treeAfterAll (hcalls : ∀ c ∈ calls, c.BacksUp) : t.Grows (treeAfterAll t calls) := by
  induction calls generalizing t with
  | nil => exact .refl t
  | cons c calls ih =>
    obtain ⟨hc, hcalls⟩ := List.forall_mem_cons.mp hcalls
    exact (LintStep.grows (s := ⟨c, t⟩) hc).trans (ih hcalls)

/-- Between two runs of a sequence nothing goes away. -/
theorem grows_of_mem_history (hcalls : ∀ c ∈ calls, c.BacksUp) (hs : s ∈ history t calls) :
    t.Grows s.tree ∧ s.tree.Grows (treeAfterAll t calls) := by
  induction calls generalizing t with
  | nil => exact absurd hs List.not_mem_nil
  | cons c calls ih =>
    obtain ⟨hc, hcalls'⟩ := List.forall_mem_cons.mp hcalls
    rcases List.mem_cons.mp hs with rfl | hs
    · exact ⟨.refl t, grows_treeAfterAll hcalls⟩
    · obtain ⟨hbefore, hafter⟩ := ih hcalls' hs
      exact ⟨(LintStep.grows (s := ⟨c, t⟩) hc).trans hbefore, hafter⟩

/-- **What every run of a sequence keeps** holds after all of them. -/
theorem treeAfterAll_of_step {P : Tree → Prop} (h : P t)
    (hstep : ∀ s ∈ history t calls, P s.tree → P s.treeAfter) : P (treeAfterAll t calls) := by
  induction calls generalizing t with
  | nil => exact h
  | cons c calls ih =>
    refine ih (hstep ⟨c, t⟩ List.mem_cons_self h) fun s hs => ?_
    exact hstep s (List.mem_cons_of_mem _ hs)

/-- The root of the tree does not become a file. -/
theorem file?_nil_treeAfterAll (hcalls : ∀ c ∈ calls, c.BacksUp) (hroot : t.file? [] = none) :
    (treeAfterAll t calls).file? [] = none := by
  rw [← Option.not_isSome_iff_eq_none,
    (grows_treeAfterAll hcalls).file [] (Tree.holds_iff.mpr (.inl rfl)), hroot]
  exact Bool.false_ne_true

/-- **As long as a file is not rewritten** the place of its backup stays as it is, unless the file
is locked. -/
theorem free_treeAfterAll (hcalls : ∀ c ∈ calls, c.BacksUp) (hp : p ≠ [])
    (hroot : t.file? [] = none) (hnone : t.file? (backupPlace p) = none)
    (hlocks : ∀ s ∈ history t calls, s.tree.holds p = true → s.tree.locks p = false)
    (hno : ∀ s ∈ history t calls, ¬s.Rewrites p) :
    (treeAfterAll t calls).file? (backupPlace p) = none ∧
      (treeAfterAll t calls).isDirectory (backupPlace p) = t.isDirectory (backupPlace p) := by
  have hholds : (treeAfterAll t calls).holds (backupPlace p) = t.holds (backupPlace p) := by
    refine treeAfterAll_of_step (P := fun t' => t'.holds (backupPlace p) = t.holds (backupPlace p))
      rfl fun s hs hsame => ?_
    have hcall := hcalls _ (call_mem_of_mem_history hs)
    have hroot' : s.tree.file? [] = none := by
      rw [← Option.not_isSome_iff_eq_none,
        (grows_of_mem_history hcalls hs).1.file [] (Tree.holds_iff.mpr (.inl rfl)), hroot]
      exact Bool.false_ne_true
    rw [LintStep.holds_backupPlace hcall hp hroot' (hlocks s hs) (hno s hs), hsame]
  have hnone' : (treeAfterAll t calls).file? (backupPlace p) = none := by
    cases hfree : t.holds (backupPlace p) with
    | true =>
      rw [← Option.not_isSome_iff_eq_none, (grows_treeAfterAll hcalls).file _ hfree, hnone]
      exact Bool.false_ne_true
    | false =>
      rw [Option.eq_none_iff_forall_not_mem]
      intro content hcontent
      rw [hfree] at hholds
      exact absurd (Tree.holds_of_file? hcontent) (Bool.eq_false_iff.mp hholds)
  refine ⟨hnone', ?_⟩
  unfold Tree.isDirectory
  rw [hnone', hholds, hnone]

/-- What stands in a tree and is never rewritten is kept, if no other place leads to it. -/
theorem file?_treeAfterAll_of_holds (hcalls : ∀ c ∈ calls, c.BacksUp) (hq : t.holds q = true)
    (hsingle : ∀ x, t.linked x q = true → x = q)
    (hno : ∀ s ∈ history t calls, ¬s.Rewrites q) :
    (treeAfterAll t calls).file? q = t.file? q := by
  refine treeAfterAll_of_step (P := fun t' => t'.file? q = t.file? q) rfl fun s hs hfile => ?_
  have hgrows := (grows_of_mem_history hcalls hs).1
  rw [LintStep.file?_of_holds (hcalls _ (call_mem_of_mem_history hs)) (hgrows.stands q hq), hfile]
  intro x hlinked
  rw [hgrows.linked] at hlinked
  obtain rfl := hsingle x hlinked
  exact hno s hs

/-- If any run rewrites a file, there is a first one. -/
theorem exists_firstRewriting (hcalls : ∀ c ∈ calls, c.BacksUp)
    (h : ∃ s ∈ history t calls, s.Rewrites p) :
    ∃ before r after bytes, FirstRewriting t calls p before r after bytes := by
  induction calls generalizing t with
  | nil =>
    obtain ⟨s, hs, -⟩ := h
    exact absurd hs List.not_mem_nil
  | cons c calls ih =>
    -- either it is this run, or it comes later and this run is one of those before it
    obtain ⟨hcall, hcalls⟩ := List.forall_mem_cons.mp hcalls
    by_cases hc : LintStep.Rewrites ⟨c, t⟩ p
    · obtain ⟨bytes, hbytes⟩ :=
        Option.isSome_iff_exists.mp (LintStep.isSome_file?_of_rewrites hcall hc)
      exact ⟨[], c, calls, bytes, rfl, fun s hs => absurd hs List.not_mem_nil, hc, hbytes⟩
    · obtain ⟨s, hs, hrewrites⟩ := h
      rcases List.mem_cons.mp hs with rfl | hs
      · exact absurd hrewrites hc
      · obtain ⟨before, r, after, bytes, rfl, huntouched, hr, hbytes⟩ :=
          ih hcalls ⟨s, hs, hrewrites⟩
        refine ⟨c :: before, r, after, bytes, rfl, fun s hs => ?_, hr, hbytes⟩
        rcases List.mem_cons.mp hs with rfl | hs
        · exact hc
        · exact huntouched s hs

/-- **What a backup holds** after a sequence of runs: the text of the file, written anew. -/
theorem FirstRewriting.file?_backupPlace {bytes : Text.Bytes}
    (h : FirstRewriting t calls p before r after bytes) (ht : WithoutBackups t)
    (hcalls : ∀ c ∈ calls, c.BacksUp)
    (hother : ∀ q, t.linked p q = true → LintStep.Rewrites ⟨r, treeAfterAll t before⟩ q → q = p)
    (hafter : ∀ s ∈ history (r.treeAfter (treeAfterAll t before)) after,
      s.root? ≠ some (backupPlace p)) :
    (treeAfterAll t calls).file? (backupPlace p)
      = if t.isDirectory (backupPlace p) then none
        else some (Text.encode (Text.ofFile bytes)) := by
  obtain ⟨rfl, huntouched, hr, hbytes⟩ := h
  have hfirst : ∀ c ∈ before, c.BacksUp := fun c hc => hcalls c (List.mem_append_left _ hc)
  have hthis : r.BacksUp := hcalls r (List.mem_append_right _ List.mem_cons_self)
  have hlater : ∀ c ∈ after, c.BacksUp := fun c hc =>
    hcalls c (List.mem_append_right _ (List.mem_cons_of_mem r hc))
  have hgrows : t.Grows (treeAfterAll t before) := grows_treeAfterAll hfirst
  have hroot := file?_nil_treeAfterAll hfirst ht.rooted
  have hp : p ≠ [] := LintStep.ne_nil_of_rewrites hthis hroot hr
  -- up to `r` nothing is done to the place of the backup
  have hlocks : ∀ s ∈ history t before, s.tree.holds p = true → s.tree.locks p = false := by
    intro s hs hholds
    have hgrows := (grows_of_mem_history hfirst hs).2
    rw [← hgrows.locks_eq hholds]
    exact LintStep.locks_of_rewrites hthis hr
  obtain ⟨hnone, hdir⟩ :=
    free_treeAfterAll hfirst hp ht.rooted (ht.file?_backupPlace p) hlocks huntouched
  have hthisOther : ∀ q, (treeAfterAll t before).linked p q = true →
      LintStep.Rewrites ⟨r, treeAfterAll t before⟩ q → q = p := by
    intro q hlinked hq
    rw [hgrows.linked] at hlinked
    exact hother q hlinked hq
  obtain ⟨hstands, hbackup⟩ :=
    LintStep.file?_backupPlace hthis hroot hnone hr hbytes hthisOther
  -- after `r` something stands there, to which no other place leads, and no run rewrites it
  have hsingle : ∀ x, (r.treeAfter (treeAfterAll t before)).linked x (backupPlace p) = true →
      x = backupPlace p := by
    intro x hlinked
    have hr : (treeAfterAll t before).Grows (r.treeAfter (treeAfterAll t before)) :=
      LintStep.grows (s := ⟨r, treeAfterAll t before⟩) hthis
    rw [hr.linked, hgrows.linked, Tree.linked_comm] at hlinked
    exact (Tree.eq_of_linked_of_file?_eq_none (ht.file?_backupPlace p) hlinked).symm
  have hkept := file?_treeAfterAll_of_holds hlater hstands hsingle fun s hs h =>
    hafter s hs (LintStep.root?_eq_of_rewrites (hlater _ (call_mem_of_mem_history hs)) h)
  rw [treeAfterAll_append, ← hdir]
  exact hkept.trans hbackup

/-- **When a backup restores the original.** Let a file be rewritten in a sequence of runs that fix
files and back them up. Let the first run that does so rewrite it at no other one of its places, and
let no later run have the backup as its root. Then the backup holds, in the end, the file as it was
before, exactly if its bytes are those of a text without carriage returns and no directory stands in
the place of the backup. -/
theorem backup_restores_iff (ht : WithoutBackups t) (hcalls : ∀ c ∈ calls, c.BacksUp)
    (hp : ∃ s ∈ history t calls, s.Rewrites p) :
    ∃ before r after bytes, FirstRewriting t calls p before r after bytes ∧
      ((∀ q, t.linked p q = true → LintStep.Rewrites ⟨r, treeAfterAll t before⟩ q → q = p) →
        (∀ s ∈ history (r.treeAfter (treeAfterAll t before)) after,
          s.root? ≠ some (backupPlace p)) →
        ((treeAfterAll t calls).file? (backupPlace p) = some bytes ↔
          t.isDirectory (backupPlace p) = false ∧
            ∃ text : Text, '\r' ∉ text ∧ bytes = Text.encode text)) := by
  obtain ⟨before, r, after, bytes, hfirst⟩ := exists_firstRewriting hcalls hp
  refine ⟨before, r, after, bytes, hfirst, fun hother hafter => ?_⟩
  rw [hfirst.file?_backupPlace ht hcalls hother hafter]
  cases t.isDirectory (backupPlace p) with
  | true =>
    -- there is no backup, so it restores nothing
    rw [if_pos rfl]
    exact iff_of_false (by nofun) fun h => absurd h.1 (by nofun)
  | false =>
    rw [if_neg Bool.false_ne_true, Option.some.injEq, Text.encode_ofFile_eq_iff]
    exact (and_iff_right rfl).symm

end Sequences

/-! ### One file -/

section OneFile

variable {content : Text.Bytes} {p q : Place}

/-- A tree of one source. -/
def oneFile (content : Text.Bytes) : Tree where
  files := [([Name.ofText "a.jsx"], content)]

/-- The run that fixes this source after a backup of it. -/
def fixingCall : LintCall where
  terminal := .strict
  arguments := ["--fix", "--backup", "--root", "a.jsx"]
  env := []
  definitions := []

theorem withoutBackups_oneFile (content : Text.Bytes) : WithoutBackups (oneFile content) := by
  refine ⟨rfl, fun p old h => ?_⟩
  obtain rfl := (Prod.mk.inj (List.mem_singleton.mp (Tree.mem_files_of_file? h))).1
  decide

theorem eq_of_linked_oneFile (h : (oneFile content).linked p q = true) : q = p := by
  rcases Tree.linked_iff.mp h with rfl | ⟨-, group, hgroup, -⟩
  · rfl
  · exact absurd hgroup List.not_mem_nil

theorem parse_fixingCall : lintGrammar.parse fixingCall.arguments
    = .ok { values := [("--fix", .given), ("--backup", .given), ("--root", .text "a.jsx")] } := by
  have hroot : lintGrammar.parse ["--root", "a.jsx"]
      = .ok { values := [("--root", .text "a.jsx")] } := parse_root (by decide)
  show lintGrammar.parse ((LintMode.fix true).flags ++ (["--root", "a.jsx"] : List Text)) = _
  rw [parse_flags_append (LintMode.fix true).flags_subset, hroot]
  rfl

theorem backsUp_fixingCall : fixingCall.BacksUp := by
  intro p hp
  obtain rfl := Except.ok.inj (parse_fixingCall.symm.trans hp)
  decide

theorem fixes_oneFile (content : Text.Bytes) :
    fixingCall.Fixes (oneFile content) (scanHere [topFile (Name.ofText "a.jsx")]) :=
  ⟨[], _, Environment.withDefinitions_nil [], parse_fixingCall, by nofun, rfl,
    "a.jsx", [Name.ofText "a.jsx"], rfl, rfl, rfl, rfl, rfl, rfl⟩

theorem not_hinders_oneFile (fault : Fault) :
    ¬Hinders (oneFile content) true (topFile (Name.ofText "a.jsx")) fault := by
  intro h
  cases h with
  | longName hbackup hfits => exact absurd hfits (by decide)
  | lockedDirectory hbackup hfree hlocked => exact absurd hlocked List.not_mem_nil
  | lockedFile hlocked => exact absurd hlocked Bool.false_ne_true

/-- The run rewrites the source if there is a class list to fix in it. -/
theorem rewrites_oneFile
    (h : Jsx.findings default Jsx.defaultAttributes (Text.ofFile content) ≠ []) :
    LintStep.Rewrites ⟨fixingCall, oneFile content⟩ [Name.ofText "a.jsx"] := by
  let e : Examined := ⟨topFile (Name.ofText "a.jsx"), content,
    Jsx.findings default Jsx.defaultAttributes (Text.ofFile content)⟩
  have hexamine : (scanHere [e.file]).examine (oneFile content) e.file = .ok e :=
    Scan.examine_eq_ok_iff.mpr ⟨rfl, rfl, Jsx.defaultAttributes, rfl, rfl⟩
  rcases fixFile_cases true (Scan.file?_of_examine hexamine) with
    ⟨-, hfix⟩ | ⟨fault, u, hhinders, -⟩
  · have hact : (LintMode.fix true).act Terminal.strict.showing (oneFile content) e = _ :=
      (if_neg h).trans hfix
    exact ⟨_, [e], _, .finished, fixes_oneFile content, .cons hexamine hact (.nil _), e,
      List.mem_cons_self, h, rfl⟩
  · exact absurd hhinders (not_hinders_oneFile fault)

/-- No run has the backup as its root, whatever it starts from. -/
theorem root?_fixingCall (t : Tree) :
    LintStep.root? ⟨fixingCall, t⟩ ≠ some (backupPlace [Name.ofText "a.jsx"]) := by
  unfold LintStep.root?
  rw [parse_fixingCall]
  show t.walk [] [Name.ofText "a.jsx"] ≠ _
  rw [Tree.walk]
  split_ifs with hdir hup hroot hstands
  · exact absurd hup (by decide)
  · exact absurd hup (by decide)
  · rw [Tree.walk]
    decide
  · nofun
  · nofun

end OneFile

/-- A source with a class list, in a line that ends in a newline. -/
def plainSource : Text.Bytes :=
  Text.encode "<p className=\"mt-4 flex p-2 text-sm\" />\n"

theorem backup_restores_plainSource :
    WithoutBackups (oneFile plainSource) ∧ fixingCall.BacksUp ∧
    LintStep.Rewrites ⟨fixingCall, oneFile plainSource⟩ [Name.ofText "a.jsx"] ∧
    (∀ q, (oneFile plainSource).linked [Name.ofText "a.jsx"] q = true → q = [Name.ofText "a.jsx"]) ∧
    (LintCall.treeAfterAll (oneFile plainSource) [fixingCall, fixingCall]).file?
        [Name.ofText "a.jsx.bak"]
      = some plainSource := by
  have hrewrites : LintStep.Rewrites ⟨fixingCall, oneFile plainSource⟩ [Name.ofText "a.jsx"] :=
    rewrites_oneFile (by decide +kernel)
  have hcalls : ∀ c ∈ [fixingCall, fixingCall], c.BacksUp := by
    intro c hc
    obtain rfl : c = fixingCall := by simpa using hc
    exact backsUp_fixingCall
  have hsingle : ∀ q, (oneFile plainSource).linked [Name.ofText "a.jsx"] q = true →
      q = [Name.ofText "a.jsx"] := fun q => eq_of_linked_oneFile
  obtain ⟨before, r, after, bytes, ⟨hsplit, huntouched, -, hbytes⟩, hrestores⟩ :=
    backup_restores_iff (withoutBackups_oneFile plainSource) hcalls
      ⟨_, List.mem_cons_self, hrewrites⟩
  -- the first run rewrites the source already
  cases before with
  | cons c before =>
    obtain rfl : fixingCall = c := (List.cons.inj hsplit).1
    exact absurd hrewrites (huntouched _ List.mem_cons_self)
  | nil =>
    obtain ⟨rfl, rfl⟩ := List.cons.inj hsplit
    obtain rfl : plainSource = bytes := Option.some.inj hbytes
    refine ⟨withoutBackups_oneFile _, backsUp_fixingCall, hrewrites, hsingle, ?_⟩
    refine (hrestores (fun q hlinked _ => hsingle q hlinked) fun s hs => ?_).mpr
      ⟨by decide, _, by decide, rfl⟩
    obtain rfl := List.mem_singleton.mp hs
    exact root?_fixingCall _

/-- The same source, in a line that ends in two characters. -/
def returnedSource : Text.Bytes :=
  Text.encode "<p className=\"mt-4 flex p-2 text-sm\" />\r\n"

theorem not_backup_restores_returnedSource :
    WithoutBackups (oneFile returnedSource) ∧ fixingCall.BacksUp ∧
    LintStep.Rewrites ⟨fixingCall, oneFile returnedSource⟩ [Name.ofText "a.jsx"] ∧
    (oneFile returnedSource).file? [Name.ofText "a.jsx"] = some returnedSource ∧
    (fixingCall.treeAfter (oneFile returnedSource)).file? [Name.ofText "a.jsx.bak"]
      ≠ some returnedSource := by
  have hrewrites : LintStep.Rewrites ⟨fixingCall, oneFile returnedSource⟩ [Name.ofText "a.jsx"] :=
    rewrites_oneFile (by decide +kernel)
  refine ⟨withoutBackups_oneFile _, backsUp_fixingCall, hrewrites, rfl, fun h => ?_⟩
  have hlost : Text.encode (Text.ofFile returnedSource) ≠ returnedSource := by decide
  obtain ⟨-, hbackup⟩ := LintStep.file?_backupPlace backsUp_fixingCall rfl (by decide) hrewrites rfl
    fun q hlinked _ => eq_of_linked_oneFile hlinked
  -- the backup holds another text
  rw [if_neg (by decide)] at hbackup
  exact hlost (Option.some.inj (hbackup.symm.trans h))

end ClassGroups.Command
