import ClassGroups.Proofs.Audit.Reports

/-!
# An audit writes all of its report or nothing

The audit tool reads every HTML file below a directory before it writes its report into the
directory. The main statement, `audit_all_or_nothing`, says how its runs end, for all trees,
arguments and environments (`AuditEnds`). Either nothing is done, because no job is asked for or
because something with the name of an HTML file, or the report itself, cannot be used; the tree is
then as it was. Or the report is the only thing that is written, and read back from the tree it has
an entry for each file with elements to group, in the order of the names on the way. What the run
prints are the numbers of this report.

Three things spoil this, all of them behind the last file that is read. If a file with a name that
is no text is to be in the report, the report is emptied and the run breaks off. If the report is
written but cannot be read again for its numbers, or its path cannot be printed, the run breaks off
before it prints them.

Another run from the tree that is left comes to the same, since the walk skips the name of the
report (`Tree.filter_below_write`) and all it reads is as before, unless the file of the report is
one of those that are read (`AuditJob.ReportApart`). Help on the arguments is no job, although the
run does not fail. That all of these cases occur is `audit_not_all_or_nothing`.
-/

namespace ClassGroups.Command

open Arguments Files

/-! ### How a run ends -/

namespace AuditJob

/-- **Nothing but the report is changed.** What stands goes on to stand, and only the report may be
new. -/
structure ChangesReport (j : AuditJob) (t t' : Tree) : Prop extends Tree.Grows t t' where
  /-- All other files are as they were. -/
  kept : ∀ p, t.linked j.report.place p = false → t'.file? p = t.file? p
  new : ∀ p, t'.holds p = true → t.holds p = true ∨ p = j.report.place

/-- **The report has a file of its own**, as far as the job is concerned: none of the HTML files
below the root is at another place of the same file. -/
def ReportApart (j : AuditJob) (t : Tree) : Prop :=
  ∀ way, IsHtmlWay way → t.linked j.report.place (j.root.place ++ way) = false

end AuditJob

/-- **A report is written**, and nothing else is changed. -/
structure AuditJob.Writes (j : AuditJob) (t t' : Tree) (files : List AuditedFile) : Prop where
  clean : ∀ fault, ¬j.IsBrokenBy t fault
  /-- The files are those that there are to list, -/
  listed : ∀ f, f ∈ files ↔ j.Lists t f
  /-- in the order of the names on the way to them. -/
  ordered : files.Pairwise fun f g => f.way < g.way
  changes : j.ChangesReport t t'
  /-- What stands in the place of the report is read back as a report on them. -/
  stored : ∃ content report, t'.file? j.report.place = some content ∧
    Json.read? (Text.ofFile content) = some report ∧ IsReportOn j.options files report

/-- **How a run of the audit tool ends.** -/
inductive AuditEnds (terminal : Terminal) (arguments : List Text) (env : Environment)
    (definitions : Text) (t : Tree) (r : TreeRun) : Prop
  /-- No job is asked for: the run fails or gives help. -/
  | refused (hjob : ∀ j : AuditJob, ¬j.IsAskedBy terminal arguments env definitions t)
      (hstop : r.outcome.status ≠ 0 ∨
        ∃ program, auditGrammar.parse arguments = .error (.help program))
      (htree : r.tree = t)
  /-- The job is broken off before anything is written. -/
  | broken (j : AuditJob) (hjob : j.IsAskedBy terminal arguments env definitions t) (fault : Fault)
      (hfault : j.IsBrokenBy t fault) (hrun : r.BreaksOff fault) (houtput : r.outcome.output = [])
      (htree : r.tree = t)
  /-- There is a file to list on whose way a name is no text. The report is emptied. -/
  | emptied (j : AuditJob) (hjob : j.IsAskedBy terminal arguments env definitions t)
      (hclean : ∀ fault, ¬j.IsBrokenBy t fault) (f : AuditedFile) (hf : j.Lists t f)
      (n : Name) (hn : n ∈ f.way) (hname : ¬n.IsText) (content : Name)
      (hrun : r.BreaksOff (.notEncoded content)) (houtput : r.outcome.output = [])
      (htree : j.ChangesReport t r.tree) (hreport : r.tree.file? j.report.place = some [])
  /-- The report is written, but cannot be read again for its numbers. -/
  | unread (j : AuditJob) (hjob : j.IsAskedBy terminal arguments env definitions t)
      (files : List AuditedFile) (hwrites : j.Writes t r.tree files)
      (hunreadable : t.isUnreadable j.report.place = true)
      (hrun : r.BreaksOff (.denied j.report.path)) (houtput : r.outcome.output = [])
  /-- The report is written, but its path cannot be printed. -/
  | unannounced (j : AuditJob) (hjob : j.IsAskedBy terminal arguments env definitions t)
      (files : List AuditedFile) (hwrites : j.Writes t r.tree files)
      (hpath : ¬j.report.path.IsShown terminal.showing)
      (hrun : r.BreaksOff (.notEncoded (Name.ofText (auditLine files) ++ j.report.path.print)))
      (houtput : r.outcome.output = [])
  /-- The job is done. -/
  | done (j : AuditJob) (hjob : j.IsAskedBy terminal arguments env definitions t)
      (files : List AuditedFile) (hwrites : j.Writes t r.tree files)
      (path : Text) (hpath : j.report.path.print.shown? terminal.showing = some path)
      (hrun : r.Ends 0 [auditLine files ++ path])

/-! ### A run on a directory -/

namespace AuditJob

section Run

variable {j : AuditJob} {t : Tree} {files : List AuditedFile} {fault : Fault}

/-- What is left in the place of the report. -/
def content (j : AuditJob) (files : List AuditedFile) : Text.Bytes :=
  match reportContent j.options files with
  | .ok s => Text.encode s
  | .error _ => []

/-- The outcome of a run that can write the report. -/
def outcome (j : AuditJob) (t : Tree) (files : List AuditedFile) : Outcome :=
  match reportContent j.options files with
  | .error fault => .broken fault
  | .ok s =>
    if t.isUnreadable j.report.place then .broken (.denied j.report.path)
    else
      let (printed, fault?) :=
        printLines j.showing [auditSummary (reportOf (Text.encode s)) j.report.path]
      { status := if fault?.isSome then 1 else 0, output := printed, fault? }

theorem auditDirectory_of_error (h : auditFiles j.options t j.root = .error fault) :
    auditDirectory j.showing j.options t j.root = .broken fault t := by
  unfold auditDirectory
  rw [h]

theorem auditDirectory_of_refusal (haudit : auditFiles j.options t j.root = .ok files)
    (h : refusal? t j.report = some fault) :
    auditDirectory j.showing j.options t j.root = .broken fault t := by
  have hwrite (content : Except Fault Text) : writeFile t (reportIn j.root) content = _ :=
    writeFile_of_refusal h content
  unfold auditDirectory
  rw [haudit]
  dsimp only
  rw [writeReport, hwrite]

theorem auditDirectory_of_none (haudit : auditFiles j.options t j.root = .ok files)
    (h : refusal? t j.report = none) :
    auditDirectory j.showing j.options t j.root
      = ⟨j.outcome t files, t.write j.report.place (j.content files)⟩ := by
  unfold auditDirectory outcome content
  rw [haudit]
  dsimp only
  cases hcontent : reportContent j.options files with
  | error fault =>
    have hwrite : writeFile t (reportIn j.root) _ = _ := writeFile_of_error h fault
    rw [writeReport, hcontent, hwrite]
    rfl
  | ok s =>
    have hwrite : writeFile t (reportIn j.root) _ = _ := writeFile_of_none h s
    have hread : readFile (t.write j.report.place (Text.encode s)) (reportIn j.root) = _ :=
      readFile_write_self t j.report (Text.encode s)
    rw [writeReport, hcontent, hwrite]
    dsimp only
    rw [hread]
    cases t.isUnreadable j.report.place <;> rfl

/-- The outcome if the report cannot be read again. -/
theorem outcome_of_isUnreadable {s : Text} (hcontent : reportContent j.options files = .ok s)
    (h : t.isUnreadable j.report.place = true) :
    j.outcome t files = .broken (.denied j.report.path) := by
  unfold outcome
  rw [hcontent]
  exact if_pos h

/-- What is printed if the report can be read again. -/
theorem outcome_of_readable {entries : List Json}
    (hcontent : reportContent j.options files = .ok ((reportWith j.options entries).pretty "  "))
    (hentries : List.Forall₂ IsEntryFor files entries)
    (hreadable : t.isUnreadable j.report.place = false) :
    j.outcome t files
      = let (printed, fault?) :=
          printLines j.showing [Name.ofText (auditLine files) ++ j.report.path.print]
        { status := if fault?.isSome then 1 else 0, output := printed, fault? } := by
  unfold outcome reportOf
  rw [hcontent]
  dsimp only
  rw [hreadable, if_neg Bool.false_ne_true, read?_reportWith j.options hentries, Option.getD_some,
    auditSummary_eq j.options hentries]

/-- The name of the report is short enough. -/
theorem refusal?_report (hdir : t.isDirectory j.report.place = false) :
    refusal? t j.report
      = if t.locks j.report.place then some (.denied j.report.path) else none := by
  apply refusal?_of_fits hdir
  show (j.root.place ++ [_]).name.fits = true
  rw [Place.name, List.getLast?_concat]
  decide

theorem refusal?_report_eq_none (hdir : t.isDirectory j.report.place = false)
    (hlocks : t.locks j.report.place = false) : refusal? t j.report = none := by
  rw [refusal?_report hdir, hlocks]
  rfl

/-- **What stands in the way of the report** breaks the job off. -/
theorem refusal?_report_cases (j : AuditJob) (t : Tree) :
    (∃ fault, j.IsBrokenBy t fault ∧ refusal? t j.report = some fault) ∨
    t.isDirectory j.report.place = false ∧ t.locks j.report.place = false ∧
      refusal? t j.report = none := by
  cases hdir : t.isDirectory j.report.place with
  | true => exact .inl ⟨_, .reportDirectory hdir, if_pos hdir⟩
  | false =>
    cases hlocks : t.locks j.report.place with
    | true =>
      rw [refusal?_report hdir, hlocks]
      exact .inl ⟨_, .reportLocked hlocks, rfl⟩
    | false => exact .inr ⟨rfl, rfl, refusal?_report_eq_none hdir hlocks⟩

/-- What can be written can be written once more. -/
theorem refusal?_report_write (hlocks : t.locks j.report.place = false) (content : Text.Bytes) :
    refusal? (t.write j.report.place content) j.report = none := by
  have hfile : ((t.write j.report.place content).file? j.report.place).isSome = true := by
    rw [Tree.file?_write_self]
    rfl
  rw [refusal?_of_isSome hfile, if_neg]
  exact Bool.eq_false_iff.mp (Tree.locks_write_self hlocks)

/-- **How a job is done**: it is broken off, or the report is written or emptied. -/
theorem auditDirectory_cases (j : AuditJob) (t : Tree) :
    (∃ fault, j.IsBrokenBy t fault ∧
      auditDirectory j.showing j.options t j.root = .broken fault t) ∨
    ∃ files, auditFiles j.options t j.root = .ok files ∧
      t.isDirectory j.report.place = false ∧ t.locks j.report.place = false ∧
      auditDirectory j.showing j.options t j.root
        = ⟨j.outcome t files, t.write j.report.place (j.content files)⟩ := by
  cases haudit : auditFiles j.options t j.root with
  | error fault =>
    exact .inl ⟨fault, isBrokenBy_of_auditFiles_eq_error haudit, auditDirectory_of_error haudit⟩
  | ok files =>
    rcases refusal?_report_cases j t with ⟨fault, hfault, hrefusal⟩ | ⟨hdir, hlocks, hrefusal⟩
    · exact .inl ⟨fault, hfault, auditDirectory_of_refusal haudit hrefusal⟩
    · exact .inr ⟨files, rfl, hdir, hlocks, auditDirectory_of_none haudit hrefusal⟩

/-- A write in the place of the report changes nothing else. -/
theorem changesReport_write (hroot : t.isDirectory j.root.place = true)
    (hdir : t.isDirectory j.report.place = false) (content : Text.Bytes) :
    j.ChangesReport t (t.write j.report.place content) where
  toGrows := Tree.grows_write hdir
  kept := fun _ hp => Tree.file?_write_of_not_linked hp
  new := fun _ => (Tree.holds_write_child_iff (Tree.isDirectory_iff.mp hroot).1).mp

/-- The walk skips the report. -/
theorem ways_write (hroot : t.isDirectory j.root.place = true) (content : Text.Bytes) :
    j.ways (t.write j.report.place content) = j.ways t := by
  apply Tree.filter_below_write (Tree.isDirectory_iff.mp hroot).1
  rw [Bool.eq_false_iff, ne_eq, isHtml_descend_iff _ (List.cons_ne_nil _ [])]
  exact not_isHtmlWay_reportName

/-- **What the job reads** is the same after a write in the place of the report, if that is
apart. -/
theorem auditFiles_write (hroot : t.isDirectory j.root.place = true)
    (hdir : t.isDirectory j.report.place = false) (hapart : j.ReportApart t)
    (content : Text.Bytes) :
    auditFiles j.options (t.write j.report.place content) j.root
      = auditFiles j.options t j.root := by
  rw [auditFiles_eq, auditFiles_eq, ways_write hroot]
  congr 1
  refine mapM_congr_of_mem fun way hway => ?_
  obtain ⟨hhtml, hholds⟩ := mem_filter_isHtml_iff.mp hway
  have hfile : (t.write j.report.place content).file? (j.root.place ++ way)
      = t.file? (j.root.place ++ way) := Tree.file?_write_of_not_linked (hapart way hhtml)
  have hread : readFile (t.write j.report.place content) ⟨j.root.path.descend way, _⟩ = _ :=
    readFile_congr hfile ((Tree.grows_write hdir).isUnreadable_eq hholds)
  unfold auditFile
  rw [hread]

/-- **Once more**, a job comes to the same from the tree that it has left. -/
theorem auditDirectory_again (hroot : t.isDirectory j.root.place = true)
    (hapart : j.ReportApart t) :
    auditDirectory j.showing j.options (auditDirectory j.showing j.options t j.root).tree j.root
      = auditDirectory j.showing j.options t j.root := by
  rcases auditDirectory_cases j t with
    ⟨fault, -, hbroken⟩ | ⟨files, haudit, hdir, hlocks, hdone⟩
  · rw [hbroken]
    exact hbroken
  · have haudit' := (auditFiles_write hroot hdir hapart (j.content files)).trans haudit
    have houtcome : j.outcome (t.write j.report.place (j.content files)) files
        = j.outcome t files := by
      unfold outcome
      rw [Tree.isUnreadable_write_self]
    rw [hdone]
    show auditDirectory j.showing j.options (t.write j.report.place (j.content files)) j.root = _
    rw [auditDirectory_of_none haudit' (refusal?_report_write hlocks _), Tree.write_write, houtcome]

end Run

/-! ### The tool -/

section Tool

variable {j : AuditJob} {terminal : Terminal} {p : Parsed} {env : Environment} {t : Tree}
  {files : List AuditedFile}

/-- **A job that is asked for** is done. -/
theorem IsChosenBy.auditFor_eq (h : j.IsChosenBy terminal p env t) :
    auditFor terminal p env t = auditDirectory j.showing j.options t j.root := by
  obtain ⟨root, hroot, hpath⟩ := h.rooted
  have hfound : findFile t (Path.ofArgument terminal.spelling root) = .ok (some j.root.place) := by
    rw [hpath]
    exact findFile_eq_ok_some_iff.mpr h.stands
  have hdirectory : (some j.root.place).filter t.isDirectory = some j.root.place :=
    Option.filter_eq_some_iff.mpr ⟨rfl, h.directory⟩
  simp only [auditFor, hroot, hfound, hdirectory, h.options]
  rw [hpath, h.showing]

/-- The same job is asked for after a write in the place of the report. -/
theorem IsChosenBy.write (h : j.IsChosenBy terminal p env t)
    (hdir : t.isDirectory j.report.place = false) (content : Text.Bytes) :
    j.IsChosenBy terminal p env (t.write j.report.place content) where
  rooted := h.rooted
  stands := Tree.find?_write hdir h.stands
  directory := Tree.isDirectory_write hdir h.directory
  options := h.options
  showing := h.showing

/-- If no job is asked for, the run fails and touches nothing. -/
theorem auditFor_cases (terminal : Terminal) (p : Parsed) (env : Environment) (t : Tree) :
    (∃ j : AuditJob, j.IsChosenBy terminal p env t) ∨
    (∀ j : AuditJob, ¬j.IsChosenBy terminal p env t) ∧
      (auditFor terminal p env t).outcome.status ≠ 0 ∧ (auditFor terminal p env t).tree = t := by
  unfold auditFor
  cases hroot : p.text? "--root" with
  | none =>
    -- a job names its root
    refine .inr ⟨fun j hj => ?_, Nat.one_ne_zero, rfl⟩
    obtain ⟨root, hsome, -⟩ := hj.rooted
    exact absurd (hroot.symm.trans hsome) nofun
  | some root =>
    have hfind {j : AuditJob} (hj : j.IsChosenBy terminal p env t) :
        findFile t (Path.ofArgument terminal.spelling root) = .ok (some j.root.place) := by
      obtain ⟨root', hsome, hpath⟩ := hj.rooted
      obtain rfl := Option.some.inj (hroot.symm.trans hsome)
      rw [hpath]
      exact findFile_eq_ok_some_iff.mpr hj.stands
    dsimp only
    cases hfound : findFile t (Path.ofArgument terminal.spelling root) with
    | error fault =>
      -- the root of a job can be looked for
      refine .inr ⟨fun j hj => ?_, Nat.one_ne_zero, rfl⟩
      exact absurd (hfound.symm.trans (hfind hj)) nofun
    | ok found? =>
      dsimp only
      cases hdirectory : found?.filter t.isDirectory with
      | none =>
        -- the root of a job is a directory
        refine .inr ⟨fun j hj => ?_, Nat.one_ne_zero, rfl⟩
        obtain rfl := Except.ok.inj (hfound.symm.trans (hfind hj))
        exact Option.filter_eq_none_iff.mp hdirectory _ rfl hj.directory
      | some place =>
        obtain ⟨rfl, hdir⟩ := Option.filter_eq_some_iff.mp hdirectory
        cases hoptions : optionsOf env p [("min_tokens", "--min-tokens")] with
        | error e =>
          -- only the options are left to be at fault
          refine .inr ⟨fun j hj => ?_, Nat.succ_ne_zero 1, rfl⟩
          exact absurd (hoptions.symm.trans hj.options) nofun
        | ok o =>
          exact .inl ⟨⟨o, ⟨Path.ofArgument terminal.spelling root, place⟩, _⟩, ⟨root, hroot, rfl⟩,
            findFile_eq_ok_some_iff.mp hfound, hdir, hoptions, rfl⟩

/-- **A command line once more** comes to the same. -/
theorem auditFor_again (hapart : ∀ j : AuditJob, j.IsChosenBy terminal p env t → j.ReportApart t) :
    auditFor terminal p env (auditFor terminal p env t).tree = auditFor terminal p env t := by
  rcases auditFor_cases terminal p env t with ⟨j, hj⟩ | ⟨-, -, htree⟩
  · -- the job is still asked for, whether or not something was written
    have hstill :
        j.IsChosenBy terminal p env (auditDirectory j.showing j.options t j.root).tree := by
      rcases auditDirectory_cases j t with ⟨fault, -, hbroken⟩ | ⟨files, -, hdir, -, hdone⟩
      · rw [hbroken]
        exact hj
      · rw [hdone]
        exact hj.write hdir _
    calc auditFor terminal p env (auditFor terminal p env t).tree
        = auditFor terminal p env (auditDirectory j.showing j.options t j.root).tree := by
          rw [hj.auditFor_eq]
      _ = auditDirectory j.showing j.options
            (auditDirectory j.showing j.options t j.root).tree j.root := hstill.auditFor_eq
      _ = auditDirectory j.showing j.options t j.root :=
        auditDirectory_again hj.directory (hapart j hj)
      _ = auditFor terminal p env t := hj.auditFor_eq.symm
  · rw [htree]

end Tool

end AuditJob

section Main

variable {terminal : Terminal} {arguments : List Text} {env : Environment} {definitions : Text}
  {t : Tree}

theorem AuditJob.not_isBrokenBy {j : AuditJob} {files : List AuditedFile}
    (haudit : auditFiles j.options t j.root = .ok files)
    (hdir : t.isDirectory j.report.place = false) (hlocks : t.locks j.report.place = false)
    (fault : Fault) : ¬j.IsBrokenBy t fault := by
  intro hfault
  rcases AuditJob.report_of_isBrokenBy haudit hfault with hdir' | hlocks'
  · exact absurd hdir' (Bool.eq_false_iff.mp hdir)
  · exact absurd hlocks' (Bool.eq_false_iff.mp hlocks)

/-- **A report is written** if all files in it have their entries. -/
theorem AuditJob.writes_write {j : AuditJob} {files : List AuditedFile} {entries : List Json}
    (haudit : auditFiles j.options t j.root = .ok files)
    (hroot : t.isDirectory j.root.place = true) (hdir : t.isDirectory j.report.place = false)
    (hlocks : t.locks j.report.place = false) (hentries : List.Forall₂ IsEntryFor files entries)
    (hcontent : reportContent j.options files = .ok ((reportWith j.options entries).pretty "  ")) :
    j.Writes t (t.write j.report.place (j.content files)) files where
  clean := AuditJob.not_isBrokenBy haudit hdir hlocks
  listed := AuditJob.mem_iff_lists haudit
  ordered := AuditJob.pairwise_way_lt haudit
  changes := AuditJob.changesReport_write hroot hdir _
  stored := by
    refine ⟨_, _, Tree.file?_write_self .., ?_, entries, hentries, rfl⟩
    unfold AuditJob.content
    rw [hcontent]
    exact read?_reportWith j.options hentries

/-- **What is printed** when a report is written ends the run, if it can be printed. -/
theorem AuditJob.IsAskedBy.auditEnds_of_readable {j : AuditJob} {u : Tree}
    {files : List AuditedFile} {entries : List Json}
    (h : j.IsAskedBy terminal arguments env definitions t) (hwrites : j.Writes t u files)
    (hcontent : reportContent j.options files = .ok ((reportWith j.options entries).pretty "  "))
    (hentries : List.Forall₂ IsEntryFor files entries)
    (hreadable : t.isUnreadable j.report.place = false) (warnings : List Text) :
    AuditEnds terminal arguments env definitions t
      (TreeRun.afterWarnings ⟨j.outcome t files, u⟩ warnings) := by
  obtain ⟨env', p, -, -, hchosen⟩ := id h
  have hline := Name.shown?_ofText_append j.showing (auditLine files) j.report.path.print
  rw [AuditJob.outcome_of_readable hcontent hentries hreadable]
  cases hpath : j.report.path.print.shown? j.showing with
  | some path =>
    rw [hpath] at hline
    rw [printLines_singleton hline]
    rw [hchosen.showing] at hpath
    exact .done j h files hwrites path hpath ⟨rfl, rfl, rfl⟩
  | none =>
    rw [hpath] at hline
    rw [printLines_of_shown?_eq_none hline]
    have hshown := mt (Path.isShown_print_iff _).mpr (Name.shown?_eq_none_iff.mp hpath)
    rw [hchosen.showing] at hshown
    exact .unannounced j h files hwrites hshown ⟨rfl, rfl⟩ rfl

/-- **The run for a job** that is asked for. -/
theorem AuditJob.IsAskedBy.auditEnds {j : AuditJob}
    (h : j.IsAskedBy terminal arguments env definitions t) (warnings : List Text) :
    AuditEnds terminal arguments env definitions t
      ((auditDirectory j.showing j.options t j.root).afterWarnings warnings) := by
  obtain ⟨env', p, -, -, hchosen⟩ := id h
  rcases AuditJob.auditDirectory_cases j t with
    ⟨fault, hfault, hbroken⟩ | ⟨files, haudit, hdir, hlocks, hdone⟩
  · rw [hbroken]
    exact .broken j h fault hfault ⟨rfl, rfl⟩ rfl rfl
  · rw [hdone]
    rcases reportContent_cases j.options files with
      ⟨entries, hentries, hcontent⟩ | ⟨⟨f, hf, n, hn, hname⟩, content, hcontent⟩
    · have hwrites :=
        AuditJob.writes_write haudit hchosen.directory hdir hlocks hentries hcontent
      cases hreadable : t.isUnreadable j.report.place with
      | true =>
        rw [AuditJob.outcome_of_isUnreadable hcontent hreadable]
        exact .unread j h files hwrites hreadable ⟨rfl, rfl⟩ rfl
      | false => exact h.auditEnds_of_readable hwrites hcontent hentries hreadable warnings
    · -- a name on the way to a file is no text
      unfold AuditJob.outcome AuditJob.content
      rw [hcontent]
      exact .emptied j h (AuditJob.not_isBrokenBy haudit hdir hlocks) f
        ((AuditJob.mem_iff_lists haudit f).mp hf) n hn hname content ⟨rfl, rfl⟩ rfl
        (AuditJob.changesReport_write hchosen.directory hdir []) (Tree.file?_write_self ..)

/-- **The audit writes all of its report or nothing**, as far as names are texts. For all trees,
arguments and environments a run ends as `AuditEnds` says. Another run from the tree that it leaves
has the same outcome and leaves the same tree, if the report is at no place of a file that the job
reads. -/
theorem audit_all_or_nothing (terminal : Terminal) (arguments : List Text) (env : Environment)
    (definitions : Text) (t : Tree) :
    AuditEnds terminal arguments env definitions t (audit terminal arguments env definitions t) ∧
    ((∀ j : AuditJob, j.IsAskedBy terminal arguments env definitions t → j.ReportApart t) →
      audit terminal arguments env definitions (audit terminal arguments env definitions t).tree
        = audit terminal arguments env definitions t) := by
  unfold audit TreeRun.start
  cases henv : env.withDefinitions definitions with
  | error e =>
    -- without an environment nothing is asked for
    refine ⟨.refused ?_ (.inl Nat.one_ne_zero) rfl, fun _ => rfl⟩
    rintro j ⟨env', p, henv', -⟩
    exact absurd (henv.symm.trans henv') nofun
  | ok env' =>
    cases hparse : auditGrammar.parse arguments with
    | error stop =>
      refine ⟨.refused ?_ ?_ rfl, fun _ => rfl⟩
      · rintro j ⟨env', p, -, hparse', -⟩
        exact absurd (hparse.symm.trans hparse') nofun
      · cases stop with
        | help program => exact .inr ⟨program, hparse⟩
        | usage program e => exact .inl (Nat.succ_ne_zero 1)
    | ok p =>
      constructor
      · show AuditEnds terminal arguments env definitions t
          ((auditFor terminal p env' t).afterWarnings _)
        rcases AuditJob.auditFor_cases terminal p env' t with ⟨j, hj⟩ | ⟨hno, hstatus, htree⟩
        · rw [hj.auditFor_eq]
          exact AuditJob.IsAskedBy.auditEnds ⟨env', p, henv, hparse, hj⟩ _
        · refine .refused ?_ (.inl hstatus) htree
          rintro j ⟨env'', p', henv'', hparse', hj⟩
          obtain rfl := Except.ok.inj (henv.symm.trans henv'')
          obtain rfl := Except.ok.inj (hparse.symm.trans hparse')
          exact hno j hj
      · intro hapart
        show (auditFor terminal p env' (auditFor terminal p env' t).tree).afterWarnings _
          = (auditFor terminal p env' t).afterWarnings _
        -- the warnings come before the run, and are the same both times
        rw [AuditJob.auditFor_again fun j hj => hapart j ⟨env', p, henv, hparse, hj⟩]

end Main

/-! ### One page -/

/-- A page with one element. -/
def onePageText : Text := "<p class=\"mt-4 flex p-2 text-sm\">"

/-- A tree with one page. -/
def onePage : Tree where
  files := [([Name.ofText "site", Name.ofText "b.html"], Text.encode onePageText)]

/-- The job for a tree with one page. -/
def onePageJob : AuditJob :=
  ⟨default, ⟨Path.ofText "site", [Name.ofText "site"]⟩, Terminal.strict.showing⟩

/-- The elements of the page. -/
def onePageElements : List Html.AuditedElement :=
  [⟨"p", 0, "mt-4 flex p-2 text-sm", group "mt-4 flex p-2 text-sm"⟩]

section OnePage

variable {j : AuditJob} {terminal : Terminal} {arguments : List Text} {env : Environment}
  {definitions : Text} {t : Tree} {way : Place}

/-- **The run for a job** is the one on its directory. -/
theorem AuditJob.IsAskedBy.audit_eq (h : j.IsAskedBy terminal arguments env definitions t) :
    audit terminal arguments env definitions t
      = (auditDirectory j.showing j.options t j.root).afterWarnings (env.warnings definitions) := by
  obtain ⟨env', p, henv, hparse, hchosen⟩ := h
  unfold audit TreeRun.start
  rw [henv, hparse]
  dsimp only
  rw [hchosen.auditFor_eq]

/-- A file with one place has no other one to be read at. -/
theorem AuditJob.reportApart_of_links_eq_nil (h : t.links = []) : j.ReportApart t := by
  intro way hhtml
  rw [Bool.eq_false_iff]
  intro hlinked
  rcases Tree.linked_iff.mp hlinked with heq | ⟨-, group, hgroup, -⟩
  · obtain rfl : [_] = way := List.append_cancel_left heq
    exact not_isHtmlWay_reportName hhtml
  · rw [h] at hgroup
    exact List.not_mem_nil hgroup

theorem auditFiles_onePageText (hways : j.ways t = [way])
    (hfile : t.file? (j.root.place ++ way) = some (Text.encode onePageText))
    (hreadable : t.isUnreadable (j.root.place ++ way) = false)
    (hoptions : j.options = default) :
    auditFiles j.options t j.root = .ok [⟨way, onePageElements⟩] := by
  have haudit : auditFile j.options t j.root way = .ok ⟨way, onePageElements⟩ := by
    refine auditFile_eq_ok_iff.mpr ⟨rfl, _, readFile_eq_ok_iff.mpr ⟨hfile, hreadable⟩, ?_⟩
    rw [hoptions]
    show Html.audit (default : Options).minTokens _ = .ok onePageElements
    decide +kernel
  rw [AuditJob.auditFiles_of_ways_eq hways, haudit]
  rfl

end OnePage

theorem audit_all_or_nothing_onePage :
    onePageJob.IsAskedBy .strict ["--root", "site"] [] [] onePage ∧
    (∀ j : AuditJob, j.IsAskedBy .strict ["--root", "site"] [] [] onePage → j.ReportApart onePage) ∧
    (audit .strict ["--root", "site"] [] [] onePage).Ends 0
      ["[TW-AUDIT] elements=1 files=1 -> site/class-groups.json"] ∧
    AuditEnds .strict ["--root", "site"] [] [] onePage
      (audit .strict ["--root", "site"] [] [] onePage) ∧
    audit .strict ["--root", "site"] [] [] (audit .strict ["--root", "site"] [] [] onePage).tree
      = audit .strict ["--root", "site"] [] [] onePage := by
  have hparse : auditGrammar.parse ["--root", "site"]
      = .ok { values := [("--root", .text "site")] } :=
    (parse_option_value (by decide) (by decide) rfl (by decide)).trans rfl
  have hchosen :
      onePageJob.IsChosenBy .strict { values := [("--root", .text "site")] } [] onePage :=
    ⟨⟨"site", rfl, rfl⟩, by decide +kernel, by decide +kernel, rfl, rfl⟩
  have hasked : onePageJob.IsAskedBy .strict ["--root", "site"] [] [] onePage :=
    ⟨[], _, Environment.withDefinitions_nil [], hparse, hchosen⟩
  have hapart (j : AuditJob) (_ : j.IsAskedBy .strict ["--root", "site"] [] [] onePage) :
      j.ReportApart onePage := AuditJob.reportApart_of_links_eq_nil rfl
  obtain ⟨hends, hagain⟩ := audit_all_or_nothing .strict ["--root", "site"] [] [] onePage
  refine ⟨hasked, hapart, ?_, hends, hagain hapart⟩
  have haudit : auditFiles onePageJob.options onePage onePageJob.root
      = .ok [⟨[Name.ofText "b.html"], onePageElements⟩] :=
    auditFiles_onePageText (by decide +kernel) (by decide +kernel) (by decide +kernel) rfl
  rw [hasked.audit_eq]
  apply TreeRun.Ends.afterWarnings
  rw [AuditJob.auditDirectory_of_none haudit
    (AuditJob.refusal?_report_eq_none (by decide +kernel) (by decide +kernel))]
  decide +kernel

/-! ### What may go wrong -/

/-- The job on the current directory. -/
def jobHere : AuditJob := ⟨default, ⟨Path.ofText ".", []⟩, Terminal.strict.showing⟩

/-- A page with a marked section of which there is no such kind. -/
def refusedPage : Tree where
  files := [([Name.ofText "b.html"], Text.encode "<![x[")]

/-- A page with a byte in its name that belongs to no character. -/
def unspelledPage : Tree where
  files := [([.byte 0xff :: Name.ofText ".html"], Text.encode onePageText)]

/-- A directory with a byte in its name that belongs to no character. -/
def unspelledRoot : Tree where
  directories := [[[.byte 0xff]]]

/-- A terminal at which one character of arguments stands for this byte, and that prints no such
bytes. -/
def unspelled : Terminal where
  spelling := fun c => if c = '\uf0ff' then .byte 0xff else .char c
  showing := fun _ => none

/-- The job on this directory. -/
def unspelledRootJob : AuditJob :=
  ⟨default, ⟨⟨[], [[.byte 0xff]]⟩, [[.byte 0xff]]⟩, unspelled.showing⟩

/-- A report that cannot be read, in a directory without pages. -/
def unreadableReport : Tree where
  files := [([Name.ofText "class-groups.json"], [])]
  unreadable := [[Name.ofText "class-groups.json"]]

/-- The report on a directory without pages. -/
def noEntries : Text := "\x7b\n  \"min_tokens\": 4,\n  \"files\": []\n\x7d"

/-- A page that is the report as well. -/
def linkedPage : Tree where
  files := [
    ([Name.ofText "b.html"], Text.encode onePageText),
    ([Name.ofText "class-groups.json"], Text.encode onePageText)]
  links := [[[Name.ofText "b.html"], [Name.ofText "class-groups.json"]]]

section Here

variable {t : Tree}

theorem isAskedBy_here (h : t.isDirectory [] = true) :
    jobHere.IsAskedBy .strict ["--root", "."] [] [] t := by
  have hparse : auditGrammar.parse ["--root", "."] = .ok { values := [("--root", .text ".")] } :=
    (parse_option_value (by decide) (by decide) rfl (by decide)).trans rfl
  exact ⟨[], _, Environment.withDefinitions_nil [], hparse, ⟨".", rfl, rfl⟩, rfl, h, rfl, rfl⟩

/-- A job that is broken off by the text of its only page. -/
theorem breaksOff_refusedPage :
    (audit .strict ["--root", "."] [] [] refusedPage).BreaksOff
      (.badMarkup (.unknownSection "x")) := by
  have hread : readFile refusedPage ⟨jobHere.root.path.descend [Name.ofText "b.html"],
      jobHere.root.place ++ [Name.ofText "b.html"]⟩ = .ok (Text.encode "<![x[") := rfl
  have hpage : auditFile jobHere.options refusedPage jobHere.root [Name.ofText "b.html"]
      = .error (.badMarkup (.unknownSection "x")) := by
    apply auditFile_of_error hread
    decide +kernel
  have hways : jobHere.ways refusedPage = [[Name.ofText "b.html"]] := by decide +kernel
  have haudit := AuditJob.auditFiles_of_ways_eq hways
  rw [hpage] at haudit
  rw [(isAskedBy_here (by decide +kernel)).audit_eq]
  apply TreeRun.BreaksOff.afterWarnings
  rw [AuditJob.auditDirectory_of_error haudit]
  exact ⟨rfl, rfl⟩

/-- The report on a page with a byte in its name is made, but remains empty. -/
theorem emptied_unspelledPage :
    (∃ content, (audit .strict ["--root", "."] [] [] unspelledPage).BreaksOff
      (.notEncoded content)) ∧
    (audit .strict ["--root", "."] [] [] unspelledPage).tree.file? [Name.ofText "class-groups.json"]
      = some [] := by
  have haudit : auditFiles jobHere.options unspelledPage jobHere.root
      = .ok [⟨[.byte 0xff :: Name.ofText ".html"], onePageElements⟩] :=
    auditFiles_onePageText (by decide +kernel) (by decide +kernel) (by decide +kernel) rfl
  have hrefusal : refusal? unspelledPage jobHere.report = none :=
    AuditJob.refusal?_report_eq_none (by decide +kernel) (by decide +kernel)
  have hcontent : ∃ content, reportContent jobHere.options
      [⟨[.byte 0xff :: Name.ofText ".html"], onePageElements⟩] = .error (.notEncoded content) :=
    ⟨_, rfl⟩
  obtain ⟨content, hcontent⟩ := hcontent
  rw [(isAskedBy_here (by decide +kernel)).audit_eq,
    AuditJob.auditDirectory_of_none haudit hrefusal]
  unfold AuditJob.outcome AuditJob.content
  rw [hcontent]
  exact ⟨⟨content, rfl, rfl⟩, Tree.file?_write_self ..⟩

theorem auditFiles_of_ways_eq_nil {j : AuditJob} (h : j.ways t = []) :
    auditFiles j.options t j.root = .ok [] := by
  rw [AuditJob.auditFiles_eq, h]
  rfl

/-- The report that cannot be read is written, but the run fails. -/
theorem unread_unreadableReport :
    (audit .strict ["--root", "."] [] [] unreadableReport).BreaksOff
      (.denied jobHere.report.path) ∧
    (audit .strict ["--root", "."] [] [] unreadableReport).tree.file?
      [Name.ofText "class-groups.json"] = some (Text.encode noEntries) := by
  have haudit : auditFiles jobHere.options unreadableReport jobHere.root = .ok [] :=
    auditFiles_of_ways_eq_nil (by decide +kernel)
  have hrefusal : refusal? unreadableReport jobHere.report = none :=
    AuditJob.refusal?_report_eq_none (by decide +kernel) (by decide +kernel)
  rw [(isAskedBy_here (by decide +kernel)).audit_eq,
    AuditJob.auditDirectory_of_none haudit hrefusal,
    AuditJob.outcome_of_isUnreadable rfl (by decide +kernel)]
  refine ⟨⟨rfl, rfl⟩, (Tree.file?_write_self ..).trans ?_⟩
  decide +kernel

/-- The report in a directory with a byte in its name is written, but the run fails. -/
theorem unannounced_unspelledRoot :
    (audit unspelled ["--root", "\uf0ff"] [] [] unspelledRoot).BreaksOff
      (.notEncoded (Name.ofText "[TW-AUDIT] elements=0 files=0 -> "
        ++ .byte 0xff :: Name.ofText "/class-groups.json")) ∧
    (audit unspelled ["--root", "\uf0ff"] [] [] unspelledRoot).tree.file?
        [[.byte 0xff], Name.ofText "class-groups.json"]
      = some (Text.encode noEntries) := by
  have hparse : auditGrammar.parse ["--root", "\uf0ff"]
      = .ok { values := [("--root", .text "\uf0ff")] } :=
    (parse_option_value (by decide) (by decide) rfl (by decide)).trans rfl
  have hasked : unspelledRootJob.IsAskedBy unspelled ["--root", "\uf0ff"] [] [] unspelledRoot :=
    ⟨[], _, Environment.withDefinitions_nil [], hparse, ⟨"\uf0ff", rfl, by decide⟩,
      by decide +kernel, by decide +kernel, rfl, rfl⟩
  have haudit : auditFiles unspelledRootJob.options unspelledRoot unspelledRootJob.root = .ok [] :=
    auditFiles_of_ways_eq_nil (by decide +kernel)
  have hrefusal : refusal? unspelledRoot unspelledRootJob.report = none :=
    AuditJob.refusal?_report_eq_none (by decide +kernel) (by decide +kernel)
  have hline : Name.shown? unspelledRootJob.showing
      (Name.ofText (auditLine []) ++ unspelledRootJob.report.path.print) = none := rfl
  rw [hasked.audit_eq, AuditJob.auditDirectory_of_none haudit hrefusal,
    AuditJob.outcome_of_readable rfl .nil (by decide +kernel),
    printLines_of_shown?_eq_none hline]
  refine ⟨⟨rfl, rfl⟩, (Tree.file?_write_self ..).trans ?_⟩
  decide +kernel

/-- After the first run the only page is the report on it, in which there are no elements. -/
theorem ends_linkedPage :
    (audit .strict ["--root", "."] [] [] linkedPage).Ends 0
      ["[TW-AUDIT] elements=1 files=1 -> class-groups.json"] ∧
    (audit .strict ["--root", "."] [] []
      (audit .strict ["--root", "."] [] [] linkedPage).tree).Ends 0
        ["[TW-AUDIT] elements=0 files=0 -> class-groups.json"] := by
  have hroot : linkedPage.isDirectory jobHere.root.place = true := by decide +kernel
  have hdir : linkedPage.isDirectory jobHere.report.place = false := by decide +kernel
  have hlocks : linkedPage.locks jobHere.report.place = false := by decide +kernel
  have hways : jobHere.ways linkedPage = [[Name.ofText "b.html"]] := by
    unfold AuditJob.ways Tree.below
    rw [List.mergeSort_of_pairwise (by decide +kernel)]
    decide +kernel
  have haudit : auditFiles jobHere.options linkedPage jobHere.root
      = .ok [⟨[Name.ofText "b.html"], onePageElements⟩] :=
    auditFiles_onePageText hways (by decide +kernel) (by decide +kernel) rfl
  have hfirst : audit .strict ["--root", "."] [] [] linkedPage = _ :=
    (isAskedBy_here hroot).audit_eq
  rw [AuditJob.auditDirectory_of_none haudit (AuditJob.refusal?_report_eq_none hdir hlocks)]
    at hfirst
  rw [hfirst]
  constructor
  · decide +kernel
  · -- the page has become the report
    show (audit .strict ["--root", "."] [] [] (linkedPage.write jobHere.report.place
      (jobHere.content [⟨[Name.ofText "b.html"], onePageElements⟩]))).Ends 0 _
    have hpage : auditFile jobHere.options (linkedPage.write jobHere.report.place
          (jobHere.content [⟨[Name.ofText "b.html"], onePageElements⟩])) jobHere.root
          [Name.ofText "b.html"]
        = .ok ⟨[Name.ofText "b.html"], []⟩ :=
      auditFile_eq_ok_iff.mpr ⟨rfl, _, readFile_eq_ok_iff.mpr
        ⟨Tree.file?_write_of_linked (by decide +kernel), by decide +kernel⟩, by decide +kernel⟩
    have hagain := AuditJob.auditFiles_of_ways_eq ((AuditJob.ways_write hroot
      (jobHere.content [⟨[Name.ofText "b.html"], onePageElements⟩])).trans hways)
    rw [hpage] at hagain
    rw [(isAskedBy_here (Tree.isDirectory_write hdir hroot)).audit_eq]
    apply TreeRun.Ends.afterWarnings
    rw [AuditJob.auditDirectory_of_none hagain (AuditJob.refusal?_report_write hlocks _)]
    decide +kernel

/-- **An audit may end otherwise.** Help is no failure although there is no report, a document may
be refused, a report may be emptied or written by a run that fails, be it that the report cannot be
read again or that its path cannot be printed, and a second run may find another report. -/
theorem audit_not_all_or_nothing :
    ((audit .strict ["--help"] [] [] onePage).outcome.status = 0 ∧
      (audit .strict ["--help"] [] [] onePage).tree = onePage) ∧
    (audit .strict ["--root", "."] [] [] refusedPage).BreaksOff
      (.badMarkup (.unknownSection "x")) ∧
    ((∃ content, (audit .strict ["--root", "."] [] [] unspelledPage).BreaksOff
        (.notEncoded content)) ∧
      (audit .strict ["--root", "."] [] [] unspelledPage).tree.file?
        [Name.ofText "class-groups.json"] = some []) ∧
    ((audit .strict ["--root", "."] [] [] unreadableReport).BreaksOff
        (.denied jobHere.report.path) ∧
      (audit .strict ["--root", "."] [] [] unreadableReport).tree.file?
        [Name.ofText "class-groups.json"] = some (Text.encode noEntries)) ∧
    ((audit unspelled ["--root", "\uf0ff"] [] [] unspelledRoot).BreaksOff
        (.notEncoded (Name.ofText "[TW-AUDIT] elements=0 files=0 -> "
          ++ .byte 0xff :: Name.ofText "/class-groups.json")) ∧
      (audit unspelled ["--root", "\uf0ff"] [] [] unspelledRoot).tree.file?
          [[.byte 0xff], Name.ofText "class-groups.json"]
        = some (Text.encode noEntries)) ∧
    ((audit .strict ["--root", "."] [] [] linkedPage).Ends 0
        ["[TW-AUDIT] elements=1 files=1 -> class-groups.json"] ∧
      (audit .strict ["--root", "."] [] []
        (audit .strict ["--root", "."] [] [] linkedPage).tree).Ends 0
          ["[TW-AUDIT] elements=0 files=0 -> class-groups.json"]) := by
  refine ⟨⟨?_, ?_⟩, breaksOff_refusedPage, emptied_unspelledPage, unread_unreadableReport,
    unannounced_unspelledRoot, ends_linkedPage⟩
  · decide +kernel
  · decide +kernel

end Here

end ClassGroups.Command
