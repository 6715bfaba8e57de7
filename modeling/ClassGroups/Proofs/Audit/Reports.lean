import ClassGroups.Command.Audit
import ClassGroups.Proofs.Access
import ClassGroups.Proofs.Json.Stored
import ClassGroups.Proofs.Lint.Sources
import ClassGroups.Proofs.Mapping
import ClassGroups.Proofs.Walks

/-!
# What an audit reads and reports

A job for the audit tool is a directory to look through. The tool reads what has the name of an HTML
file below it, and either all of this can be audited, or there is something that breaks the job off
(`AuditJob.IsBrokenBy`). The files with elements to group are then listed in the order of the names
on the way to them (`AuditJob.mem_iff_lists`, `AuditJob.pairwise_way_lt`).

A report has an entry for each file that is listed, unless a name on the way to one of them is no
text (`reportContent_cases`). Its numbers are those of the files (`auditSummary_eq`).
-/

namespace ClassGroups.Command

open Arguments Files

/-! ### Jobs -/

/-- **A job for the audit tool**: a directory to look through, and the options. -/
structure AuditJob where
  /-- The options for class lists. -/
  options : Options
  /-- The directory. -/
  root : Located
  /-- What is printed for bytes in the path of the report. -/
  showing : Showing

/-- **The way down to an HTML file**: the last name ends in `.html`. -/
def IsHtmlWay (way : Place) : Prop :=
  ∃ folders stem, way = folders ++ [stem ++ Name.ofText ".html"]

namespace AuditJob

/-- The report, as it is reached. -/
def report (j : AuditJob) : Located :=
  ⟨j.root.path.descend [Name.ofText "class-groups.json"],
    j.root.place ++ [Name.ofText "class-groups.json"]⟩

/-- **A command line asks for a job.** -/
structure IsChosenBy (j : AuditJob) (terminal : Terminal) (p : Parsed) (env : Environment)
    (t : Tree) : Prop where
  /-- The root is named. -/
  rooted : ∃ root, p.text? "--root" = some root ∧
    Path.ofArgument terminal.spelling root = j.root.path
  /-- Something stands there. -/
  stands : t.find? j.root.path = some j.root.place
  /-- It is a directory. -/
  directory : t.isDirectory j.root.place = true
  /-- The options are valid. -/
  options : optionsOf env p [("min_tokens", "--min-tokens")] = .ok j.options
  showing : j.showing = terminal.showing

/-- **Arguments ask for a job**, in an environment with a file of definitions. -/
def IsAskedBy (j : AuditJob) (terminal : Terminal) (arguments : List Text) (env : Environment)
    (definitions : Text) (t : Tree) : Prop :=
  ∃ env' p, env.withDefinitions definitions = .ok env' ∧
    auditGrammar.parse arguments = .ok p ∧ j.IsChosenBy terminal p env' t

/-- **What the report has an entry for**: an HTML file below the root, with the elements that the
audit of its text lists, if there are any. -/
structure Lists (j : AuditJob) (t : Tree) (f : AuditedFile) : Prop where
  html : IsHtmlWay f.way
  audited : ∃ content, t.file? (j.root.place ++ f.way) = some content ∧
    Html.audit j.options.minTokens (Text.ofFile content) = .ok f.elements
  ne_nil : f.elements ≠ []

/-- **What breaks a job off** before anything is written. -/
inductive IsBrokenBy (j : AuditJob) (t : Tree) : Fault → Prop
  /-- A directory has the name of an HTML file. -/
  | directory {way : Place} (hhtml : IsHtmlWay way)
      (hdir : t.isDirectory (j.root.place ++ way) = true) :
      IsBrokenBy j t (.isDirectory (j.root.path.descend way))
  /-- An HTML file cannot be read. -/
  | unreadable {way : Place} (hhtml : IsHtmlWay way)
      (hunreadable : t.isUnreadable (j.root.place ++ way) = true) :
      IsBrokenBy j t (.denied (j.root.path.descend way))
  /-- The text of an HTML file is refused. -/
  | markup {way : Place} {content : Text.Bytes} {e : Html.MarkupError} (hhtml : IsHtmlWay way)
      (hfile : t.file? (j.root.place ++ way) = some content)
      (hreadable : t.isUnreadable (j.root.place ++ way) = false)
      (haudit : Html.audit j.options.minTokens (Text.ofFile content) = .error e) :
      IsBrokenBy j t (.badMarkup e)
  /-- A directory stands in the place of the report. -/
  | reportDirectory (hdir : t.isDirectory j.report.place = true) :
      IsBrokenBy j t (.isDirectory j.report.path)
  /-- The report is locked or, if there is none, the directory in which it would be made. -/
  | reportLocked (hlocked : t.locks j.report.place = true) : IsBrokenBy j t (.denied j.report.path)

end AuditJob

/-! ### What a report says -/

/-- **An entry of a report**: the way to the file, and its elements with their names, their places
among all elements, their class lists and the groups of these. -/
def IsEntryFor (f : AuditedFile) (entry : Json) : Prop :=
  ∃ way : Text, Name.ofText way = List.intercalate (Name.ofText "/") f.way ∧
    entry = .dict [("file", .text way), ("elements", .list (f.elements.map fun e =>
      .dict [("tag", .text e.tag), ("index", .int e.index), ("classes", .text e.classes),
        ("groups", e.grouping.toJson)]))]

/-- **A report on files**: it says how many tokens a class list needs, and has an entry for each of
the files. -/
def IsReportOn (o : Options) (files : List AuditedFile) (report : Json) : Prop :=
  ∃ entries, List.Forall₂ IsEntryFor files entries ∧
    report = .dict [("min_tokens", .int o.minTokens), ("files", .list entries)]

/-- The line with the numbers of the files in a report and of their elements, up to the path of the
report. -/
def auditLine (files : List AuditedFile) : Text :=
  "[TW-AUDIT] elements=" ++ Text.ofNat (files.map (·.elements.length)).sum ++ " files="
    ++ Text.ofNat files.length ++ " -> "

/-! ### HTML files below a root -/

section Ways

variable {way : Place} {t : Tree} {root : Located}

theorem IsHtmlWay.ne_nil (h : IsHtmlWay way) : way ≠ [] := by
  obtain ⟨folders, stem, rfl⟩ := h
  exact List.append_ne_nil_of_right_ne_nil folders (List.cons_ne_nil _ [])

theorem isHtml_descend_iff (path : Path) (hway : way ≠ []) :
    isHtml (path.descend way) = true ↔ IsHtmlWay way := by
  obtain ⟨folders, name, rfl⟩ : ∃ folders name, way = folders ++ [name] :=
    ⟨_, _, (List.dropLast_append_getLast hway).symm⟩
  have hname : Path.name ⟨[], folders ++ [name]⟩ = name := by
    rw [Path.name, List.getLast?_concat, Option.getD_some]
  rw [isHtml, name_descend path hway, hname, List.isSuffixOf_iff_suffix]
  constructor
  · rintro ⟨stem, rfl⟩
    exact ⟨folders, stem, rfl⟩
  · rintro ⟨folders', stem, heq⟩
    exact ⟨stem, (List.singleton_inj.mp (List.append_inj_right' heq rfl)).symm⟩

theorem not_isHtmlWay_reportName : ¬IsHtmlWay [Name.ofText reportName] := by
  rw [← isHtml_descend_iff ⟨[], []⟩ (List.cons_ne_nil _ [])]
  decide

/-- What the tool reads. -/
theorem mem_filter_isHtml_iff :
    way ∈ (t.below root.place).filter (fun way => isHtml (root.path.descend way))
      ↔ IsHtmlWay way ∧ t.holds (root.place ++ way) = true := by
  rw [List.mem_filter, Tree.mem_below_iff_holds]
  constructor
  · rintro ⟨⟨hway, hholds⟩, hhtml⟩
    exact ⟨(isHtml_descend_iff _ hway).mp hhtml, hholds⟩
  · rintro ⟨hhtml, hholds⟩
    exact ⟨⟨hhtml.ne_nil, hholds⟩, (isHtml_descend_iff _ hhtml.ne_nil).mpr hhtml⟩

end Ways

/-! ### Reading the files -/

section Reading

variable {o : Options} {t : Tree} {root : Located} {way : Place} {f : AuditedFile}

theorem auditFile_of_error {content : Text.Bytes} {e : Html.MarkupError}
    (hread : readFile t ⟨root.path.descend way, root.place ++ way⟩ = .ok content)
    (h : Html.audit o.minTokens (Text.ofFile content) = .error e) :
    auditFile o t root way = .error (.badMarkup e) := by
  unfold auditFile
  rw [hread]
  simp only [bind, Except.bind, h]

/-- **What becomes of one file**: it cannot be read, its text is refused, or it is audited. -/
theorem auditFile_cases (o : Options) (t : Tree) (root : Located) (way : Place) :
    (∃ fault, readFile t ⟨root.path.descend way, root.place ++ way⟩ = .error fault ∧
      auditFile o t root way = .error fault) ∨
    ∃ content, readFile t ⟨root.path.descend way, root.place ++ way⟩ = .ok content ∧
      ((∃ e, Html.audit o.minTokens (Text.ofFile content) = .error e ∧
        auditFile o t root way = .error (.badMarkup e)) ∨
      ∃ elements, Html.audit o.minTokens (Text.ofFile content) = .ok elements ∧
        auditFile o t root way = .ok ⟨way, elements⟩) := by
  cases hread : readFile t ⟨root.path.descend way, root.place ++ way⟩ with
  | error fault =>
    refine .inl ⟨fault, rfl, ?_⟩
    unfold auditFile
    rw [hread]
    rfl
  | ok content =>
    refine .inr ⟨content, rfl, ?_⟩
    cases haudit : Html.audit o.minTokens (Text.ofFile content) with
    | error e => exact .inl ⟨e, rfl, auditFile_of_error hread haudit⟩
    | ok elements =>
      refine .inr ⟨elements, rfl, ?_⟩
      unfold auditFile
      rw [hread]
      simp only [bind, Except.bind, haudit]
      rfl

theorem auditFile_eq_ok_iff :
    auditFile o t root way = .ok f
      ↔ f.way = way ∧ ∃ content,
        readFile t ⟨root.path.descend way, root.place ++ way⟩ = .ok content ∧
        Html.audit o.minTokens (Text.ofFile content) = .ok f.elements := by
  rcases auditFile_cases o t root way with
    ⟨fault, hread, haudit⟩ | ⟨content, hread, ⟨e, herror, haudit⟩ | ⟨elements, hok, haudit⟩⟩
  · rw [haudit, hread]
    simp
  · rw [haudit, hread]
    simp [herror]
  · rw [haudit, hread]
    obtain ⟨way', elements'⟩ := f
    simp [hok, eq_comm]

end Reading

namespace AuditJob

section Files

variable {j : AuditJob} {t : Tree} {files : List AuditedFile} {fault : Fault}

/-- The ways to what the job reads. -/
def ways (j : AuditJob) (t : Tree) : List Place :=
  (t.below j.root.place).filter fun way => isHtml (j.root.path.descend way)

theorem auditFiles_eq (j : AuditJob) (t : Tree) :
    auditFiles j.options t j.root
      = ((j.ways t).mapM (auditFile j.options t j.root)).map
          fun audited => audited.filter fun f => !f.elements.isEmpty := rfl

/-- The audit of a directory with one HTML file. -/
theorem auditFiles_of_ways_eq {way : Place} (h : j.ways t = [way]) :
    auditFiles j.options t j.root
      = (auditFile j.options t j.root way).map fun f =>
        [f].filter fun f => !f.elements.isEmpty := by
  rw [auditFiles_eq, h, List.mapM_cons]
  cases auditFile j.options t j.root way <;> rfl

/-- **The entries of a report** are those of all files that there are to list. -/
theorem mem_iff_lists (h : auditFiles j.options t j.root = .ok files) (f : AuditedFile) :
    f ∈ files ↔ j.Lists t f := by
  obtain ⟨audited, haudited, rfl⟩ := exists_of_map_eq_ok ((auditFiles_eq j t).symm.trans h)
  rw [List.mem_filter, mem_iff_of_mapM_eq_ok haudited]
  have hne : (!f.elements.isEmpty) = true ↔ f.elements ≠ [] := by simp
  rw [hne]
  constructor
  · rintro ⟨⟨way, hway, hok⟩, hne⟩
    obtain ⟨rfl, content, hread, haudit⟩ := auditFile_eq_ok_iff.mp hok
    have hfile := (readFile_eq_ok_iff.mp hread).1
    exact ⟨(mem_filter_isHtml_iff.mp hway).1, ⟨content, hfile, haudit⟩, hne⟩
  · rintro ⟨hhtml, ⟨content, hfile, haudit⟩, hne⟩
    have hway : f.way ∈ j.ways t :=
      mem_filter_isHtml_iff.mpr ⟨hhtml, Tree.holds_of_file? hfile⟩
    -- the file was audited, so it can be read
    obtain ⟨f', hf'⟩ := exists_of_mapM_eq_ok haudited hway
    obtain ⟨-, content', hread, -⟩ := auditFile_eq_ok_iff.mp hf'
    have hread' : readFile t ⟨j.root.path.descend f.way, j.root.place ++ f.way⟩ = .ok content :=
      readFile_eq_ok_iff.mpr ⟨hfile, (readFile_eq_ok_iff.mp hread).2⟩
    exact ⟨⟨f.way, hway, auditFile_eq_ok_iff.mpr ⟨rfl, content, hread', haudit⟩⟩, hne⟩

/-- The entries come in the order of the walk. -/
theorem pairwise_way_lt (h : auditFiles j.options t j.root = .ok files) :
    files.Pairwise fun f g => f.way < g.way := by
  obtain ⟨audited, haudited, rfl⟩ := exists_of_map_eq_ok ((auditFiles_eq j t).symm.trans h)
  have hways : audited.map (·.way) = j.ways t :=
    map_eq_of_mapM_eq_ok (fun way f hf => (auditFile_eq_ok_iff.mp hf).1) haudited
  have hsorted : (audited.map (·.way)).Pairwise (· < ·) := by
    rw [hways]
    exact (Tree.pairwise_below t j.root.place).sublist List.filter_sublist
  exact (List.pairwise_map.mp hsorted).sublist List.filter_sublist

/-- If all files are audited, only the report may stop the job. -/
theorem report_of_isBrokenBy (h : auditFiles j.options t j.root = .ok files)
    (hfault : j.IsBrokenBy t fault) :
    t.isDirectory j.report.place = true ∨ t.locks j.report.place = true := by
  obtain ⟨audited, haudited, -⟩ := exists_of_map_eq_ok ((auditFiles_eq j t).symm.trans h)
  -- whatever has the name of an HTML file was audited
  have hread {way : Place} (hhtml : IsHtmlWay way)
      (hholds : t.holds (j.root.place ++ way) = true) :
      ∃ content elements, t.file? (j.root.place ++ way) = some content ∧
        t.isUnreadable (j.root.place ++ way) = false ∧
        Html.audit j.options.minTokens (Text.ofFile content) = .ok elements := by
    obtain ⟨f, hf⟩ := exists_of_mapM_eq_ok haudited (mem_filter_isHtml_iff.mpr ⟨hhtml, hholds⟩)
    obtain ⟨-, content, hread, haudit⟩ := auditFile_eq_ok_iff.mp hf
    obtain ⟨hfile, hreadable⟩ := readFile_eq_ok_iff.mp hread
    exact ⟨content, f.elements, hfile, hreadable, haudit⟩
  cases hfault with
  | directory hhtml hdir =>
    obtain ⟨hholds, hnone⟩ := Tree.isDirectory_iff.mp hdir
    obtain ⟨content, elements, hfile, -, -⟩ := hread hhtml hholds
    exact absurd (hnone.symm.trans hfile) nofun
  | unreadable hhtml hunreadable =>
    obtain ⟨content, elements, -, hreadable, -⟩ :=
      hread hhtml (Tree.holds_of_isUnreadable hunreadable)
    exact absurd hunreadable (Bool.eq_false_iff.mp hreadable)
  | markup hhtml hfile hreadable haudit =>
    obtain ⟨content, elements, hfile', -, haudit'⟩ := hread hhtml (Tree.holds_of_file? hfile)
    obtain rfl := Option.some.inj (hfile.symm.trans hfile')
    exact absurd (haudit.symm.trans haudit') nofun
  | reportDirectory hdir => exact .inl hdir
  | reportLocked hlocked => exact .inr hlocked

/-- **A file that cannot be audited** breaks the job off. -/
theorem isBrokenBy_of_auditFiles_eq_error (h : auditFiles j.options t j.root = .error fault) :
    j.IsBrokenBy t fault := by
  obtain ⟨way, hway, haudit⟩ := exists_of_mapM_eq_error
    (eq_error_of_map_eq_error ((auditFiles_eq j t).symm.trans h))
  obtain ⟨hhtml, hholds⟩ := mem_filter_isHtml_iff.mp hway
  rcases auditFile_cases j.options t j.root way with
    ⟨fault', hread, hcase⟩ | ⟨content, hread, ⟨e, herror, hcase⟩ | ⟨elements, -, hcase⟩⟩
  · obtain rfl := Except.error.inj (haudit.symm.trans hcase)
    rcases readFile_eq_error_iff.mp hread with ⟨hnone, rfl⟩ | ⟨hunreadable, rfl⟩
    · exact .directory hhtml (Tree.isDirectory_iff.mpr ⟨hholds, hnone⟩)
    · exact .unreadable hhtml hunreadable
  · obtain rfl := Except.error.inj (haudit.symm.trans hcase)
    obtain ⟨hfile, hreadable⟩ := readFile_eq_ok_iff.mp hread
    exact .markup hhtml hfile hreadable herror
  · exact absurd (haudit.symm.trans hcase) nofun

end Files

end AuditJob

/-! ### The report -/

section Report

variable {o : Options} {files : List AuditedFile} {entries : List Json} {f : AuditedFile}
  {entry : Json}

/-- **A file in a report** has an entry exactly if all names on the way to it are texts. -/
theorem entry_cases (f : AuditedFile) :
    (∃ entry, IsEntryFor f entry ∧ (Name.text? f.name).map f.toJson = some entry) ∨
    (∃ n ∈ f.way, ¬n.IsText) ∧ (Name.text? f.name).map f.toJson = none := by
  cases hname : Name.text? f.name with
  | some way => exact .inl ⟨_, ⟨way, (Name.text?_eq_some_iff.mp hname).symm, rfl⟩, rfl⟩
  | none =>
    refine .inr ⟨?_, rfl⟩
    -- not all names on the way are texts
    have hway : ¬∀ n ∈ f.way, n.IsText := by
      simp only [Name.isText_iff_isShown]
      rw [← Name.isShown_intercalate, ← Name.isText_iff_isShown]
      exact Name.text?_eq_none_iff.mp hname
    simpa using hway

/-- **All files of a report** have an entry each, or the way to one of them is no text. -/
theorem entries_cases (files : List AuditedFile) :
    (∃ entries, List.Forall₂ IsEntryFor files entries ∧
      (files.mapM fun f => (Name.text? f.name).map f.toJson) = some entries) ∨
    (∃ f ∈ files, ∃ n ∈ f.way, ¬n.IsText) ∧
      (files.mapM fun f => (Name.text? f.name).map f.toJson) = none := by
  induction files with
  | nil => exact .inl ⟨[], .nil, rfl⟩
  | cons f files ih =>
    rw [List.mapM_cons]
    rcases entry_cases f with ⟨entry, hentry, hf⟩ | ⟨hway, hf⟩
    · rw [hf]
      rcases ih with ⟨entries, hentries, hfiles⟩ | ⟨⟨g, hg, hway⟩, hfiles⟩
      · exact .inl ⟨entry :: entries, .cons hentry hentries, by rw [hfiles]; rfl⟩
      · exact .inr ⟨⟨g, List.mem_cons_of_mem f hg, hway⟩, by rw [hfiles]; rfl⟩
    · exact .inr ⟨⟨f, List.mem_cons_self, hway⟩, by rw [hf]; rfl⟩

theorem reportContent_cases (o : Options) (files : List AuditedFile) :
    (∃ entries, List.Forall₂ IsEntryFor files entries ∧
      reportContent o files = .ok ((reportWith o entries).pretty "  ")) ∨
    (∃ f ∈ files, ∃ n ∈ f.way, ¬n.IsText) ∧
      ∃ content, reportContent o files = .error (.notEncoded content) := by
  unfold reportContent auditReport?
  rcases entries_cases files with ⟨entries, hentries, hfiles⟩ | ⟨hway, hfiles⟩
  · rw [hfiles]
    exact .inl ⟨entries, hentries, rfl⟩
  · rw [hfiles]
    exact .inr ⟨hway, _, rfl⟩

theorem IsEntryFor.exact (h : IsEntryFor f entry) : Json.Exact entry := by
  obtain ⟨way, -, rfl⟩ := h
  refine .dict ?_
  simp only [List.forall_mem_cons]
  refine ⟨.text way, .list ?_, nofun⟩
  intro v hv
  obtain ⟨e, -, rfl⟩ := List.mem_map.mp hv
  refine .dict ?_
  simp only [List.forall_mem_cons]
  exact ⟨.text _, .int _, .text _, Grouping.exact_toJson _, nofun⟩

theorem exact_reportWith (o : Options) (h : List.Forall₂ IsEntryFor files entries) :
    Json.Exact (reportWith o entries) := by
  have hentries : ∀ entry ∈ entries, Json.Exact entry := by
    induction h with
    | nil => nofun
    | cons hentry hrest ih => exact List.forall_mem_cons.mpr ⟨hentry.exact, ih⟩
  refine .dict ?_
  simp only [List.forall_mem_cons]
  exact ⟨.int _, .list hentries, nofun⟩

/-- **A report is read back** from the file that it is stored in. -/
theorem read?_reportWith (o : Options) (h : List.Forall₂ IsEntryFor files entries) :
    Json.read? (Text.ofFile (Text.encode ((reportWith o entries).pretty "  ")))
      = some (reportWith o entries) :=
  Json.read?_ofFile_pretty (exact_reportWith o h) rfl (by decide)

/-- The elements in the entries are those of the files. -/
theorem length_elements_eq (h : List.Forall₂ IsEntryFor files entries) :
    (entries.flatMap (itemsAt "elements")).length = (files.map (·.elements.length)).sum := by
  induction h with
  | nil => rfl
  | @cons f entry files entries hentry hrest ih =>
    obtain ⟨way, -, rfl⟩ := hentry
    rw [List.flatMap_cons, List.length_append, ih, List.map_cons, List.sum_cons]
    congr 1
    exact List.length_map _

/-- **The numbers of a report** are those of the files and elements that it was made from. -/
theorem auditSummary_eq (o : Options) (h : List.Forall₂ IsEntryFor files entries) (path : Path) :
    auditSummary (reportWith o entries) path = Name.ofText (auditLine files) ++ path.print := by
  have hentries : itemsAt "files" (reportWith o entries) = entries := rfl
  unfold auditSummary auditLine
  dsimp only
  rw [hentries, length_elements_eq h, ← h.length_eq]

end Report

end ClassGroups.Command
