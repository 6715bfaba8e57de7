import ClassGroups.Proofs.Lint.Rewriting

/-!
# Runs over the same files in different modes

A preview of a fix comes to what there is to find in the files of a scan (`Scan.Finds`). The other
modes are compared with it, step by step. A report comes to the same unless it has to print a path
that cannot be printed (`ReportAgrees`, by `Scan.Visits.report_of_preview`). A fix comes to the same
unless a file hinders it, or one that it rewrites has other places at which it is come to again
(`FixAgrees`, by `Scan.Visits.fix_of_preview`). What it leaves behind is described file by file in
`FixedTree`. The three together are `ModesAgree`, which holds of all runs over the files of a scan
(`modesAgree_run`).
-/

namespace ClassGroups.Command

open Arguments Files

/-! ### What there is to find -/

/-- **What there is to find** in the files of a scan: in all of them, or in those before one that
cannot be examined. -/
structure Scan.Finds (scan : Scan) (t : Tree) (l : List Examined) (fault? : Option Fault) :
    Prop where
  found : ∀ e ∈ l, scan.Examines t e
  ended : fault? = none → l.map (·.file) = scan.files
  stopped : ∀ fault, fault? = some fault →
    ∃ f rest, scan.files = l.map (·.file) ++ f :: rest ∧ scan.Unread t f fault

section Preview

variable {scan : Scan} {t t' : Tree} {files : List Located} {l : List Examined} {ending : Ending}

theorem Scan.Visits.examines_preview (hs : scan.options.format.spliceable = true)
    (h : scan.Visits .preview t files l t' ending) : ∀ e ∈ l, scan.Examines t e := by
  induction h with
  | nil t => exact fun e he => absurd he List.not_mem_nil
  | unread rest h => exact fun e he => absurd he List.not_mem_nil
  | stuck rest h hact => exact fun e he => absurd he List.not_mem_nil
  | cons h hact hrest ih =>
    obtain rfl := (Prod.mk.inj hact).1
    exact List.forall_mem_cons.mpr ⟨examines_of_examine hs h, ih⟩

/-- A preview stops at a file that cannot be examined. -/
theorem Scan.Visits.stopped_preview {fault : Fault} (h : scan.Visits .preview t files l t' ending)
    (hfault : ending.fault? = some fault) :
    ∃ f rest, files = l.map (·.file) ++ f :: rest ∧ scan.Unread t f fault := by
  induction h with
  | nil t => exact absurd hfault nofun
  | unread rest h =>
    obtain rfl := Option.some.inj hfault
    exact ⟨_, rest, rfl, unread_of_examine h⟩
  | stuck rest h hact =>
    exact absurd (Prod.mk.inj hact).2 nofun
  | cons h hact hrest ih =>
    obtain rfl := (Prod.mk.inj hact).1
    obtain rfl := file_of_examine h
    obtain ⟨f, rest, rfl, hunread⟩ := ih hfault
    exact ⟨f, rest, rfl, hunread⟩

/-- **A preview** comes to what there is to find. -/
theorem Scan.Visits.finds (hs : scan.options.format.spliceable = true)
    (h : scan.Visits .preview t scan.files l t' ending) : scan.Finds t l ending.fault? where
  found := h.examines_preview hs
  ended := by
    intro hfault
    cases ending with
    | finished => exact h.map_file
    | unread fault => exact absurd hfault nofun
    | stuck e fault => exact absurd hfault nofun
  stopped := fun _ hfault => h.stopped_preview hfault

end Preview

/-! ### A report -/

/-- **A report agrees** with what there is to find. -/
inductive ReportAgrees (showing : Showing) (l : List Examined) (fault? : Option Fault)
    (report : TreeRun) : Prop where
  /-- It has a line for each finding and fails if there is any. The paths in the lines can be
  printed. -/
  | printed (warnings : List Text)
    (hpaths : ∀ e ∈ l, e.findings ≠ [] → e.file.path.IsShown showing)
    (hwarnings : (l.flatMap Examined.warnings).map (Name.shown? showing) = warnings.map some)
    (hlength : warnings.length = totalFindings l)
    (hends : report.ComesTo fault? (if 0 < totalFindings l then 1 else 0)
      (warnings ++ ["[TW-LINT] warnings=".toList ++ Text.ofNat (totalFindings l)]))
  /-- It breaks off at a line with a path that cannot be printed. -/
  | unprinted (e : Examined) (line : Name) (he : e ∈ l) (hline : line ∈ e.warnings)
    (hpath : ¬e.file.path.IsShown showing) (hbroken : report.BreaksOff (.notEncoded line))

section Report

variable {scan : Scan} {t t' : Tree} {files : List Located} {l : List Examined} {ending : Ending}
  {e : Examined}

theorem isShown_reportLine_iff {showing : Showing} {path : Path} {f : Jsx.Finding} :
    (reportLine path f).IsShown showing ↔ path.IsShown showing := by
  unfold reportLine
  rw [Name.isShown_append, and_iff_left (Name.isShown_ofText _), Path.isShown_print_iff]

/-- **What is printed of a file**: a line for each finding, if its path can be printed. -/
theorem Examined.printLines_cases (showing : Showing) (e : Examined) :
    ((e.findings ≠ [] → e.file.path.IsShown showing) ∧ ∃ texts : List Text,
      e.warnings.map (Name.shown? showing) = texts.map some ∧
      printLines showing e.warnings = (Text.unlines texts, none)) ∨
    ∃ printed, ∃ line ∈ e.warnings, ¬e.file.path.IsShown showing ∧
      printLines showing e.warnings = (printed, some (.notEncoded line)) := by
  have hline {line : Name} (h : line ∈ e.warnings) :
      line.IsShown showing ↔ e.file.path.IsShown showing := by
    obtain ⟨f, -, rfl⟩ := List.mem_map.mp h
    exact isShown_reportLine_iff
  rcases Command.printLines_cases showing e.warnings with ⟨texts, htexts, hprint⟩ |
    ⟨printed, line, hmem, hshown, hprint⟩
  · refine .inl ⟨fun hfindings => ?_, texts, htexts, hprint⟩
    obtain ⟨f, hf⟩ := List.exists_mem_of_ne_nil e.findings hfindings
    have hmem : reportLine e.file.path f ∈ e.warnings := List.mem_map_of_mem hf
    rw [← hline hmem, ← Name.isSome_shown?_iff]
    -- there is a text for every line
    have htext := List.mem_map_of_mem (f := Name.shown? showing) hmem
    rw [htexts] at htext
    obtain ⟨s, -, hs⟩ := List.mem_map.mp htext
    rw [← hs]
    rfl
  · exact .inr ⟨printed, line, hmem, mt (hline hmem).mpr hshown, hprint⟩

/-- **A report goes along with a preview**, up to a path that cannot be printed. -/
theorem Scan.Visits.report_of_preview (h : scan.Visits .preview t files l t' ending) :
    ((∀ e ∈ l, e.findings ≠ [] → e.file.path.IsShown scan.showing) ∧ ∃ warnings : List Text,
      (l.flatMap Examined.warnings).map (Name.shown? scan.showing) = warnings.map some ∧
      l.flatMap (LintMode.report.printed scan.showing) = Text.unlines warnings ∧
      scan.Visits .report t files l t' ending) ∨
    ∃ l' e line, e ∈ l ∧ line ∈ e.warnings ∧ ¬e.file.path.IsShown scan.showing ∧
      scan.Visits .report t files l' t (.stuck e (.notEncoded line)) := by
  induction h with
  | nil t => exact .inl ⟨fun e he => absurd he List.not_mem_nil, [], rfl, rfl, .nil t⟩
  | unread rest h =>
    exact .inl ⟨fun e he => absurd he List.not_mem_nil, [], rfl, rfl, .unread rest h⟩
  | stuck rest h hact =>
    exact absurd (Prod.mk.inj hact).2 nofun
  | @cons t u t' f rest e l ending h hact hrest ih =>
    obtain rfl : t = u := (Prod.mk.inj hact).1
    rcases e.printLines_cases scan.showing with ⟨hpath, texts, htexts, hprint⟩ |
      ⟨printed, line, hline, hpath, hprint⟩
    · have hreport : LintMode.report.act scan.showing t e = (t, none) := by
        show (t, (printLines scan.showing e.warnings).2) = _
        rw [hprint]
      rcases ih with ⟨hpaths, warnings, hwarnings, hprinted, hvisits⟩ |
        ⟨l', d, line, hd, hline, hpath', hvisits⟩
      · refine .inl ⟨List.forall_mem_cons.mpr ⟨hpath, hpaths⟩, texts ++ warnings, ?_, ?_,
          .cons h hreport hvisits⟩
        · rw [List.flatMap_cons, List.map_append, htexts, hwarnings, List.map_append]
        · have hfirst : LintMode.report.printed scan.showing e = Text.unlines texts :=
            congrArg (·.1) hprint
          rw [List.flatMap_cons, hfirst, hprinted]
          unfold Text.unlines
          rw [List.map_append, List.flatten_append]
      · exact .inr ⟨e :: l', d, line, List.mem_cons_of_mem e hd, hline, hpath',
          .cons h hreport hvisits⟩
    · -- the report breaks off here
      have hreport : LintMode.report.act scan.showing t e = (t, some (.notEncoded line)) := by
        show (t, (printLines scan.showing e.warnings).2) = _
        rw [hprint]
      exact .inr ⟨[], e, line, List.mem_cons_self, hline, hpath, .stuck rest h hreport⟩

end Report

/-! ### A fix -/

/-- **Files are separate**: what leads to one that is rewritten is not come to again. -/
def Separate (t : Tree) (l : List Examined) : Prop :=
  l.Pairwise fun e d => e.findings ≠ [] → t.linked e.file.place d.file.place = false

/-- **Files are examined in turn**, each in the tree in which those before it are fixed. -/
def Scan.ExaminesInTurn (scan : Scan) (backup : Bool) (t : Tree) (l : List Examined) : Prop :=
  ∀ before e after, l = before ++ e :: after →
    ∃ u, FixedTree backup before before t u ∧ scan.Examines u e

/-- **A fix agrees** with what there is to find. -/
inductive FixAgrees (scan : Scan) (backup : Bool) (t : Tree) (l : List Examined)
    (fault? : Option Fault) (fix : TreeRun) : Prop where
  /-- Nothing hinders it. It comes to the same files and rewrites them, and what it finds there is
  the same if they are separate. -/
  | unhindered (l' : List Examined) (hfiles : l'.map (·.file) = l.map (·.file))
    (hturn : scan.ExaminesInTurn backup t l') (hsame : Separate t l → l' = l)
    (hfree : ∀ e ∈ l', e.findings ≠ [] → ∀ fault, ¬Hinders t backup e.file fault)
    (hends : fix.ComesTo fault? 0 ["[TW-LINT] fixed=".toList ++ Text.ofNat (totalFindings l')])
    (hfixed : FixedTree backup l' l' t fix.tree)
  /-- A file hinders it, and those before it are rewritten. -/
  | hindered (l' : List Examined) (e : Examined) (fault : Fault)
    (hfiles : (l' ++ [e]).map (·.file) <+: l.map (·.file))
    (hturn : scan.ExaminesInTurn backup t (l' ++ [e]))
    (hsame : Separate t l → l' ++ [e] <+: l) (hfindings : e.findings ≠ [])
    (hhinders : Hinders t backup e.file fault) (hbroken : fix.BreaksOff fault)
    (hfixed : FixedTree backup l' (l' ++ [e]) t fix.tree)

section Fix

variable {scan : Scan} {backup : Bool} {t u v w : Tree} {files : List Located}
  {l l' : List Examined} {ending ending' : Ending}

/-- **A fix goes along with a preview** from a tree that it has not yet done much to, up to a file
that hinders it. As long as the files are as they were, what it finds in them is the same. -/
theorem Scan.Visits.fix_of_preview (hgrows : t.Grows u)
    (hstand : ∀ f ∈ files, t.holds f.place = true)
    (hpreview : scan.Visits .preview t files l v ending)
    (hfix : scan.Visits (.fix backup) u files l' w ending') :
    (l' ++ ending'.pending).map (·.file) <+: l.map (·.file) ∧
    (ending'.pending = [] → l'.map (·.file) = l.map (·.file) ∧ ending'.fault? = ending.fault?) ∧
    ((∀ e ∈ l, u.file? e.file.place = t.file? e.file.place) → Separate t l →
      l' ++ ending'.pending <+: l) := by
  induction hfix generalizing l with
  | nil u =>
    cases hpreview
    exact ⟨List.prefix_rfl, fun _ => ⟨rfl, rfl⟩, fun _ _ => List.prefix_rfl⟩
  | @unread u f fault rest h =>
    -- what cannot be examined now could not be at the start
    have herror := (examine_eq_error_iff_of_grows hgrows (hstand f List.mem_cons_self)).mp h
    cases hpreview with
    | unread rest h₀ =>
      obtain rfl := Except.error.inj (herror.symm.trans h₀)
      exact ⟨List.prefix_rfl, fun _ => ⟨rfl, rfl⟩, fun _ _ => List.prefix_rfl⟩
    | stuck rest h₀ hact₀ => exact absurd (Prod.mk.inj hact₀).2 nofun
    | cons h₀ hact₀ hrest₀ => exact absurd (herror.symm.trans h₀) nofun
  | @stuck u w f e fault rest h hact =>
    cases hpreview with
    | unread rest h₀ =>
      have herror := (examine_eq_error_iff_of_grows hgrows (hstand f List.mem_cons_self)).mpr h₀
      exact absurd (herror.symm.trans h) nofun
    | stuck rest h₀ hact₀ => exact absurd (Prod.mk.inj hact₀).2 nofun
    | @cons _ _ _ _ _ d l _ h₀ hact₀ hrest₀ =>
      obtain rfl := file_of_examine h
      have hd := file_of_examine h₀
      refine ⟨?_, nofun, fun hsame _ => ?_⟩
      · exact List.cons_prefix_cons.mpr ⟨hd.symm, List.nil_prefix⟩
      · have hexamine := scan.examine_congr (hd ▸ hsame d List.mem_cons_self)
          (hgrows.isUnreadable_eq (hstand _ List.mem_cons_self))
        obtain rfl := Except.ok.inj (h.symm.trans (hexamine.trans h₀))
        exact List.cons_prefix_cons.mpr ⟨rfl, List.nil_prefix⟩
  | @cons u u' w f rest e l' ending' h hact hrest ih =>
    have hstep := fixedTree_act (file?_of_examine h) hact
    have hstand' : ∀ g ∈ rest, t.holds g.place = true := fun g hg =>
      hstand g (List.mem_cons_of_mem f hg)
    cases hpreview with
    | unread rest h₀ =>
      have herror := (examine_eq_error_iff_of_grows hgrows (hstand f List.mem_cons_self)).mpr h₀
      exact absurd (herror.symm.trans h) nofun
    | stuck rest h₀ hact₀ => exact absurd (Prod.mk.inj hact₀).2 nofun
    | @cons _ _ _ _ _ d l _ h₀ hact₀ hrest₀ =>
      obtain rfl := (Prod.mk.inj hact₀).1
      obtain rfl := file_of_examine h
      have hd := file_of_examine h₀
      obtain ⟨hfiles, hends, hsame'⟩ := ih (hgrows.trans hstep.toGrows) hstand' hrest₀
      refine ⟨?_, fun hpending => ?_, fun hsame hseparate => ?_⟩
      · exact List.cons_prefix_cons.mpr ⟨hd.symm, hfiles⟩
      · obtain ⟨hmap, hfault⟩ := hends hpending
        exact ⟨by rw [List.map_cons, List.map_cons, hmap, hd], hfault⟩
      · have hexamine := scan.examine_congr (hd ▸ hsame d List.mem_cons_self)
          (hgrows.isUnreadable_eq (hstand _ List.mem_cons_self))
        obtain rfl := Except.ok.inj (h.symm.trans (hexamine.trans h₀))
        obtain ⟨happart, hseparate⟩ := List.pairwise_cons.mp hseparate
        refine List.cons_prefix_cons.mpr ⟨rfl, hsame' (fun d hmem => ?_) hseparate⟩
        -- the files of the rest are not written at this place
        have hrest : d.file ∈ rest :=
          hrest₀.map_file_prefix.subset (List.mem_map_of_mem (List.mem_append_left _ hmem))
        rw [hstep.kept _ (hgrows.stands _ (hstand' _ hrest)),
          hsame d (List.mem_cons_of_mem e hmem)]
        intro e' he' hfindings
        obtain rfl := List.mem_singleton.mp he'
        rw [hgrows.linked]
        exact happart d hmem hfindings

/-- **A run that fixes** examines its files in turn, with the one that it gets stuck at. -/
theorem Scan.Visits.examinesInTurn (hs : scan.options.format.spliceable = true)
    (hfiles : Waiting t files) (h : scan.Visits (.fix backup) t files l u ending) :
    scan.ExaminesInTurn backup t (l ++ ending.pending) := by
  intro before e after hsplit
  obtain ⟨u, hfixed, hexamine⟩ := h.exists_examine hfiles hsplit
  exact ⟨u, hfixed, examines_of_examine hs hexamine⟩

/-- **The run that fixes** agrees with what there is to find. -/
theorem fixAgrees_of_visits (hs : scan.options.format.spliceable = true)
    (hfiles : Waiting t scan.files) (hpreview : scan.Visits .preview t scan.files l v ending)
    (hfix : scan.Visits (.fix backup) t scan.files l' w ending') (verbose : Bool)
    (warnings : List Text) :
    FixAgrees scan backup t l ending.fault?
      (((scan.job (.fix backup) verbose).run t scan.files).afterWarnings warnings) := by
  obtain ⟨hlead, hends, hsame⟩ := hpreview.fix_of_preview (.refl t) hfiles.stand hfix
  have hsame : Separate t l → l' ++ ending'.pending <+: l := hsame fun _ _ => rfl
  have hturn := hfix.examinesInTurn hs hfiles
  have hfixed := fixedTree_of_visits hfiles.stand hfix
  -- nothing is printed of the files
  have hlines : l'.flatMap ((LintMode.fix backup).printed scan.showing) = Text.unlines [] :=
    List.flatMap_eq_nil_iff.mpr fun _ _ => rfl
  obtain ⟨htree, hcomes⟩ := run_of_visits hs hfix _ (fun _ => hlines) verbose
  rw [if_neg (by rintro ⟨⟨⟩, -⟩), List.nil_append] at hcomes
  rw [← htree] at hfixed
  rcases ending'.pending_eq_nil_or with hnil | ⟨e, fault, rfl⟩
  · obtain ⟨hmap, hfault⟩ := hends hnil
    rw [hnil, List.append_nil] at hsame hturn hfixed
    rw [hfault] at hcomes
    refine .unhindered l' hmap hturn (fun hseparate => ?_)
      (fun e he hfindings => hfix.not_hinders hfiles he hfindings) (hcomes.afterWarnings warnings)
      hfixed
    -- there are as many files in both lists
    have hlength := congrArg List.length hmap
    rw [List.length_map, List.length_map] at hlength
    exact (hsame hseparate).eq_of_length hlength
  · obtain ⟨hfindings, hhinders⟩ := hfix.hinders hfiles
    exact .hindered l' e fault hlead hturn hsame hfindings hhinders
      (TreeRun.BreaksOff.afterWarnings hcomes warnings) hfixed

end Fix

/-! ### Three runs -/

/-- **Three runs from a tree agree**, of which the first reports, the second previews a fix and the
third fixes. -/
inductive ModesAgree (scanned : Scan → Prop) (backup : Bool) (t : Tree)
    (report preview fix : TreeRun) : Prop where
  /-- All are refused in the same words, or all give help, and no file is touched. -/
  | stopped (outcome : Outcome)
    (hstop : outcome.status ≠ 0 ∨ ∃ program, outcome = .ofStop (.help program))
    (hreport : report = ⟨outcome, t⟩) (hpreview : preview = ⟨outcome, t⟩)
    (hfix : fix = ⟨outcome, t⟩)
  /-- All go over the files of a scan. The second prints how many findings there are, or breaks off
  at a file that cannot be examined. The others agree with it, and only the third one writes. -/
  | scanned (scan : Scan) (l : List Examined) (fault? : Option Fault) (hscan : scanned scan)
    (hfinds : scan.Finds t l fault?) (hreport : ReportAgrees scan.showing l fault? report)
    (hpreview : preview.ComesTo fault? 0
      ["[TW-LINT] would fix=".toList ++ Text.ofNat (totalFindings l)])
    (hfix : FixAgrees scan backup t l fault? fix)
    (htrees : report.tree = t ∧ preview.tree = t)

section Runs

variable {scan : Scan} {scanned : Scan → Prop} {t v : Tree} {l : List Examined} {ending : Ending}

theorem length_flatMap_warnings (l : List Examined) :
    (l.flatMap Examined.warnings).length = totalFindings l := by
  unfold totalFindings Examined.warnings
  rw [List.length_flatMap, List.length_flatMap]
  simp only [List.length_map]

/-- **The run that reports** agrees with what there is to find, and leaves the tree alone. -/
theorem reportAgrees_of_visits (hs : scan.options.format.spliceable = true)
    (hpreview : scan.Visits .preview t scan.files l v ending) (verbose : Bool)
    (before : List Text) :
    ReportAgrees scan.showing l ending.fault?
      (((scan.job .report verbose).run t scan.files).afterWarnings before) ∧
    ((scan.job .report verbose).run t scan.files).tree = t := by
  have hv : v = t := hpreview.tree_eq rfl
  rcases hpreview.report_of_preview with ⟨hpaths, warnings, hwarnings, hprinted, hreport⟩ |
    ⟨l', e, line, he, hline, hpath, hreport⟩
  · have hlength := congrArg List.length hwarnings
    rw [List.length_map, List.length_map, length_flatMap_warnings] at hlength
    obtain ⟨htree, hcomes⟩ := run_of_visits hs hreport _ (fun _ => hprinted) verbose
    have hstatus : (if LintMode.report = .report ∧ totalFindings l ≠ 0 then 1 else 0)
        = if 0 < totalFindings l then 1 else 0 := by
      simp only [true_and, Nat.pos_iff_ne_zero]
    rw [hstatus] at hcomes
    exact ⟨.printed warnings hpaths hwarnings hlength.symm (hcomes.afterWarnings before),
      htree.trans hv⟩
  · -- it gets stuck, so it does not matter what it would have printed at its end
    obtain ⟨htree, hbroken⟩ := run_of_visits hs hreport [] nofun verbose
    exact ⟨.unprinted e line he hline hpath (TreeRun.BreaksOff.afterWarnings hbroken before), htree⟩

/-- **The runs over the files of a scan** agree. -/
theorem modesAgree_run (hscan : scanned scan) (hs : scan.options.format.spliceable = true)
    (hfiles : Waiting t scan.files) (backup verbose : Bool) (warnings : List Text) :
    ModesAgree scanned backup t
      (((scan.job .report verbose).run t scan.files).afterWarnings warnings)
      (((scan.job .preview verbose).run t scan.files).afterWarnings warnings)
      (((scan.job (.fix backup) verbose).run t scan.files).afterWarnings warnings) := by
  -- what a preview finds is what the other runs are compared with
  obtain ⟨l, v, ending, hpreview⟩ := scan.exists_visits .preview t scan.files
  obtain ⟨l', w, ending', hfix⟩ := scan.exists_visits (.fix backup) t scan.files
  have hlines : l.flatMap (LintMode.preview.printed scan.showing) = Text.unlines [] :=
    List.flatMap_eq_nil_iff.mpr fun _ _ => rfl
  obtain ⟨htree, hcomes⟩ := run_of_visits hs hpreview _ (fun _ => hlines) verbose
  rw [if_neg (by rintro ⟨⟨⟩, -⟩), List.nil_append] at hcomes
  obtain ⟨hreport, hreportTree⟩ := reportAgrees_of_visits hs hpreview verbose warnings
  exact .scanned scan l ending.fault? hscan (hpreview.finds hs) hreport
    (hcomes.afterWarnings warnings)
    (fixAgrees_of_visits hs hfiles hpreview hfix verbose warnings)
    ⟨hreportTree, htree.trans (hpreview.tree_eq rfl)⟩

end Runs

end ClassGroups.Command
