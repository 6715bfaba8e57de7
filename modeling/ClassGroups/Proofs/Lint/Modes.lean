import ClassGroups.Proofs.Arguments
import ClassGroups.Proofs.Definitions
import ClassGroups.Proofs.Lint.Agreement

/-!
# The modes of the lint tool agree

Three runs of the lint tool from one tree, with the same arguments except for the flags that choose
the mode, come to the same as far as nothing stands in the way of one of them alone: one reports,
one previews a fix and one fixes. The main statement, `lint_modesAgree`, says for all trees,
environments and arguments that either all of them stop for the same reason, or they go over the
same files (`ModesAgree`). The flags of the mode are read by `LintMode.ofArguments` alone, so that
all else that the runs are asked for is the same (`lintFor_cases`).

That each of the things occurs which may stand in the way is `lint_modes_part`.
-/

namespace ClassGroups.Command

open Arguments Files

/-! ### Three command lines -/

def modeFlags : List Text := ["--fix", "--backup", "--dry-run"]

/-- Whether an option has nothing to do with the mode. -/
def modeless (option : Text) : Bool := !modeFlags.contains option

/-- **Two command lines choose the same** apart from the mode. -/
def SameChoices (p q : Parsed) : Prop :=
  p.values.filter (modeless ·.1) = q.values.filter (modeless ·.1)

/-- **Arguments ask for the same job** apart from the mode: both stop for the same reason, or they
choose the same. -/
def SameJob (a b : List Text) : Prop :=
  match lintGrammar.parse a, lintGrammar.parse b with
  | .error stop, .error stop' => stop = stop'
  | .ok p, .ok q => SameChoices p q
  | _, _ => False

/-- **Arguments ask for a mode**, provided that they are in order. -/
def AsksFor (mode : LintMode) (arguments : List Text) : Prop :=
  ∀ p, lintGrammar.parse arguments = .ok p → LintMode.ofArguments p = mode

/-- **What a command line has scanned**: the place that its root leads to, with the options and
attributes that it and the environment describe. -/
def ScansFor (terminal : Terminal) (p : Parsed) (env : Environment) (t : Tree) (scan : Scan) :
    Prop :=
  ∃ root place, p.text? "--root" = some root ∧
    t.find? (Path.ofArgument terminal.spelling root) = some place ∧
    lintOptions env p = .ok scan.options ∧ attributesOf p = scan.attributes ∧
    terminal.showing = scan.showing ∧
    scan.files = sourceFiles t (extensionsFor terminal.spelling p)
      ⟨Path.ofArgument terminal.spelling root, place⟩

/-- **What a run of the tool scans.** -/
def Scans (terminal : Terminal) (arguments : List Text) (env : Environment) (definitions : Text)
    (t : Tree) (scan : Scan) : Prop :=
  ∃ env' p, env.withDefinitions definitions = .ok env' ∧ lintGrammar.parse arguments = .ok p ∧
    ScansFor terminal p env' t scan

section Files

variable {terminal : Terminal} {t : Tree} {p : Parsed} {env : Environment} {scan : Scan}

/-- **The sources below a root** stand in the tree, and their backups have different places. -/
theorem waiting_sourceFiles (t : Tree) (extensions : List Name) (root : Located) :
    Waiting t (sourceFiles t extensions root) := by
  unfold sourceFiles
  by_cases hroot : (t.file? root.place).isSome = true
  · -- the root is the only source
    obtain ⟨content, hcontent⟩ := Option.isSome_iff_exists.mp hroot
    rw [if_pos hroot]
    refine ⟨fun f hf => ?_, List.nodup_singleton _⟩
    obtain rfl := List.mem_singleton.mp hf
    exact Tree.holds_of_file? hcontent
  · rw [if_neg hroot]
    refine ⟨fun f hf => Tree.holds_of_mem_locatedBelow (List.mem_filter.mp hf).1, ?_⟩
    have hplaces := Tree.nodup_locatedBelow t root
    have hbackups : ((t.locatedBelow root).map fun f => backupPlace f.place).Nodup := by
      show ((t.locatedBelow root).map (backupPlace ∘ fun f => f.place)).Nodup
      rw [← List.map_map]
      refine hplaces.map_on fun p hp q hq h => ?_
      have hne {p : Place} (hp : p ∈ (t.locatedBelow root).map (·.place)) : p ≠ [] := by
        obtain ⟨f, hf, rfl⟩ := List.mem_map.mp hp
        obtain ⟨way, hway, rfl⟩ := List.mem_map.mp hf
        exact List.append_ne_nil_of_right_ne_nil _ (Tree.mem_below_iff_append.mp hway).1
      exact eq_of_backupPlace_eq (hne hp) (hne hq) h
    exact hbackups.sublist (List.filter_sublist.map _)

theorem ScansFor.waiting (h : ScansFor terminal p env t scan) : Waiting t scan.files := by
  obtain ⟨root, place, -, -, -, -, -, hfiles⟩ := h
  rw [hfiles]
  exact waiting_sourceFiles ..

theorem ScansFor.spliceable (h : ScansFor terminal p env t scan) :
    scan.options.format.spliceable = true := by
  obtain ⟨root, place, -, -, hoptions, -, -, -⟩ := h
  -- the options come from a check that refuses all others
  obtain ⟨o, -, hrest⟩ := exists_of_bind_eq_ok hoptions
  obtain ⟨_, hcheck, ho⟩ := exists_of_bind_eq_ok hrest
  obtain rfl := Except.ok.inj ho
  by_contra hformat
  have hrefused : scan.options.requireSpliceable = .error (.notSpliceable scan.options.format) :=
    if_neg hformat
  rw [hrefused] at hcheck
  exact absurd hcheck (by nofun)

/-- **What is asked for is done**: the files of the scan are run over in the mode of the flags. -/
theorem ScansFor.lintFor_eq (h : ScansFor terminal p env t scan)
    (hext : p.value? "--ext" ≠ some .dropped) :
    lintFor terminal p env t
      = (scan.job (.ofArguments p) (p.has "--verbose")).run t scan.files := by
  obtain ⟨root, place, hroot, hplace, hoptions, hattributes, hshowing, hfiles⟩ := h
  simp only [lintFor, hroot, findFile_eq_ok_some_iff.mpr hplace, lintRoot, hoptions, if_neg hext]
  rw [hattributes, hshowing, hfiles]
  rfl

end Files

section Choices

variable {terminal : Terminal} {p q : Parsed} {env : Environment} {t : Tree} {scan : Scan}

theorem SameChoices.refl (p : Parsed) : SameChoices p p := rfl

theorem SameChoices.value?_eq (h : SameChoices p q) {option : Text}
    (hoption : modeless option = true) : q.value? option = p.value? option :=
  value?_eq_of_filter_eq h.symm hoption

theorem SameChoices.lintOptions_eq (h : SameChoices p q) (env : Environment) :
    lintOptions env q = lintOptions env p := by
  have hoverrides : overrides q lintFields = overrides p lintFields := by
    unfold overrides lintFields
    simp only [List.map_cons, List.map_nil]
    rw [h.value?_eq (by decide), h.value?_eq (by decide), h.value?_eq (by decide),
      has_eq_of_filter_eq h.symm (by decide)]
  unfold lintOptions optionsOf
  rw [hoverrides]

theorem SameChoices.attributesOf_eq (h : SameChoices p q) :
    attributesOf q = attributesOf p := by
  unfold attributesOf
  rw [lacks_eq_of_filter_eq h.symm (by decide), texts_eq_of_filter_eq h.symm (by decide)]

/-- Command lines that choose the same have the same scanned. -/
theorem SameChoices.scansFor (h : SameChoices p q) (hscan : ScansFor terminal p env t scan) :
    ScansFor terminal q env t scan := by
  obtain ⟨root, place, hroot, hplace, hoptions, hattributes, hshowing, hfiles⟩ := hscan
  have hextensions : extensionsFor terminal.spelling q = extensionsFor terminal.spelling p := by
    unfold extensionsFor
    rw [text?_eq_of_filter_eq h.symm (by decide)]
  refine ⟨root, place, ?_, hplace, ?_, ?_, hshowing, ?_⟩
  · rw [text?_eq_of_filter_eq h.symm (by decide), hroot]
  · rw [h.lintOptions_eq, hoptions]
  · rw [h.attributesOf_eq, hattributes]
  · rw [hextensions, hfiles]

/-- **Only the mode depends on its flags.** Command lines that choose the same otherwise are all
refused alike, or they all run over one scan. -/
theorem lintFor_cases (terminal : Terminal) (p : Parsed) (env : Environment) (t : Tree) :
    (∃ outcome, outcome.status ≠ 0 ∧
      ∀ q, SameChoices p q → lintFor terminal q env t = ⟨outcome, t⟩) ∨
    ∃ scan verbose, ScansFor terminal p env t scan ∧ ∀ q, SameChoices p q →
      lintFor terminal q env t = (scan.job (.ofArguments q) verbose).run t scan.files := by
  have htext {q : Parsed} (h : SameChoices p q) : q.text? "--root" = p.text? "--root" :=
    text?_eq_of_filter_eq h.symm (by decide)
  cases hp : p.text? "--root" with
  | none =>
    refine .inl ⟨.broken .rootDropped, Nat.one_ne_zero, fun q h => ?_⟩
    simp only [lintFor, htext h, hp, TreeRun.broken]
  | some root =>
    cases hfound : findFile t (Path.ofArgument terminal.spelling root) with
    | error fault =>
      refine .inl ⟨.broken fault, Nat.one_ne_zero, fun q h => ?_⟩
      simp only [lintFor, htext h, hp, hfound, TreeRun.broken]
    | ok place? =>
      cases place? with
      | none =>
        refine .inl ⟨.complaint ("not found: ".toList
          ++ Name.escaped (Path.ofArgument terminal.spelling root).print),
          Nat.one_ne_zero, fun q h => ?_⟩
        simp only [lintFor, htext h, hp, hfound]
      | some place =>
        have hlint {q : Parsed} (h : SameChoices p q) : lintFor terminal q env t
            = lintRoot terminal q env t ⟨Path.ofArgument terminal.spelling root, place⟩ := by
          simp only [lintFor, htext h, hp, hfound]
        cases hoptions : lintOptions env p with
        | error e =>
          refine .inl ⟨.ofSettingsError e, Nat.succ_ne_zero 1, fun q h => ?_⟩
          rw [hlint h, lintRoot, h.lintOptions_eq, hoptions]
        | ok options =>
          by_cases hext : p.value? "--ext" = some .dropped
          · refine .inl ⟨.broken .extensionsDropped, Nat.one_ne_zero, fun q h => ?_⟩
            rw [hlint h, lintRoot, h.lintOptions_eq, hoptions]
            exact if_pos ((h.value?_eq (by decide)).trans hext)
          · have hscan : ScansFor terminal p env t ⟨options, attributesOf p, _, _⟩ :=
              ⟨root, place, hp, findFile_eq_ok_some_iff.mp hfound, hoptions, rfl, rfl, rfl⟩
            refine .inr ⟨_, p.has "--verbose", hscan, fun q h => ?_⟩
            rw [(h.scansFor hscan).lintFor_eq
                fun hq => hext ((h.value?_eq (by decide)).symm.trans hq),
              has_eq_of_filter_eq h.symm (by decide)]

end Choices

/-! ### The tool -/

section Tool

variable {a b c : List Text} {backup : Bool}

theorem SameJob.parse_eq_of_error {stop : Stop} (h : SameJob a b)
    (ha : lintGrammar.parse a = .error stop) : lintGrammar.parse b = .error stop := by
  unfold SameJob at h
  rw [ha] at h
  cases hb : lintGrammar.parse b with
  | error stop' =>
    rw [hb] at h
    exact congrArg _ (Eq.symm h)
  | ok q =>
    rw [hb] at h
    exact h.elim

theorem SameJob.exists_parse_eq {p : Parsed} (h : SameJob a b)
    (ha : lintGrammar.parse a = .ok p) : ∃ q, lintGrammar.parse b = .ok q ∧ SameChoices p q := by
  unfold SameJob at h
  rw [ha] at h
  cases hb : lintGrammar.parse b with
  | error stop =>
    rw [hb] at h
    exact h.elim
  | ok q =>
    rw [hb] at h
    exact ⟨q, rfl, h⟩

/-- **The modes agree.** Runs of the lint tool from one tree, in one environment and with arguments
that differ only in the mode they ask for, come to the same as far as no file stands in the way of
one of them alone. -/
theorem lint_modesAgree (terminal : Terminal) (hab : SameJob a b) (hac : SameJob a c)
    (ha : AsksFor .report a) (hb : AsksFor .preview b) (hc : AsksFor (.fix backup) c)
    (env : Environment) (definitions : Text) (t : Tree) :
    ModesAgree (Scans terminal a env definitions t) backup t (lint terminal a env definitions t)
      (lint terminal b env definitions t) (lint terminal c env definitions t) := by
  unfold lint TreeRun.start
  cases henv : env.withDefinitions definitions with
  | error e => exact .stopped _ (.inl Nat.one_ne_zero) rfl rfl rfl
  | ok env' =>
    cases hp : lintGrammar.parse a with
    | error stop =>
      rw [hab.parse_eq_of_error hp, hac.parse_eq_of_error hp]
      refine .stopped (.ofStop stop) ?_ rfl rfl rfl
      cases stop with
      | help program => exact .inr ⟨program, rfl⟩
      | usage program e => exact .inl (Nat.succ_ne_zero 1)
    | ok p =>
      obtain ⟨q, hq, hpq⟩ := hab.exists_parse_eq hp
      obtain ⟨r, hr, hpr⟩ := hac.exists_parse_eq hp
      -- `p`, `q` and `r` differ in the flags of the mode only
      rw [hq, hr]
      show ModesAgree _ backup t ((lintFor terminal p env' t).afterWarnings _)
        ((lintFor terminal q env' t).afterWarnings _) ((lintFor terminal r env' t).afterWarnings _)
      rcases lintFor_cases terminal p env' t with
        ⟨outcome, hstatus, hall⟩ | ⟨scan, verbose, hscan, hall⟩
      · rw [hall p (.refl p), hall q hpq, hall r hpr]
        exact .stopped (outcome.afterWarnings _) (.inl hstatus) rfl rfl rfl
      · rw [hall p (.refl p), hall q hpq, hall r hpr, ha p hp, hb q hq, hc r hr]
        exact modesAgree_run ⟨env', p, henv, hp, hscan⟩ hscan.spliceable hscan.waiting ..

end Tool

/-! ### Flags in front -/

/-- The flags that ask for a mode. -/
def LintMode.flags : LintMode → List Text
  | report => []
  | preview => ["--fix", "--dry-run"]
  | fix false => ["--fix"]
  | fix true => ["--fix", "--backup"]

section Flags

variable {arguments : List Text} {flag : Text} {p : Parsed}

theorem LintMode.ofArguments_report (h : p.has "--fix" = false) :
    LintMode.ofArguments p = report := by
  unfold ofArguments
  rw [h]
  rfl

theorem LintMode.ofArguments_preview (hfix : p.has "--fix" = true)
    (hdry : p.has "--dry-run" = true) : LintMode.ofArguments p = preview := by
  unfold ofArguments
  rw [if_pos hfix, if_pos hdry]

theorem LintMode.ofArguments_fix (hfix : p.has "--fix" = true)
    (hdry : p.has "--dry-run" = false) : LintMode.ofArguments p = fix (p.has "--backup") := by
  unfold ofArguments
  rw [if_pos hfix, hdry]
  rfl

theorem hasFlag_of_mem (h : flag ∈ modeFlags) : lintGrammar.HasFlag flag := by
  simp only [modeFlags, List.mem_cons, List.not_mem_nil, or_false] at h
  rcases h with rfl | rfl | rfl
  · exact ⟨by decide, rfl, by decide⟩
  · exact ⟨by decide, rfl, by decide⟩
  · exact ⟨by decide, rfl, by decide⟩

theorem LintMode.flags_subset (mode : LintMode) : mode.flags ⊆ modeFlags := by
  cases mode with
  | report => decide
  | preview => decide
  | fix backup => cases backup <;> decide

/-- Flags of the mode in front are given, and change nothing else. -/
theorem parse_flags_append {flags : List Text} (h : flags ⊆ modeFlags) :
    lintGrammar.parse (flags ++ arguments)
      = (lintGrammar.parse arguments).map fun p => flags.foldr (fun flag p => p.give flag) p := by
  induction flags with
  | nil =>
    show lintGrammar.parse arguments = _
    cases lintGrammar.parse arguments <;> rfl
  | cons flag flags ih =>
    have hflag : flag ∈ modeFlags := h List.mem_cons_self
    rw [List.cons_append, parse_cons_of_flag (hasFlag_of_mem hflag),
      ih fun other hother => h (List.mem_cons_of_mem flag hother)]
    cases lintGrammar.parse arguments <;> rfl

theorem sameChoices_give (h : flag ∈ modeFlags) (p : Parsed) : SameChoices p (p.give flag) := by
  have hflag : ¬modeless (flag, Value.given).1 = true := by
    show ¬(!modeFlags.contains flag) = true
    rw [List.contains_iff_mem.mpr h]
    decide
  show _ = List.filter (modeless ·.1) ((flag, .given) :: p.values)
  rw [List.filter_cons, if_neg hflag]

theorem sameChoices_giveAll {flags : List Text} (h : flags ⊆ modeFlags) (p : Parsed) :
    SameChoices p (flags.foldr (fun flag p => p.give flag) p) := by
  induction flags with
  | nil => exact .refl p
  | cons flag flags ih =>
    have hrest := ih fun other hother => h (List.mem_cons_of_mem flag hother)
    exact hrest.trans (sameChoices_give (h List.mem_cons_self) _)

/-- **Arguments behind the flags of a mode** ask for the same job as without them. -/
theorem sameJob_flags (mode : LintMode) (arguments : List Text) :
    SameJob arguments (mode.flags ++ arguments) := by
  unfold SameJob
  rw [parse_flags_append mode.flags_subset]
  cases lintGrammar.parse arguments with
  | error stop => rfl
  | ok p => exact sameChoices_giveAll mode.flags_subset p

/-- **Flags in front ask for their mode** unless a flag of the mode is given behind them. -/
theorem asksFor_flags (mode : LintMode)
    (h : ∀ p, lintGrammar.parse arguments = .ok p → ∀ flag ∈ modeFlags, p.has flag = false) :
    AsksFor mode (mode.flags ++ arguments) := by
  intro q hq
  rw [parse_flags_append mode.flags_subset] at hq
  obtain ⟨p, hp, rfl⟩ := exists_of_map_eq_ok hq
  have hfix : p.has "--fix" = false := h p hp _ (by decide)
  have hbackup : p.has "--backup" = false := h p hp _ (by decide)
  have hdry : p.has "--dry-run" = false := h p hp _ (by decide)
  have hne : "--dry-run".toList ≠ "--fix" ∧ "--dry-run".toList ≠ "--backup" ∧
      "--backup".toList ≠ "--fix" := by decide
  cases mode with
  | report => exact LintMode.ofArguments_report hfix
  | preview =>
    apply LintMode.ofArguments_preview
    · exact Parsed.has_give_self _
    · show ((p.give "--dry-run").give "--fix").has "--dry-run" = true
      rw [Parsed.has_give_of_ne _ hne.1, Parsed.has_give_self]
  | fix backup =>
    cases backup with
    | false =>
      show LintMode.ofArguments (p.give "--fix") = _
      rw [LintMode.ofArguments_fix (Parsed.has_give_self p),
        Parsed.has_give_of_ne p hne.2.2, hbackup]
      rw [Parsed.has_give_of_ne p hne.1, hdry]
    | true =>
      show LintMode.ofArguments ((p.give "--backup").give "--fix") = _
      rw [LintMode.ofArguments_fix (Parsed.has_give_self _), Parsed.has_give_of_ne _ hne.2.2,
        Parsed.has_give_self]
      rw [Parsed.has_give_of_ne _ hne.1, Parsed.has_give_of_ne _ hne.2.1, hdry]

theorem parse_root {root : Text} (h : root.head? ≠ some '-') :
    lintGrammar.parse ["--root", root] = .ok { values := [("--root", .text root)] } :=
  (parse_option_value (by decide) (by decide) rfl h).trans rfl

/-- The command line with nothing but the current directory as its root. -/
def onlyHere : Parsed := { values := [("--root", .text ".")] }

/-- What this command line has scanned. -/
def scanHere (files : List Located) : Scan where
  options := default
  attributes := .ok Jsx.defaultAttributes
  showing := Terminal.strict.showing
  files := files

/-- **The run on the current directory** in a mode. -/
theorem lint_here {t : Tree} (mode : LintMode) (files : List Located)
    (hfiles : sourceFiles t (extensionsFor Terminal.strict.spelling onlyHere)
      ⟨Path.ofText ".", []⟩ = files) :
    lint .strict (mode.flags ++ (["--root", "."] : List Text)) [] [] t
      = (((scanHere files).job mode false).run t files).afterWarnings
          (Environment.warnings [] []) := by
  have hparse : lintGrammar.parse ["--root", "."] = .ok onlyHere := parse_root (by decide)
  have hasks : AsksFor mode (mode.flags ++ (["--root", "."] : List Text)) := by
    refine asksFor_flags mode fun p hp => ?_
    obtain rfl := Except.ok.inj (hparse.symm.trans hp)
    decide
  have hgiven : lintGrammar.parse (mode.flags ++ (["--root", "."] : List Text)) = _ :=
    parse_flags_append mode.flags_subset
  rw [hparse] at hgiven
  have hsame : SameChoices onlyHere _ := sameChoices_giveAll mode.flags_subset _
  have hscan : ScansFor .strict onlyHere [] t (scanHere files) :=
    ⟨".", [], rfl, rfl, rfl, rfl, rfl, hfiles.symm⟩
  have hext := hsame.value?_eq (show modeless "--ext" = true by decide)
  have hverbose := has_eq_of_filter_eq hsame.symm (show modeless "--verbose" = true by decide)
  unfold lint TreeRun.start
  rw [Environment.withDefinitions_nil, hgiven]
  show (lintFor .strict _ [] t).afterWarnings _ = _
  rw [(hsame.scansFor hscan).lintFor_eq (by rw [hext]; nofun), hasks _ hgiven, hverbose]
  rfl

end Flags

/-- A source whose backup would stand where a file stands already. -/
def backedUpTree : Tree where
  files := [
    ([Name.ofText "a.jsx"], Text.encode "<p className=\x7bclsx('mt-4 flex p-2 text-sm')\x7d />"),
    ([Name.ofText "a.jsx.bak"], Text.encode "<p />")]

theorem lint_modesAgree_backedUpTree :
    Scans .strict ["--root", "a.jsx"] [] [] backedUpTree
      ⟨{}, .ok Jsx.defaultAttributes, Terminal.strict.showing,
        [⟨Path.ofText "a.jsx", [Name.ofText "a.jsx"]⟩]⟩ ∧
    ModesAgree (Scans .strict ["--root", "a.jsx"] [] [] backedUpTree) true backedUpTree
      (lint .strict ["--root", "a.jsx"] [] [] backedUpTree)
      (lint .strict ["--fix", "--dry-run", "--root", "a.jsx"] [] [] backedUpTree)
      (lint .strict ["--fix", "--backup", "--root", "a.jsx"] [] [] backedUpTree) := by
  have hparse : lintGrammar.parse ["--root", "a.jsx"]
      = .ok { values := [("--root", .text "a.jsx")] } := parse_root (by decide)
  have hno : ∀ p, lintGrammar.parse ["--root", "a.jsx"] = .ok p →
      ∀ flag ∈ modeFlags, p.has flag = false := by
    intro p hp
    obtain rfl := Except.ok.inj (hparse.symm.trans hp)
    decide
  have henv : Environment.withDefinitions [] [] = .ok [] := Environment.withDefinitions_nil []
  have hscans : ScansFor .strict { values := [("--root", .text "a.jsx")] } [] backedUpTree
      ⟨{}, .ok Jsx.defaultAttributes, Terminal.strict.showing,
        [⟨Path.ofText "a.jsx", [Name.ofText "a.jsx"]⟩]⟩ :=
    ⟨"a.jsx", [Name.ofText "a.jsx"], rfl, by decide, rfl, rfl, rfl, rfl⟩
  exact ⟨⟨[], _, henv, hparse, hscans⟩,
    lint_modesAgree .strict (sameJob_flags .preview _) (sameJob_flags (.fix true) _)
      (asksFor_flags .report hno) (asksFor_flags .preview hno) (asksFor_flags (.fix true) hno)
      [] [] backedUpTree⟩

/-! ### Where the modes part -/

/-- A source with one class list to group. -/
def oneClassList : Text.Bytes := Text.encode "<p className=\"mt-4 flex p-2 text-sm\" />\n"

/-- A name of 255 bytes. -/
def longestName : Name := Name.ofText (List.replicate 251 'a' ++ ".jsx")

/-- A source whose name is as long as can be, so that there can be no backup of it. -/
def longNamedTree : Tree where
  files := [([longestName], oneClassList)]

/-- A source that is locked. -/
def lockedTree : Tree where
  files := [([Name.ofText "a.jsx"], oneClassList)]
  locked := [[Name.ofText "a.jsx"]]

/-- A source that is come to twice. -/
def linkedTree : Tree where
  files := [([Name.ofText "a.jsx"], oneClassList), ([Name.ofText "b.jsx"], oneClassList)]
  links := [[[Name.ofText "a.jsx"], [Name.ofText "b.jsx"]]]

/-- A name with a byte in it that belongs to no character. -/
def unspelledName : Name := .byte 0xff :: Name.ofText ".jsx"

/-- A source whose path cannot be printed. -/
def unspelledTree : Tree where
  files := [([unspelledName], oneClassList)]

/-- A file at the top of a tree. -/
def topFile (n : Name) : Located := ⟨⟨[], [n]⟩, [n]⟩

/-- The line that is printed for the class list. -/
def oneLine (name : Text) : Text :=
  name ++ ":1:14: warning: Tailwind classes should be grouped by category"

theorem sourceFiles_linkedTree :
    sourceFiles linkedTree (extensionsFor Terminal.strict.spelling onlyHere) ⟨Path.ofText ".", []⟩
      = [topFile (Name.ofText "a.jsx"), topFile (Name.ofText "b.jsx")] := by
  have hbelow : linkedTree.below [] = [[Name.ofText "a.jsx"], [Name.ofText "b.jsx"]] := by
    unfold Tree.below
    rw [List.mergeSort_of_pairwise (by decide)]
    decide
  unfold sourceFiles Tree.locatedBelow
  rw [if_neg (by decide), hbelow]
  decide +kernel

/-- What is found in a source with one class list. -/
def foundAt (f : Located) : Examined where
  file := f
  bytes := oneClassList
  findings := Jsx.findings default Jsx.defaultAttributes (Text.ofFile oneClassList)

theorem examine_foundAt {t : Tree} {f : Located} {files : List Located}
    (h : readFile t f = .ok oneClassList) :
    (scanHere files).examine t f = .ok (foundAt f) :=
  Scan.examine_eq_ok_iff.mpr ⟨h, rfl, Jsx.defaultAttributes, rfl, rfl⟩

theorem findings_foundAt (f : Located) : (foundAt f).findings ≠ [] := by
  show Jsx.findings default Jsx.defaultAttributes (Text.ofFile oneClassList) ≠ []
  decide +kernel

/-- **A run breaks off** at the only file below the current directory. -/
theorem breaksOff_here {t u : Tree} {f : Located} {fault : Fault} (mode : LintMode)
    (hfiles : sourceFiles t (extensionsFor Terminal.strict.spelling onlyHere)
      ⟨Path.ofText ".", []⟩ = [f])
    (hread : readFile t f = .ok oneClassList)
    (hact : mode.act Terminal.strict.showing t (foundAt f) = (u, some fault)) :
    (lint .strict (mode.flags ++ (["--root", "."] : List Text)) [] [] t).BreaksOff fault := by
  have hvisits : (scanHere [f]).Visits mode t [f] [] u (.stuck (foundAt f) fault) :=
    .stuck [] (examine_foundAt hread) hact
  obtain ⟨-, hbroken⟩ := run_of_visits rfl hvisits [] nofun false
  rw [lint_here mode [f] hfiles]
  exact TreeRun.BreaksOff.afterWarnings hbroken _

/-- The backup of the source with the long name cannot even be looked for. -/
theorem breaksOff_longNamedTree :
    (lint .strict ["--fix", "--backup", "--root", "."] [] [] longNamedTree).BreaksOff
      (.longName ((topFile longestName).path.extend ".bak")) := by
  have hread : readFile longNamedTree (topFile longestName) = .ok oneClassList :=
    readFile_eq_ok_iff.mpr ⟨by decide +kernel, by decide +kernel⟩
  refine breaksOff_here (.fix true) (by decide +kernel) hread (u := longNamedTree) ?_
  rw [LintMode.act_fix, if_neg (findings_foundAt _)]
  unfold fixFile
  rw [if_pos rfl, backUp_of_long (by decide +kernel)]
  rfl

/-- The locked source cannot be written. -/
theorem breaksOff_lockedTree :
    (lint .strict ["--fix", "--root", "."] [] [] lockedTree).BreaksOff
      (.denied (topFile (Name.ofText "a.jsx")).path) := by
  refine breaksOff_here (.fix false) (by decide +kernel) rfl
    (u := lockedTree) (f := topFile (Name.ofText "a.jsx")) ?_
  have hrefusal : refusal? lockedTree (topFile (Name.ofText "a.jsx")) = _ :=
    refusal?_of_isSome (by decide +kernel)
  rw [if_pos (by decide +kernel)] at hrefusal
  rw [LintMode.act_fix, if_neg (findings_foundAt _)]
  unfold fixFile
  rw [if_neg Bool.false_ne_true]
  dsimp only [foundAt]
  rw [writeFile_of_refusal hrefusal]

/-- The finding in the source with a byte in its name cannot be printed. -/
theorem breaksOff_unspelledTree :
    ∃ line, (lint .strict ["--root", "."] [] [] unspelledTree).BreaksOff (.notEncoded line) := by
  rcases (foundAt (topFile unspelledName)).printLines_cases Terminal.strict.showing with
    ⟨hpath, -⟩ | ⟨printed, line, -, -, hprint⟩
  · have hname : unspelledName.IsShown Terminal.strict.showing :=
      hpath (findings_foundAt _) unspelledName List.mem_cons_self
    exact absurd (hname 0xff List.mem_cons_self) Bool.false_ne_true
  · refine ⟨line, breaksOff_here .report (by decide +kernel) rfl
      (u := unspelledTree) (f := topFile unspelledName) ?_⟩
    show (unspelledTree, (printLines _ _).2) = _
    rw [hprint]

/-- **The modes need not agree.** A backup may have too long a name, a source may be locked, a fix
may come to a file again, and a report may come to a path that cannot be printed. And help is no
error. -/
theorem lint_modes_part :
    (∀ mode : LintMode,
      (lint .strict (mode.flags ++ (["--help"] : List Text)) [] [] linkedTree).Ends 0
        ["usage: lint_jsx_classes.py [-h] ..."]) ∧
    ((lint .strict ["--root", "."] [] [] longNamedTree).Ends 1
        [oneLine (List.replicate 251 'a' ++ ".jsx"), "[TW-LINT] warnings=1"] ∧
      (lint .strict ["--fix", "--dry-run", "--root", "."] [] [] longNamedTree).Ends 0
        ["[TW-LINT] would fix=1"] ∧
      (lint .strict ["--fix", "--backup", "--root", "."] [] [] longNamedTree).BreaksOff
        (.longName ((topFile longestName).path.extend ".bak"))) ∧
    ((lint .strict ["--fix", "--dry-run", "--root", "."] [] [] lockedTree).Ends 0
        ["[TW-LINT] would fix=1"] ∧
      (lint .strict ["--fix", "--root", "."] [] [] lockedTree).BreaksOff
        (.denied (topFile (Name.ofText "a.jsx")).path)) ∧
    ((lint .strict ["--root", "."] [] [] linkedTree).Ends 1
        [oneLine "a.jsx", oneLine "b.jsx", "[TW-LINT] warnings=2"] ∧
      (lint .strict ["--fix", "--dry-run", "--root", "."] [] [] linkedTree).Ends 0
        ["[TW-LINT] would fix=2"] ∧
      (lint .strict ["--fix", "--root", "."] [] [] linkedTree).Ends 0 ["[TW-LINT] fixed=1"]) ∧
    (∃ line, (lint .strict ["--root", "."] [] [] unspelledTree).BreaksOff (.notEncoded line)) ∧
      (lint .strict ["--fix", "--dry-run", "--root", "."] [] [] unspelledTree).Ends 0
        ["[TW-LINT] would fix=1"] := by
  have hlinked (mode : LintMode) := lint_here mode _ sourceFiles_linkedTree
  refine ⟨fun mode => ?_, ⟨?_, ?_, breaksOff_longNamedTree⟩, ⟨?_, breaksOff_lockedTree⟩,
    ⟨?_, ?_, ?_⟩, breaksOff_unspelledTree, ?_⟩
  · cases mode with
    | report => decide +kernel
    | preview => decide +kernel
    | fix backup => cases backup <;> decide +kernel
  · decide +kernel
  · decide +kernel
  · decide +kernel
  · refine (hlinked .report).symm ▸ ?_
    decide +kernel
  · refine (hlinked .preview).symm ▸ ?_
    decide +kernel
  · refine (hlinked (.fix false)).symm ▸ ?_
    decide +kernel
  · decide +kernel

end ClassGroups.Command
