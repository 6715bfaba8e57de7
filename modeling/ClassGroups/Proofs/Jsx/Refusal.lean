import ClassGroups.Proofs.Checked
import ClassGroups.Proofs.Jsx.Findings
import Mathlib.Data.List.ReduceOption

/-!
# What linting refuses

Linting takes settings that were not checked, and formats every class list under settings of its
own: those given, with the indentation of the line of the class list put in. These settings pass a
check when they are made and another one before the formatting, and the gate and the renderer read
what they hold. `lintAnew` is linting with all of these steps, each of which may fail.

None of them does (`lintAnew_eq`): the indentation of a line is a text of white space for the very
notion of white space that the check has. So there are two reasons to refuse, both of which are in
the settings (`RefusesLinting`), and none in the source. The main statement is
`lint_eq_error_iff_refuses`.
-/

namespace ClassGroups.Jsx

/-- **Settings are refused** if they do not pass the check, or if their format cannot stand in a
source. -/
inductive RefusesLinting (s : Settings) : ConfigError → Prop
  | check {e : ConfigError} (h : s.check = .error e) : RefusesLinting s e
  | format {o : Options} (h : s.check = .ok o)
      (hformat : o.format = .template ∨ o.format = .mapping) :
      RefusesLinting s (.notSpliceable o.format)

/-- The finding for a class list, with each step on settings that are not known to be admissible:
the indentation of the line is put in, the outcome is checked, and the gate and the renderer read
what it holds. -/
def findingAnew? (s : Settings) (format : OutputFormat) (source : Text) (l : ClassLiteral) :
    Except SettingsError (Option Finding) := do
  let moved ← s.revise [("base_indent", .text (lineIndent source l.start))]
  let _ ← moved.check
  match ← moved.gate l.value with
  | some _ => return none
  | none =>
    let rendered ← moved.render (group l.value)
    return some {
      kind := l.kind
      line := line source l.start
      column := column source l.start
      start := l.start
      stop := l.stop
      replacement := wrap l.kind format rendered }

/-- **Linting with every step that may fail.** -/
def lintAnew (s : Settings) (attributes : List Text) (source : Text) :
    Except SettingsError (List Finding) := do
  let o ← s.check
  o.requireSpliceable
  let found ← (literals attributes o.callee source).mapM (findingAnew? s o.format source)
  return found.reduceOption

section Steps

variable {s : Settings} {o : Options} {source : Text} {e : ConfigError}

/-- No step fails for a class list, wherever it starts. -/
theorem findingAnew?_eq (h : s.Describes o) (source : Text) (l : ClassLiteral) :
    findingAnew? s o.format source l
      = .ok (if gate o.minTokens l.value = none then some (findingFor o source l) else none) := by
  -- the indentation of the line passes the check that it is given to
  obtain ⟨moved, hrevise, hmoved⟩ := h.revise_baseIndent (rebase_lineIndent o source l.start)
  have hgate : moved.gate l.value = .ok (gate o.minTokens l.value) := hmoved.gate_eq l.value
  have hrender := hmoved.render_eq (group l.value)
  rw [findingAnew?, hrevise]
  -- the gate decides with the options, and only what it lets through is rendered
  cases hreason : gate o.minTokens l.value with
  | some reason =>
    simp only [hmoved.check_eq_ok, hgate, hreason, bind, Except.bind, liftM, monadLift,
      MonadLift.monadLift]
    rfl
  | none =>
    simp only [hmoved.check_eq_ok, hgate, hreason, hrender, bind, Except.bind, liftM, monadLift,
      MonadLift.monadLift]
    rfl

theorem spliceable_eq_false_iff :
    o.format.spliceable = false ↔ o.format = .template ∨ o.format = .mapping := by
  cases o.format <;> simp [OutputFormat.spliceable]

end Steps

section Lint

variable {s : Settings} {attributes : List Text} {source : Text} {e : ConfigError}

/-- **Every step succeeds** that linting takes on account of a source. -/
theorem lintAnew_eq (s : Settings) (attributes : List Text) (source : Text) :
    lintAnew s attributes source = (s.lint attributes source).mapError .config := by
  unfold lintAnew Settings.lint
  cases hcheck : s.check with
  | error e => rfl
  | ok o =>
    have hdescribes : s.Describes o := Settings.check_eq_ok_iff.mp hcheck
    show (liftM o.requireSpliceable : Except SettingsError Unit).bind (fun _ =>
        ((literals attributes o.callee source).mapM (findingAnew? s o.format source)).bind
          fun found => .ok found.reduceOption)
      = (lint o attributes source).mapError .config
    cases hformat : o.format.spliceable with
    | false =>
      rw [lint_of_not_spliceable hformat, Options.requireSpliceable, if_neg (by simp [hformat])]
      rfl
    | true =>
      have hsteps : (literals attributes o.callee source).mapM (findingAnew? s o.format source)
          = .ok ((literals attributes o.callee source).map fun l =>
              if gate o.minTokens l.value = none then some (findingFor o source l) else none) := by
        rw [funext (findingAnew?_eq hdescribes source)]
        exact List.mapM_pure
      -- what is left are the findings for the class lists that pass the gate
      have hfound : ((literals attributes o.callee source).map fun l =>
            if gate o.minTokens l.value = none then some (findingFor o source l)
            else none).reduceOption
          = findings o attributes source := by
        rw [findings, List.reduceOption, List.filterMap_map, ← List.filterMap_eq_map,
          List.filterMap_filter]
        congr 1
        funext l
        simp
      rw [lint_eq hformat, Options.requireSpliceable, if_pos hformat, hsteps, ← hfound]
      rfl

theorem lint_eq_error_iff : s.lint attributes source = .error e ↔ RefusesLinting s e := by
  constructor
  · intro h
    rcases eq_error_or_of_bind_eq_error h with hcheck | ⟨o, hcheck, hlint⟩
    · exact .check hcheck
    · -- options with a format that can stand in a source are not refused
      cases hformat : o.format.spliceable with
      | true => exact absurd ((lint_eq hformat).symm.trans hlint) nofun
      | false =>
        obtain rfl := Except.error.inj ((lint_of_not_spliceable hformat).symm.trans hlint)
        exact .format hcheck (spliceable_eq_false_iff.mp hformat)
  · intro h
    cases h with
    | check h =>
      rw [Settings.lint, h]
      rfl
    | format h hformat =>
      rw [Settings.lint, h]
      exact lint_of_not_spliceable (spliceable_eq_false_iff.mpr hformat)

/-- A fix does nothing that may fail once the source has been linted. -/
theorem fix_eq_map_lint :
    s.fix attributes source
      = (s.lint attributes source).map fun fs => (applyFindings source fs, fs.length) := by
  unfold Settings.fix Settings.lint
  cases s.check <;> rfl

theorem fix_eq_error_iff : s.fix attributes source = .error e ↔ RefusesLinting s e := by
  rw [← lint_eq_error_iff, fix_eq_map_lint]
  cases s.lint attributes source <;> simp [Except.map]

end Lint

/-- **Linting fails on its settings** and on nothing else, for all settings, names and sources:
linting and fixing fail with an error exactly if the settings are refused with it, and what linting
does with the settings for each class list does not fail. Indeed, for every place of every source
the settings with the indentation of the line put in pass the check. -/
theorem lint_eq_error_iff_refuses (s : Settings) (attributes : List Text) (source : Text) :
    (∀ e, s.lint attributes source = .error e ↔ RefusesLinting s e) ∧
    (∀ e, s.fix attributes source = .error e ↔ RefusesLinting s e) ∧
    lintAnew s attributes source = (s.lint attributes source).mapError .config ∧
    ∀ o, s.check = .ok o → ∀ place,
      ∃ moved, s.revise [("base_indent", .text (lineIndent source place))] = .ok moved ∧
        moved.check = .ok (placed o source place) := by
  refine ⟨fun e => lint_eq_error_iff, fun e => fix_eq_error_iff,
    lintAnew_eq s attributes source, fun o hcheck place => ?_⟩
  have hdescribes : s.Describes o := Settings.check_eq_ok_iff.mp hcheck
  obtain ⟨moved, hrevise, hmoved⟩ := hdescribes.revise_baseIndent (rebase_lineIndent o source place)
  exact ⟨moved, hrevise, hmoved.check_eq_ok⟩

/-- A tag on a line that starts with a tab and a space that does not break. -/
def indentedTag : Text := "\n\t\u00a0<a class=\"p-1\">"

theorem lint_eq_error_iff_refuses_indentedTag :
    ({} : Settings).check = .ok {} ∧ lineIndent indentedTag 12 = "\t\u00a0".toList ∧
    (∃ moved, ({} : Settings).revise [("base_indent", .text "\t\u00a0")] = .ok moved ∧
      moved.check = .ok (placed {} indentedTag 12)) ∧
    ({ format := .chosen .template } : Settings).lint defaultAttributes indentedTag
      = .error (.notSpliceable .template) := by
  have hcheck : ({} : Settings).check = .ok {} := rfl
  have hindent : lineIndent indentedTag 12 = "\t\u00a0".toList := by decide +kernel
  have hplaced := (lint_eq_error_iff_refuses {} defaultAttributes indentedTag).2.2.2 {} hcheck 12
  rw [hindent] at hplaced
  have hrefused : RefusesLinting { format := .chosen .template } (.notSpliceable .template) :=
    .format (o := { format := .template }) rfl (.inl rfl)
  exact ⟨hcheck, hindent, hplaced,
    ((lint_eq_error_iff_refuses _ defaultAttributes indentedTag).1 _).mpr hrefused⟩

end ClassGroups.Jsx
