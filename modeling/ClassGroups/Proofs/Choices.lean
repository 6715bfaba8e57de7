import ClassGroups.Command.Line
import ClassGroups.Proofs.Arguments
import ClassGroups.Proofs.Checked
import ClassGroups.Proofs.Definitions
import ClassGroups.Proofs.Overrides

/-!
# Options that variables or arguments choose

Each field of the options has a variable and, unless it is the name of the helper, an option on the
command line, which wins over the variable. The fields are looked up one after the other, by name
and in lists, which is a long way for what it comes to (`optionsOf_eq`): the settings put together
from both (`chosenSettings`), if they pass the check. One field has neither a variable nor an option,
since it is set by what puts a rendering into a source: the indentation of the surroundings, which
is hence empty (`baseIndent_of_optionsOf`).

For the threshold, the indentation and the headings it does not matter which of the two chooses. The
text behind an option is converted when the arguments are read, and that of a variable is read with
the other variables, each by a reader of its own. What the one makes of a text is compared with what
the other makes of it, once for each option: they lead to the same options or both to none
(`StandsFor`).
-/

namespace ClassGroups

/-- A value of a field, unless a missing value leaves the old one. -/
def Json.over (v old : Json) : Json :=
  match v with
  | .null => old
  | v => v

section Override

variable {fields : List (Text × Json)} {name : Text}

/-- An override of a field that is there. -/
theorem override_of_any (h : fields.any (·.1 == name) = true) (v : Json) :
    Environment.override fields (name, v)
      = fields.map fun (field, old) => (field, if field = name then v.over old else old) := by
  by_cases hnull : v = .null
  · subst hnull
    rw [override_of_null rfl]
    symm
    calc fields.map _ = fields.map id := by
          apply List.map_congr_left
          rintro ⟨field, old⟩ -
          exact congrArg (field, ·) (ite_self old)
      _ = fields := List.map_id fields
  · rw [override_of_ne_null hnull, if_pos h]
    apply List.map_congr_left
    rintro ⟨field, old⟩ -
    have hover : v.over old = v := by
      cases v with
      | null => exact absurd rfl hnull
      | _ => rfl
    dsimp only
    rw [hover]
    split <;> rfl

/-- **Overrides of fields that are there**, one after the other: each field keeps its place, and the
overrides of its name act on its value. -/
theorem foldl_override_eq_map {changes : List (Text × Json)}
    (h : ∀ c ∈ changes, fields.any (·.1 == c.1) = true) :
    changes.foldl Environment.override fields
      = fields.map fun (field, old) =>
          (field, changes.foldl (fun old c => if field = c.1 then c.2.over old else old) old) := by
  induction changes generalizing fields with
  | nil => exact (List.map_id fields).symm
  | cons change changes ih =>
    obtain ⟨name, v⟩ := change
    -- an override takes no field away
    have hrest : ∀ c ∈ changes,
        (Environment.override fields (name, v)).any (·.1 == c.1) = true := by
      intro c hc
      rw [override_of_any (h _ List.mem_cons_self), List.any_map]
      exact h c (List.mem_cons_of_mem _ hc)
    rw [List.foldl_cons, ih hrest, override_of_any (h _ List.mem_cons_self), List.map_map]
    rfl

/-- A property of names is checked on the names alone. -/
theorem forall_of_map_fst_eq {names : List Text} {P : Text → Prop}
    (h : fields.map (·.1) = names) (hnames : ∀ name ∈ names, P name) : ∀ c ∈ fields, P c.1 := by
  intro c hc
  have hname : c.1 ∈ fields.map (·.1) := List.mem_map_of_mem hc
  rw [h] at hname
  exact hnames c.1 hname

end Override

namespace Command

open Arguments

/-- The value that a command line gives for the headings, which it can only turn off. -/
def headings (p : Parsed) : Json := if p.has "--no-comments" then .bool false else .null

/-- **The settings of an environment and a command line**, if the two variables that are no texts
can be read and the format is one. -/
def chosenSettings (env : Environment) (p : Parsed) : Except ConfigError Settings := do
  let threshold ← readInteger "TW_GROUP_MIN_TOKENS" (env.getD "TW_GROUP_MIN_TOKENS" "4")
  let comments ←
    readBoolean "TW_GROUP_INCLUDE_COMMENTS" (env.getD "TW_GROUP_INCLUDE_COMMENTS" "true")
  let format ← OutputFormat.parse
    ((fieldValue (p.value? "--format")).over (.text (env.getD "TW_GROUP_FORMAT" "clsx")))
  return {
    format := .chosen format
    minTokens := (fieldValue (p.value? "--min-tokens")).over (.int threshold)
    includeComments := (headings p).over (.bool comments)
    indent := (fieldValue (p.value? "--indent")).over (.text (env.getD "TW_GROUP_INDENT" "  "))
    callee := .text (env.getD "TW_GROUP_CALLEE" "clsx") }

/-- Five values under the names of the fields that variables set. -/
def namedFields (format threshold comments indent callee : Json) : List (Text × Json) := [
  ("format", format), ("min_tokens", threshold), ("include_comments", comments),
  ("indent", indent), ("callee", callee)]

section Options

variable {env : Environment} {p : Parsed} {format threshold comments indent callee : Json}

theorem map_fst_overrides (p : Parsed) (fields : List (Text × Text)) :
    (overrides p fields).map (·.1) = fields.map (·.1) ++ ["include_comments".toList] := by
  unfold overrides
  rw [List.map_append, List.map_map]
  rfl

/-- The overrides of a command line, put into fields one after the other. -/
theorem foldl_overrides (p : Parsed) :
    (overrides p renderFields).foldl Environment.override
        (namedFields format threshold comments indent callee)
      = namedFields ((fieldValue (p.value? "--format")).over format)
          ((fieldValue (p.value? "--min-tokens")).over threshold) ((headings p).over comments)
          ((fieldValue (p.value? "--indent")).over indent) callee := by
  have hthere : ∀ c ∈ overrides p renderFields,
      (namedFields format threshold comments indent callee).any (·.1 == c.1) = true := by
    -- whether a field is there depends on its name alone
    apply forall_of_map_fst_eq
      (P := fun name =>
        (namedFields format threshold comments indent callee).any (·.1 == name) = true)
      (map_fst_overrides p renderFields)
    intro name hname
    simp [renderFields] at hname
    rcases hname with rfl | rfl | rfl | rfl <;> rfl
  rw [foldl_override_eq_map hthere]
  rfl

/-- Fields that are all named make settings if the value for the format names one and the settings
pass the check. -/
theorem create_namedFields :
    Settings.create (namedFields format threshold comments indent callee)
      = (liftM (OutputFormat.parse format) : Except SettingsError OutputFormat).bind fun f =>
          (liftM (Settings.check ⟨.chosen f, threshold, comments, indent, .text [], callee⟩) :
            Except SettingsError Options).bind fun _ =>
              .ok ⟨.chosen f, threshold, comments, indent, .text [], callee⟩ := by
  have hfree : Setter.create.admit (namedFields format threshold comments indent callee)
      = .ok () := rfl
  have hlookup : (namedFields format threshold comments indent callee).lookup "format".toList
      = some format := rfl
  have hset : Settings.setAll {} (namedFields format threshold comments indent callee)
      = .ok ⟨.unread format, threshold, comments, indent, .text [], callee⟩ := rfl
  unfold Settings.create Settings.assign
  rw [hfree, hlookup, hset]
  dsimp only
  cases OutputFormat.parse format <;> rfl

theorem overrides_not_reserved (p : Parsed) :
    ¬∃ v, (Setter.fromEnvironment.reserved, v) ∈ overrides p renderFields := by
  rintro ⟨v, hmem⟩
  have hname : ∀ c ∈ overrides p renderFields, c.1 ≠ Setter.fromEnvironment.reserved :=
    forall_of_map_fst_eq (P := (· ≠ Setter.fromEnvironment.reserved))
      (map_fst_overrides p renderFields) (by decide)
  exact hname _ hmem rfl

/-- Settings are checked when they are made, and a second check comes to the same. -/
theorem check_twice (s : Settings) :
    (((liftM s.check : Except SettingsError Options).bind fun _ => .ok s).bind fun s =>
      (liftM s.check : Except SettingsError Options)) = liftM s.check := by
  cases hcheck : s.check with
  | error e => rfl
  | ok o =>
    show (liftM s.check : Except SettingsError Options) = _
    rw [hcheck]

/-- **Options of a command line** in an environment are the settings from both, checked. -/
theorem optionsOf_eq (env : Environment) (p : Parsed) :
    optionsOf env p renderFields = liftM ((chosenSettings env p).bind Settings.check) := by
  unfold optionsOf
  rw [Environment.settings_eq (overrides_not_reserved p)]
  unfold chosenSettings Environment.fields
  cases readInteger "TW_GROUP_MIN_TOKENS" (env.getD "TW_GROUP_MIN_TOKENS" "4") with
  | error e => rfl
  | ok n =>
    cases readBoolean "TW_GROUP_INCLUDE_COMMENTS" (env.getD "TW_GROUP_INCLUDE_COMMENTS" "true") with
    | error e => rfl
    | ok b =>
      show (Settings.create ((overrides p renderFields).foldl _ (namedFields _ _ _ _ _))).bind _ = _
      rw [foldl_overrides, create_namedFields]
      cases OutputFormat.parse _ with
      | error e => rfl
      | ok f => exact check_twice _

/-- What accepted options have of the settings: a threshold and an indentation of the right kind,
and no indentation of the surroundings. -/
theorem exists_of_optionsOf_eq_ok {o : Options} (h : optionsOf env p renderFields = .ok o) :
    ∃ n, readInteger "TW_GROUP_MIN_TOKENS" (env.getD "TW_GROUP_MIN_TOKENS" "4") = .ok n ∧
      (fieldValue (p.value? "--min-tokens")).over (.int n) = .int o.minTokens ∧
      (fieldValue (p.value? "--indent")).over (.text (env.getD "TW_GROUP_INDENT" "  "))
        = .text o.indent ∧ o.baseIndent = [] := by
  rw [optionsOf_eq] at h
  obtain ⟨s, hs, hcheck⟩ := exists_of_bind_eq_ok (eq_ok_of_liftM h)
  obtain ⟨n, hn, hs⟩ := exists_of_bind_eq_ok hs
  obtain ⟨b, -, hs⟩ := exists_of_bind_eq_ok hs
  obtain ⟨f, -, hs⟩ := exists_of_bind_eq_ok hs
  obtain rfl := Except.ok.inj hs
  have hdescribes := Settings.check_eq_ok_iff.mp hcheck
  have hbase : Json.text o.baseIndent = .text [] := hdescribes.baseIndent.symm
  exact ⟨n, hn, hdescribes.minTokens, hdescribes.indent, Json.text.inj hbase⟩

/-- **The indentation of the surroundings** is empty in all options that variables and arguments
describe. -/
theorem baseIndent_of_optionsOf {o : Options} (h : optionsOf env p renderFields = .ok o) :
    o.baseIndent = [] := by
  obtain ⟨n, -, -, -, hbase⟩ := exists_of_optionsOf_eq_ok h
  exact hbase

end Options

/-! ### An option or its variable -/

/-- **A variable stands for an option**: in an environment that sets it, the rest of a command line
describes the options that it describes with the option in front and without the variable. If the
value of the option will not do, there are none. -/
def StandsFor (name text option : Text) (value : Except UsageError Value) : Prop :=
  ∀ env env' p o, Environment.Sets name text env env' → p.has option = false →
    (optionsOf env' p renderFields = .ok o
      ↔ ∃ v, value = .ok v ∧ optionsOf env (p.put option v) renderFields = .ok o)

section StandsFor

variable {p : Parsed} {option t : Text} {v : Value}

theorem value?_eq_none_of_has (h : p.has option = false) : p.value? option = none := by
  unfold Parsed.has at h
  exact Option.isNone_iff_eq_none.mp (by rw [← Option.not_isSome, h]; rfl)

/-- The same options on both sides are enough for a value that will do. -/
theorem iff_of_optionsOf_eq {env env' : Environment} {o : Options}
    (h : optionsOf env (p.put option v) renderFields = optionsOf env' p renderFields) :
    optionsOf env' p renderFields = .ok o
      ↔ ∃ w, (.ok v : Except UsageError Value) = .ok w ∧
          optionsOf env (p.put option w) renderFields = .ok o := by
  rw [← h]
  constructor
  · intro hoptions
    exact ⟨v, rfl, hoptions⟩
  · rintro ⟨w, hw, hoptions⟩
    obtain rfl := Except.ok.inj hw
    exact hoptions

/-- A text that is no number is only converted if it is the separator, of which nothing is left. -/
theorem eq_dropped_of_convert_integer (h : ValueKind.integer.convert option t = .ok v)
    (hint : Text.toInt? t = none) : v = .dropped := by
  unfold ValueKind.convert at h
  split at h
  · exact (Except.ok.inj h).symm
  · rw [hint] at h
    cases h

/-- **The threshold**: both readers take the same texts for numbers. -/
theorem standsFor_threshold (t : Text) :
    StandsFor "TW_GROUP_MIN_TOKENS" t "--min-tokens"
      (ValueKind.integer.convert "--min-tokens" t) := by
  intro env env' p o hsets hopen
  have hnone : p.value? "--min-tokens" = none := value?_eq_none_of_has hopen
  cases hint : Text.toInt? t with
  | some n =>
    have hne : t ≠ "--".toList := by
      rintro rfl
      cases hint
    have hvalue : ValueKind.integer.convert "--min-tokens" t = .ok (.integer n) := by
      unfold ValueKind.convert
      rw [if_neg hne, hint]
    -- the number in front wins over the default
    have heq : optionsOf env (p.put "--min-tokens" (.integer n)) renderFields
        = optionsOf env' p renderFields := by
      rw [optionsOf_eq, optionsOf_eq]
      unfold chosenSettings headings
      rw [p.value?_put_self, hnone, p.value?_put_of_ne (by decide), p.value?_put_of_ne (by decide),
        p.has_put_of_ne (by decide), hsets.getD_with, hsets.getD_without,
        hsets.getD_eq (by decide), hsets.getD_eq (by decide), hsets.getD_eq (by decide),
        hsets.getD_eq (by decide), readInteger, readInteger, hint]
      rfl
    rw [hvalue]
    exact iff_of_optionsOf_eq heq
  | none =>
    -- the variable cannot be read, and what is left of a dropped value is no number
    apply iff_of_false
    · intro hoptions
      obtain ⟨n, hn, -⟩ := exists_of_optionsOf_eq_ok hoptions
      rw [hsets.getD_with, readInteger, hint] at hn
      cases hn
    · rintro ⟨v, hv, hoptions⟩
      obtain rfl := eq_dropped_of_convert_integer hv hint
      obtain ⟨n, -, hthreshold, -, -⟩ := exists_of_optionsOf_eq_ok hoptions
      rw [p.value?_put_self, hnone] at hthreshold
      cases hthreshold

/-- **The indentation**: any text can be one for both readers, and the separator is not blank. -/
theorem standsFor_indent (t : Text) :
    StandsFor "TW_GROUP_INDENT" t "--indent" (ValueKind.text.convert "--indent" t) := by
  intro env env' p o hsets hopen
  have hnone : p.value? "--indent" = none := value?_eq_none_of_has hopen
  by_cases hseparator : t = "--".toList
  · -- the variable is not blank, and what is left of a dropped value is no text
    subst hseparator
    have hvalue : ValueKind.text.convert "--indent" "--" = .ok .dropped := if_pos rfl
    rw [hvalue]
    apply iff_of_false
    · intro hoptions
      obtain ⟨n, -, -, hindent, -⟩ := exists_of_optionsOf_eq_ok hoptions
      rw [hnone, hsets.getD_with] at hindent
      have hblank : Text.Blank "--" := (Json.text.inj hindent) ▸ o.indent_blank
      exact absurd hblank (by decide)
    · rintro ⟨v, hv, hoptions⟩
      obtain rfl := Except.ok.inj hv
      obtain ⟨n, -, -, hindent, -⟩ := exists_of_optionsOf_eq_ok hoptions
      rw [p.value?_put_self, hnone] at hindent
      cases hindent
  · have hvalue : ValueKind.text.convert "--indent" t = .ok (.text t) := if_neg hseparator
    have heq : optionsOf env (p.put "--indent" (.text t)) renderFields
        = optionsOf env' p renderFields := by
      rw [optionsOf_eq, optionsOf_eq]
      unfold chosenSettings headings
      rw [p.value?_put_self, hnone, p.value?_put_of_ne (by decide), p.value?_put_of_ne (by decide),
        p.has_put_of_ne (by decide), hsets.getD_with, hsets.getD_without,
        hsets.getD_eq (by decide), hsets.getD_eq (by decide), hsets.getD_eq (by decide),
        hsets.getD_eq (by decide)]
      rfl
    rw [hvalue]
    exact iff_of_optionsOf_eq heq

/-- **The headings**: the flag and the word `false` turn them off. -/
theorem standsFor_comments :
    StandsFor "TW_GROUP_INCLUDE_COMMENTS" "false" "--no-comments" (.ok .given) := by
  intro env env' p o hsets hopen
  have heq : optionsOf env (p.put "--no-comments" .given) renderFields
      = optionsOf env' p renderFields := by
    rw [optionsOf_eq, optionsOf_eq]
    unfold chosenSettings headings
    rw [p.has_put_self, hopen, p.value?_put_of_ne (by decide), p.value?_put_of_ne (by decide),
      p.value?_put_of_ne (by decide), hsets.getD_with, hsets.getD_without,
      hsets.getD_eq (by decide), hsets.getD_eq (by decide), hsets.getD_eq (by decide),
      hsets.getD_eq (by decide)]
    rfl
  exact iff_of_optionsOf_eq heq

end StandsFor

end Command

end ClassGroups
