import ClassGroups.Options.Environment
import ClassGroups.Proofs.Results
import Mathlib.Data.List.Forall2

/-!
# What overrides mask

Options are read from an environment, and overrides are put in. Two environments may differ in the
variables of the overridden fields, and one would like the outcome not to depend on them. It does so
in one way only, which `settings_eq_settings_iff` names: two variables are read before any override
is put in, and one of them may hold a text that cannot be read.

The argument follows the overrides one after the other. Before each of them the fields that the two
environments describe agree outside of what is still to be overridden (`AgreeOutside.override`), and
after the last one nothing is left in which they could differ. On the other side, no later step
fails for the text of a variable (`SparesVariables`), so an outcome in which a variable could not be
read shows which one it was.
-/

namespace ClassGroups

/-- The fields that a variable can set, with the names of their variables. -/
def fieldVariables : List (Text × Text) := [
  ("format", "TW_GROUP_FORMAT"), ("min_tokens", "TW_GROUP_MIN_TOKENS"),
  ("include_comments", "TW_GROUP_INCLUDE_COMMENTS"), ("indent", "TW_GROUP_INDENT"),
  ("callee", "TW_GROUP_CALLEE")]

/-- **Overrides give a value** for a field. A missing value is none. -/
def Overridden (overrides : List (Text × Json)) (field : Text) : Prop :=
  ∃ v, (field, v) ∈ overrides ∧ v ≠ .null

section Overridden

variable {overrides : List (Text × Json)} {change : Text × Json} {field : Text}

theorem overridden_cons_of_null (h : change.2 = .null) :
    Overridden (change :: overrides) field ↔ Overridden overrides field := by
  constructor
  · rintro ⟨v, hmem, hv⟩
    rcases List.mem_cons.mp hmem with rfl | hmem
    · exact absurd h hv
    · exact ⟨v, hmem, hv⟩
  · rintro ⟨v, hmem, hv⟩
    exact ⟨v, List.mem_cons_of_mem change hmem, hv⟩

/-- A field that the first override leaves alone is overridden only by one of the others. -/
theorem overridden_of_cons (h : Overridden (change :: overrides) field) (hne : field ≠ change.1) :
    Overridden overrides field := by
  obtain ⟨v, hmem, hv⟩ := h
  rcases List.mem_cons.mp hmem with rfl | hmem
  · exact absurd rfl hne
  · exact ⟨v, hmem, hv⟩

end Overridden

/-! ### Fields into which overrides are put -/

/-- **Fields agree outside** of some of them: they have the same names in the same order, and the
same values except where it does not matter. -/
def AgreeOutside (masked : Text → Prop) (f g : List (Text × Json)) : Prop :=
  List.Forall₂ (fun a b => a.1 = b.1 ∧ (¬masked a.1 → a.2 = b.2)) f g

section AgreeOutside

variable {masked : Text → Prop} {f g overrides : List (Text × Json)} {change : Text × Json}

theorem AgreeOutside.mono {masked' : Text → Prop} (h : AgreeOutside masked f g)
    (hmask : ∀ a ∈ f, masked a.1 → masked' a.1) : AgreeOutside masked' f g := by
  refine List.Forall₂.imp ?_ ((List.forall₂_and_left _ _).mpr ⟨hmask, h⟩)
  rintro a b ⟨himp, hname, hvalue⟩
  exact ⟨hname, fun hnot => hvalue fun hmasked => hnot (himp hmasked)⟩

theorem AgreeOutside.any_eq (h : AgreeOutside masked f g) (name : Text) :
    f.any (·.1 == name) = g.any (·.1 == name) := by
  induction h with
  | nil => rfl
  | cons hab _ ih => rw [List.any_cons, List.any_cons, ih, hab.1]

theorem AgreeOutside.eq (h : AgreeOutside masked f g) (hmask : ∀ field, ¬masked field) :
    f = g := by
  induction h with
  | nil => rfl
  | cons hab _ ih => rw [ih, Prod.ext hab.1 (hab.2 (hmask _))]

theorem override_of_null (h : change.2 = .null) (f : List (Text × Json)) :
    Environment.override f change = f := by
  obtain ⟨name, v⟩ := change
  obtain rfl : v = .null := h
  rfl

theorem override_of_ne_null (h : change.2 ≠ .null) (f : List (Text × Json)) :
    Environment.override f change
      = if f.any (·.1 == change.1) then
          f.map fun (field, old) => if field = change.1 then (field, change.2) else (field, old)
        else f ++ [change] := by
  obtain ⟨name, v⟩ := change
  cases v with
  | null => exact absurd rfl h
  | _ => rfl

/-- **One override** takes its field out of those in which two lists may differ. -/
theorem AgreeOutside.override (h : AgreeOutside (Overridden (change :: overrides)) f g) :
    AgreeOutside (Overridden overrides) (Environment.override f change)
      (Environment.override g change) := by
  by_cases hnull : change.2 = .null
  · rw [override_of_null hnull, override_of_null hnull]
    exact h.mono fun a _ => (overridden_cons_of_null hnull).mp
  · rw [override_of_ne_null hnull, override_of_ne_null hnull, ← h.any_eq]
    split
    · -- the field is there, and its value is replaced on both sides
      refine List.forall₂_map_left_iff.mpr (List.forall₂_map_right_iff.mpr ?_)
      refine List.Forall₂.imp ?_ h
      rintro ⟨name, v⟩ ⟨name', w⟩ ⟨hname, hvalue⟩
      obtain rfl : name = name' := hname
      by_cases hchange : name = change.1
      · simp [hchange]
      · have hrest : ¬Overridden overrides name → v = w := fun hnot =>
          hvalue fun hoverridden => hnot (overridden_of_cons hoverridden hchange)
        simpa [hchange] using hrest
    · next hany =>
      -- none of the fields there is overridden by this change
      refine List.rel_append (h.mono fun a ha hoverridden => ?_) (.cons ⟨rfl, fun _ => rfl⟩ .nil)
      apply overridden_of_cons hoverridden
      intro heq
      exact hany (List.any_eq_true.mpr ⟨a, ha, beq_iff_eq.mpr heq⟩)

/-- **All overrides** together leave nothing in which two lists may differ. -/
theorem foldl_override_eq (h : AgreeOutside (Overridden overrides) f g) :
    overrides.foldl Environment.override f = overrides.foldl Environment.override g := by
  induction overrides generalizing f g with
  | nil => exact h.eq fun field ⟨_, hmem, _⟩ => absurd hmem List.not_mem_nil
  | cons change overrides ih => exact ih h.override

end AgreeOutside

/-! ### Variables that are read at once -/

/-- Whether a reason lies in the text of a variable. -/
def ConfigError.concernsVariable : ConfigError → Bool
  | variableNotInteger .. | variableNotBoolean .. => true
  | _ => false

/-- **A step spares the variables**: if it fails, then for another reason than their texts. -/
def SparesVariables {A : Type} (x : Except ConfigError A) : Prop :=
  ∀ e, x = .error e → e.concernsVariable = false

section Steps

variable {A B : Type} {x : Except ConfigError A} {e : ConfigError}

theorem sparesVariables_ok (a : A) : SparesVariables (.ok a) := fun _ h => by cases h

theorem sparesVariables_error (h : e.concernsVariable = false) :
    SparesVariables (.error e : Except ConfigError A) := by
  intro e' heq
  rwa [← Except.error.inj heq]

theorem SparesVariables.bind {f : A → Except ConfigError B} (hx : SparesVariables x)
    (hf : ∀ a, SparesVariables (f a)) : SparesVariables (x.bind f) := by
  intro e h
  rcases eq_error_or_of_bind_eq_error h with h | ⟨a, -, h⟩
  · exact hx e h
  · exact hf a e h

theorem sparesVariables_parse (v : Json) : SparesVariables (OutputFormat.parse v) := by
  unfold OutputFormat.parse
  dsimp only
  split
  · exact sparesVariables_ok _
  · exact sparesVariables_error rfl

variable (s : Settings)

theorem sparesVariables_format? : SparesVariables s.format? := by
  unfold Settings.format?
  split
  · exact sparesVariables_ok _
  · exact sparesVariables_error rfl

theorem sparesVariables_threshold? : SparesVariables s.threshold? := by
  unfold Settings.threshold?
  split
  · exact sparesVariables_ok _
  · exact sparesVariables_error rfl

theorem sparesVariables_indents? : SparesVariables s.indents? := by
  unfold Settings.indents?
  split
  · exact sparesVariables_ok _
  · exact sparesVariables_error rfl

theorem sparesVariables_callee? : SparesVariables s.callee? := by
  unfold Settings.callee?
  split
  · exact sparesVariables_ok _
  · exact sparesVariables_error rfl

/-- A check finds nothing wrong with variables, since it does not see them. -/
theorem sparesVariables_check : SparesVariables s.check := by
  unfold Settings.check
  refine (sparesVariables_format? s).bind fun format => ?_
  refine (sparesVariables_threshold? s).bind fun threshold => ?_
  split
  · refine (sparesVariables_indents? s).bind fun (indent, baseIndent) => ?_
    dsimp only
    split
    · refine (sparesVariables_callee? s).bind fun callee => ?_
      split
      · exact sparesVariables_ok _
      · exact sparesVariables_error rfl
    · exact sparesVariables_error rfl
  · exact sparesVariables_error rfl

end Steps

section Faults

variable {fields changes : List (Text × Json)} {s : Settings} {e : ConfigError}

/-- Fields are set without a look at their values, so only a name can be refused. -/
theorem setAll_ne_config : s.setAll changes ≠ .error (.config e) := by
  induction changes generalizing s with
  | nil => nofun
  | cons change changes ih =>
    obtain ⟨field, v⟩ := change
    rw [Settings.setAll]
    split
    · exact ih
    · split <;> nofun

theorem eq_error_of_liftM {A : Type} {x : Except ConfigError A}
    (h : (liftM x : Except SettingsError A) = .error (.config e)) : x = .error e := by
  cases x with
  | ok a => cases h
  | error e' =>
    cases h
    rfl

theorem eq_ok_of_liftM {A : Type} {x : Except ConfigError A} {a : A}
    (h : (liftM x : Except SettingsError A) = .ok a) : x = .ok a := by
  cases x with
  | ok b =>
    cases h
    rfl
  | error e => cases h

/-- What is done with a format that was chosen finds nothing wrong with variables either. -/
theorem not_concernsVariable_of_finish {format : FormatSetting}
    (h : ((s.setAll changes).bind fun s =>
        (liftM (Settings.check { s with format }) : Except SettingsError Options).bind fun _ =>
          Except.ok { s with format })
      = .error (.config e)) :
    e.concernsVariable = false := by
  rcases eq_error_or_of_bind_eq_error h with h | ⟨s', -, h⟩
  · exact absurd h setAll_ne_config
  rcases eq_error_or_of_bind_eq_error h with h | ⟨o, -, h⟩
  · exact sparesVariables_check _ e (eq_error_of_liftM h)
  · cases h

/-- **Fields that are refused** are not refused for the text of a variable. -/
theorem not_concernsVariable_of_create (h : Settings.create fields = .error (.config e)) :
    e.concernsVariable = false := by
  unfold Settings.create at h
  rcases eq_error_or_of_bind_eq_error h with h | ⟨_, -, h⟩
  · -- a reserved name is no reason of the kind in question
    unfold Setter.admit at h
    split at h <;> cases h
  unfold Settings.assign at h
  dsimp only at h
  -- a value for the format is read first, and otherwise the format is the default
  split at h
  · rcases eq_error_or_of_bind_eq_error h with h | ⟨format, -, h⟩
    · exact sparesVariables_parse _ e (eq_error_of_liftM (eq_error_of_map_eq_error h))
    · exact not_concernsVariable_of_finish h
  · exact not_concernsVariable_of_finish h

end Faults

namespace Environment

/-- Texts are compared lawfully, so that membership in a list of them can be decided. -/
local instance : LawfulBEq Text := inferInstance

/-- **Why the variables cannot be read** into fields: of the two whose texts are read before any
override is put in, the first whose text will not do. -/
def unreadable? (env : Environment) : Option ConfigError :=
  let threshold := env.getD "TW_GROUP_MIN_TOKENS" "4"
  let headings := env.getD "TW_GROUP_INCLUDE_COMMENTS" "true"
  if Text.toInt? threshold = none then
    some (.variableNotInteger "TW_GROUP_MIN_TOKENS" threshold)
  else if (Text.trim headings).lower ∉ ["true".toList, "false".toList] then
    some (.variableNotBoolean "TW_GROUP_INCLUDE_COMMENTS" headings)
  else none

/-- **Environments agree** except in the variables of overridden fields. -/
def AgreeExcept (overrides : List (Text × Json)) (env env' : Environment) : Prop :=
  ∀ name, (∀ entry ∈ fieldVariables, entry.2 = name → ¬Overridden overrides entry.1) →
    env.lookup name = env'.lookup name

section Fields

variable {env env' : Environment} {overrides f g : List (Text × Json)} {e : ConfigError}

theorem fields_of_unreadable? (h : env.unreadable? = some e) : env.fields = .error e := by
  unfold unreadable? at h
  dsimp only at h
  unfold fields readInteger
  split at h
  · next hthreshold =>
    rw [hthreshold]
    exact congrArg Except.error (Option.some.inj h)
  · next hthreshold =>
    obtain ⟨n, hn⟩ := Option.ne_none_iff_exists'.mp hthreshold
    rw [hn]
    split at h
    · next hheadings =>
      show (readBoolean _ _).bind _ = _
      unfold readBoolean
      dsimp only
      simp only [List.mem_cons, List.not_mem_nil, or_false, not_or] at hheadings
      rw [if_neg hheadings.1, if_neg hheadings.2]
      exact congrArg Except.error (Option.some.inj h)
    · cases h

theorem exists_fields_of_readable (h : env.unreadable? = none) : ∃ f, env.fields = .ok f := by
  unfold unreadable? at h
  dsimp only at h
  unfold fields readInteger
  split at h
  · cases h
  · next hthreshold =>
    obtain ⟨n, hn⟩ := Option.ne_none_iff_exists'.mp hthreshold
    rw [hn]
    show ∃ f, (readBoolean _ _).bind _ = _
    split at h
    · cases h
    · next hheadings =>
      unfold readBoolean
      dsimp only
      simp only [List.mem_cons, List.not_mem_nil, or_false, not_not] at hheadings
      rcases hheadings with htrue | hfalse
      · rw [if_pos htrue]
        exact ⟨_, rfl⟩
      · rw [hfalse, if_neg (by decide), if_pos rfl]
        exact ⟨_, rfl⟩

theorem concernsVariable_of_unreadable? (h : env.unreadable? = some e) :
    e.concernsVariable = true := by
  unfold unreadable? at h
  dsimp only at h
  split_ifs at h
  · cases h
    rfl
  · cases h
    rfl

theorem AgreeExcept.getD_eq {field name : Text} (h : AgreeExcept overrides env env')
    (hmem : (field, name) ∈ fieldVariables) (hfield : ¬Overridden overrides field)
    (fallback : Text) : env.getD name fallback = env'.getD name fallback := by
  have hunique : ∀ a ∈ fieldVariables, ∀ b ∈ fieldVariables, a.2 = b.2 → a.1 = b.1 := by decide
  unfold getD
  rw [h name]
  intro entry hentry hname
  rwa [hunique entry hentry (field, name) hmem hname]

theorem AgreeExcept.agreeOutside (h : AgreeExcept overrides env env') (hf : env.fields = .ok f)
    (hg : env'.fields = .ok g) : AgreeOutside (Overridden overrides) f g := by
  obtain ⟨n, hn, hf⟩ := exists_of_bind_eq_ok hf
  obtain ⟨b, hb, hf⟩ := exists_of_bind_eq_ok hf
  obtain ⟨n', hn', hg⟩ := exists_of_bind_eq_ok hg
  obtain ⟨b', hb', hg⟩ := exists_of_bind_eq_ok hg
  obtain rfl := Except.ok.inj hf
  obtain rfl := Except.ok.inj hg
  have heq (field name fallback : Text) (hmem : (field, name) ∈ fieldVariables)
      (hfield : ¬Overridden overrides field) : env.getD name fallback = env'.getD name fallback :=
    h.getD_eq hmem hfield fallback
  refine .cons ⟨rfl, fun hfield => ?_⟩ (.cons ⟨rfl, fun hfield => ?_⟩
    (.cons ⟨rfl, fun hfield => ?_⟩ (.cons ⟨rfl, fun hfield => ?_⟩
      (.cons ⟨rfl, fun hfield => ?_⟩ .nil))))
  · rw [heq "format" "TW_GROUP_FORMAT" _ (by decide) hfield]
  · rw [heq "min_tokens" "TW_GROUP_MIN_TOKENS" _ (by decide) hfield] at hn
    rw [Except.ok.inj (hn.symm.trans hn')]
  · rw [heq "include_comments" "TW_GROUP_INCLUDE_COMMENTS" _ (by decide) hfield] at hb
    rw [Except.ok.inj (hb.symm.trans hb')]
  · rw [heq "indent" "TW_GROUP_INDENT" _ (by decide) hfield]
  · rw [heq "callee" "TW_GROUP_CALLEE" _ (by decide) hfield]

end Fields

section Settings

variable {env env' : Environment} {overrides f : List (Text × Json)} {e : ConfigError}

/-- Overrides without the reserved name are put into the fields of the environment. -/
theorem settings_eq (h : ¬∃ v, (Setter.fromEnvironment.reserved, v) ∈ overrides) :
    env.settings overrides
      = (liftM env.fields : Except SettingsError _).bind fun fields =>
          Settings.create (overrides.foldl override fields) := by
  have hfree : ¬overrides.any (·.1 == Setter.fromEnvironment.reserved) = true := by
    intro hany
    obtain ⟨⟨name, v⟩, hmem, hname⟩ := List.any_eq_true.mp hany
    obtain rfl : name = Setter.fromEnvironment.reserved := beq_iff_eq.mp hname
    exact h ⟨v, hmem⟩
  unfold settings Setter.admit
  rw [if_neg hfree]
  rfl

theorem settings_of_reserved (h : ∃ v, (Setter.fromEnvironment.reserved, v) ∈ overrides) :
    env.settings overrides = .error (.reservedField .fromEnvironment) := by
  obtain ⟨v, hmem⟩ := h
  unfold settings Setter.admit
  rw [if_pos (List.any_eq_true.mpr ⟨_, hmem, beq_self_eq_true Setter.fromEnvironment.reserved⟩)]
  rfl

/-- What is wrong with a variable shows in the outcome, and can come from nothing else. -/
theorem settings_ne_of_readable (hfree : ¬∃ v, (Setter.fromEnvironment.reserved, v) ∈ overrides)
    (h : env.unreadable? = some e) (h' : env'.unreadable? = none) :
    env.settings overrides ≠ env'.settings overrides := by
  obtain ⟨g, hg⟩ := exists_fields_of_readable h'
  rw [settings_eq hfree, settings_eq hfree, fields_of_unreadable? h, hg]
  intro heq
  have hcreate : Settings.create (overrides.foldl override g) = .error (.config e) := heq.symm
  have hnot := not_concernsVariable_of_create hcreate
  rw [concernsVariable_of_unreadable? h] at hnot
  exact absurd hnot (by decide)

/-- **Overrides mask the variables of their fields**, except that a variable which is read at once
must hold a text that can be read. -/
theorem settings_eq_settings_iff (h : AgreeExcept overrides env env') :
    env.settings overrides = env'.settings overrides
      ↔ (∃ v, (Setter.fromEnvironment.reserved, v) ∈ overrides)
        ∨ env.unreadable? = env'.unreadable? := by
  by_cases hreserved : ∃ v, (Setter.fromEnvironment.reserved, v) ∈ overrides
  · rw [settings_of_reserved hreserved, settings_of_reserved hreserved]
    exact iff_of_true rfl (.inl hreserved)
  rw [or_iff_right hreserved]
  cases hfault : env.unreadable? with
  | none =>
    cases hfault' : env'.unreadable? with
    | none =>
      -- the fields differ only in what the overrides replace
      obtain ⟨f, hf⟩ := exists_fields_of_readable hfault
      obtain ⟨g, hg⟩ := exists_fields_of_readable hfault'
      rw [settings_eq hreserved, settings_eq hreserved, hf, hg]
      refine iff_of_true ?_ rfl
      exact congrArg Settings.create (foldl_override_eq (h.agreeOutside hf hg))
    | some e' =>
      exact iff_of_false (settings_ne_of_readable hreserved hfault' hfault).symm (by nofun)
  | some e =>
    cases hfault' : env'.unreadable? with
    | none => exact iff_of_false (settings_ne_of_readable hreserved hfault hfault') (by nofun)
    | some e' =>
      rw [settings_eq hreserved, settings_eq hreserved, fields_of_unreadable? hfault,
        fields_of_unreadable? hfault']
      constructor
      · intro heq
        exact congrArg some (SettingsError.config.inj (Except.error.inj heq))
      · intro heq
        rw [Option.some.inj heq]

/-- A threshold that cannot be read, and a format that there is not. -/
def unreadThreshold : Environment := [("TW_GROUP_MIN_TOKENS", "many"), ("TW_GROUP_FORMAT", "xml")]

/-- Values for both of these fields. -/
def thresholdAndFormat : List (Text × Json) :=
  [("min_tokens", .int 2), ("indent", .null), ("format", .text "array")]

theorem agreeExcept_unreadThreshold : AgreeExcept thresholdAndFormat unreadThreshold [] := by
  intro name hname
  have hthreshold : name ≠ "TW_GROUP_MIN_TOKENS".toList := by
    rintro rfl
    exact hname ("min_tokens", "TW_GROUP_MIN_TOKENS") (by decide) rfl
      ⟨.int 2, List.mem_cons_self, by nofun⟩
  have hformat : name ≠ "TW_GROUP_FORMAT".toList := by
    rintro rfl
    exact hname ("format", "TW_GROUP_FORMAT") (by decide) rfl
      ⟨.text "array", by simp [thresholdAndFormat], by nofun⟩
  unfold unreadThreshold
  rw [List.lookup_cons, beq_eq_false_iff_ne.mpr hthreshold, List.lookup_cons,
    beq_eq_false_iff_ne.mpr hformat]

theorem settings_ne_unreadThreshold :
    AgreeExcept thresholdAndFormat unreadThreshold [] ∧
    unreadThreshold.settings thresholdAndFormat
      = .error (.config (.variableNotInteger "TW_GROUP_MIN_TOKENS" "many")) ∧
    ∃ s, Environment.settings [] thresholdAndFormat = .ok s :=
  ⟨agreeExcept_unreadThreshold, rfl, _, rfl⟩

theorem settings_eq_settings_iff_unreadThreshold :
    AgreeExcept thresholdAndFormat unreadThreshold [] ∧
    (unreadThreshold.settings thresholdAndFormat = Environment.settings [] thresholdAndFormat
      ↔ (∃ v, (Setter.fromEnvironment.reserved, v) ∈ thresholdAndFormat)
        ∨ unreadThreshold.unreadable? = Environment.unreadable? []) :=
  ⟨agreeExcept_unreadThreshold, settings_eq_settings_iff agreeExcept_unreadThreshold⟩

end Settings

end Environment

end ClassGroups
