import ClassGroups.Options.Definitions
import ClassGroups.Proofs.Results
import Mathlib.Data.List.Basic
import Mathlib.Data.List.Induction

/-!
# What a file of definitions adds

An empty file of definitions leaves every environment as it is (`withDefinitions_nil`).

What a file adds depends on the variables of the environment. A value is expanded with those that it
mentions (`expand_congr`), and a definition counts if the environment does not have its variable. So
a file that neither defines nor mentions a variable adds the same to an environment without this
variable and to one that has it (`Sets.additions_eq`): if two environments differ in the
variable alone, then so do the environments that the file makes of them, or it is refused for both
(`Sets.withDefinitions`).
-/

namespace ClassGroups

/-- An empty file is one comment. -/
theorem statements_nil : statements [] = [(1, .comment)] := by
  show statementsFrom 1 [] = _
  rw [statementsFrom]
  rfl

namespace Environment

theorem additions_nil (env : Environment) : env.additions [] = [] := by
  unfold additions
  rw [statements_nil]
  rfl

theorem withDefinitions_nil (env : Environment) : env.withDefinitions [] = .ok env := by
  have hallowed : env.allowed [] = [] := ite_self _
  unfold withDefinitions
  rw [hallowed, additions_nil]
  show Except.ok (env ++ []) = _
  rw [List.append_nil]

end Environment

/-! ### Variables that a file concerns -/

/-- **A value mentions a variable** where its name stands in braces behind a dollar sign. -/
def Mentions (name value : Text) : Prop :=
  ∃ rest p, '$' :: rest <:+ value ∧ placeholder? rest = some p ∧ p.name = name

/-- **A file leaves a variable alone** if it neither defines nor mentions it. -/
structure LeavesAlone (name file : Text) : Prop where
  /-- No statement is about the variable. -/
  notDefined : ∀ line value, (line, .definition name value) ∉ statements file
  /-- It stands in no value. -/
  notMentioned : ∀ line other value,
    (line, .definition other (some value)) ∈ statements file → ¬Mentions name value

theorem leavesAlone_nil (name : Text) : LeavesAlone name [] := by
  have hnone : ∀ line other value, (line, .definition other value) ∉ statements [] := by
    rw [statements_nil]
    nofun
  exact ⟨fun line value => hnone line name value,
    fun line other value hmem => absurd hmem (hnone line other (some value))⟩

/-- A value is expanded with what stands for the variables that it mentions. -/
theorem expand_congr {resolve resolve' : Placeholder → Text} {value : Text}
    (h : ∀ p, Mentions p.name value → resolve p = resolve' p) :
    expand resolve value = expand resolve' value := by
  induction value using expand.induct with
  | case1 => rw [expand, expand]
  | case2 c s p hp ih =>
    obtain ⟨rfl, hplaceholder⟩ : c = '$' ∧ placeholder? s = some p := by
      split at hp
      · next hdollar => exact ⟨hdollar, hp⟩
      · cases hp
    have hhere : Mentions p.name ('$' :: s) := ⟨s, p, List.suffix_refl _, hplaceholder, rfl⟩
    -- what is mentioned behind the variable is mentioned in the value
    have hrest : ∀ q, Mentions q.name (s.drop p.length) → resolve q = resolve' q := by
      rintro q ⟨rest, q', hsuffix, hq, hname⟩
      refine h q ⟨rest, q', ?_, hq, hname⟩
      exact (hsuffix.trans (List.drop_suffix _ s)).trans (List.suffix_cons '$' s)
    rw [expand, expand, if_pos rfl, hplaceholder]
    show resolve p ++ expand resolve _ = resolve' p ++ expand resolve' _
    rw [h p hhere, ih hrest]
  | case3 c s hp ih =>
    have hplain : (if c = '$' then placeholder? s else none) = none := hp
    have hrest : ∀ q, Mentions q.name s → resolve q = resolve' q := by
      rintro q ⟨rest, q', hsuffix, hq, hname⟩
      exact h q ⟨rest, q', hsuffix.trans (List.suffix_cons c s), hq, hname⟩
    rw [expand, expand, hplain]
    show c :: expand resolve s = c :: expand resolve' s
    rw [ih hrest]

/-- Definitions are about variables that a statement is about. -/
theorem exists_of_mem_definitionsOf {env : Environment} {l : List Statement}
    {entry : Text × Option Text} (h : entry ∈ definitionsOf env l) :
    ∃ value, .definition entry.1 value ∈ l := by
  -- the last statement is the one that is put in front of the others
  induction l using List.reverseRecOn with
  | nil => cases h
  | append_singleton l statement ih =>
    unfold definitionsOf at h
    rw [List.foldl_append] at h
    have hearlier (hmem : entry ∈ definitionsOf env l) :
        ∃ value, .definition entry.1 value ∈ l ++ [statement] := by
      obtain ⟨value, hvalue⟩ := ih hmem
      exact ⟨value, List.mem_append_left _ hvalue⟩
    cases statement with
    | definition name value =>
      rcases List.mem_cons.mp h with rfl | hmem
      · exact ⟨value, List.mem_append_right l (List.mem_singleton.mpr rfl)⟩
      · exact hearlier hmem
    | comment => exact hearlier h
    | unreadable => exact hearlier h

/-- The variables that are defined are others than one that is left alone. -/
theorem LeavesAlone.ne_of_mem {name file other : Text} (h : LeavesAlone name file)
    {env : Environment}
    (hother : other ∈
      ((definitionsOf env ((statements file).map (·.2))).map (·.1)).reverse.eraseDups) :
    other ≠ name := by
  rw [List.mem_eraseDups, List.mem_reverse] at hother
  obtain ⟨entry, hmem, rfl⟩ := List.mem_map.mp hother
  obtain ⟨value, hstated⟩ := exists_of_mem_definitionsOf hmem
  obtain ⟨⟨line, _⟩, hline, rfl⟩ := List.mem_map.mp hstated
  rintro rfl
  exact h.notDefined line value hline

/-! ### Environments that differ in one variable -/

namespace Environment

/-- **One environment sets a variable** which the other one lacks, and has the same variables
otherwise. -/
structure Sets (name value : Text) (env env' : Environment) : Prop where
  /-- The variable is missing in the one. -/
  lookup_without : env.lookup name = none
  /-- It has the value in the other. -/
  lookup_with : env'.lookup name = some value
  /-- All other variables are the same. -/
  lookup_eq : ∀ other, other ≠ name → env'.lookup other = env.lookup other

theorem sets_cons {env : Environment} {name : Text} (h : env.lookup name = none) (value : Text) :
    Sets name value env ((name, value) :: env) where
  lookup_without := h
  lookup_with := List.lookup_cons_self
  lookup_eq other hne := by rw [List.lookup_cons, beq_eq_false_iff_ne.mpr hne]

section Sets

variable {env env' : Environment} {name value file other fallback : Text}

theorem Sets.getD_without (h : Sets name value env env') : env.getD name fallback = fallback := by
  unfold getD
  rw [h.lookup_without]
  rfl

theorem Sets.getD_with (h : Sets name value env env') : env'.getD name fallback = value := by
  unfold getD
  rw [h.lookup_with]
  rfl

theorem Sets.getD_eq (h : Sets name value env env') (hne : other ≠ name) :
    env'.getD other fallback = env.getD other fallback := by
  unfold getD
  rw [h.lookup_eq other hne]

theorem lookup_additions_of_leavesAlone (env : Environment) (h : LeavesAlone name file) :
    (env.additions file).lookup name = none := by
  rw [List.lookup_eq_none_iff]
  intro entry hentry
  obtain ⟨other, hother, hvalue⟩ := List.mem_filterMap.mp hentry
  obtain ⟨text, -, rfl⟩ := Option.map_eq_some_iff.mp hvalue
  have hne : other ≠ name := h.ne_of_mem (List.mem_filter.mp hother).1
  simpa using hne.symm

/-- A variable that can be set is set as it is. -/
theorem settable_eq_ok {v w : Text × Text} (h : settable v = .ok w) : w = v := by
  unfold settable at h
  split_ifs at h
  exact (Except.ok.inj h).symm

variable (hsets : Sets name value env env')

include hsets

theorem Sets.definitionsOf_eq (h : LeavesAlone name file) :
    definitionsOf env' ((statements file).map (·.2))
      = definitionsOf env ((statements file).map (·.2)) := by
  unfold definitionsOf
  apply List.foldl_ext
  intro known statement hstatement
  obtain ⟨⟨line, _⟩, hline, rfl⟩ := List.mem_map.mp hstatement
  split
  · next other stated heq =>
    obtain rfl : _ = Statement.definition other stated := heq
    cases stated with
    | none => rfl
    | some text =>
      -- the value does not mention the one variable that could make a difference
      have hexpand : expand (valueOf env' known) text = expand (valueOf env known) text := by
        apply expand_congr
        intro p hp
        have hne : p.name ≠ name := by
          rintro rfl
          exact h.notMentioned line other text hline hp
        unfold valueOf
        rw [hsets.lookup_eq p.name hne]
      show (other, some (expand _ text)) :: known = (other, some (expand _ text)) :: known
      rw [hexpand]
  · rfl

/-- **A file that leaves the variable alone** adds the same to both environments. -/
theorem Sets.additions_eq (h : LeavesAlone name file) :
    env'.additions file = env.additions file := by
  unfold additions
  rw [hsets.definitionsOf_eq h]
  dsimp only
  congr 1
  apply List.filter_congr
  intro other hother
  rw [hsets.lookup_eq other (h.ne_of_mem hother)]

theorem Sets.allowed_eq (hname : name ≠ "PYTHON_DOTENV_DISABLED".toList) (file : Text) :
    env'.allowed file = env.allowed file := by
  unfold allowed forbidsDefinitions
  rw [hsets.lookup_eq _ hname.symm]

/-- **What a file makes of the two environments** differs in the variable alone, or is refused for
both. The variable that rules the file out must be another one. -/
theorem Sets.withDefinitions (hname : name ≠ "PYTHON_DOTENV_DISABLED".toList)
    (h : LeavesAlone name (env.allowed file)) :
    (∃ e, env.withDefinitions file = .error e ∧ env'.withDefinitions file = .error e) ∨
      ∃ full full', env.withDefinitions file = .ok full ∧
        env'.withDefinitions file = .ok full' ∧ Sets name value full full' := by
  unfold Environment.withDefinitions
  rw [hsets.allowed_eq hname, hsets.additions_eq h]
  have hadditions := lookup_additions_of_leavesAlone env h
  cases hadded : (env.additions (env.allowed file)).mapM settable with
  | error e => exact .inl ⟨e, rfl, rfl⟩
  | ok added =>
    -- what can be set is what the file adds
    obtain rfl : added = env.additions (env.allowed file) := by
      rw [← List.map_id added]
      exact map_eq_of_mapM_eq_ok (r := id) (fun v w => settable_eq_ok) hadded
    refine .inr ⟨_, _, rfl, rfl, ?_, ?_, ?_⟩
    · rw [List.lookup_append, hsets.lookup_without, hadditions]
      rfl
    · rw [List.lookup_append, hsets.lookup_with]
      rfl
    · intro other hother
      rw [List.lookup_append, List.lookup_append, hsets.lookup_eq other hother]

end Sets

end Environment

end ClassGroups
