import ClassGroups.Formatting
import ClassGroups.Proofs.Results

/-!
# Settings that pass the check

Each field of settings may hold anything. `Settings.Describes` says which values make up given
options, and the check accepts exactly the settings that describe options
(`Settings.check_eq_ok_iff`). So the checked settings need not be opened again: what the gate and
the renderer do with them is what they do with the options (`Describes.gate_eq`,
`Describes.render_eq`), and with an indentation that the options accept they pass the check again
(`Describes.revise_baseIndent`).
-/

namespace ClassGroups

namespace Settings

/-- **Settings describe options** when each field holds the value of the options. -/
structure Describes (s : Settings) (o : Options) : Prop where
  format : s.format = .chosen o.format
  minTokens : s.minTokens = .int o.minTokens
  /-- Any value counts as true or false. -/
  comments : s.includeComments.truthy = o.comments
  indent : s.indent = .text o.indent
  baseIndent : s.baseIndent = .text o.baseIndent
  callee : s.callee = .text o.callee

/-! ### The check -/

section Fields

variable {s : Settings} {f : OutputFormat} {n : Int} {indent baseIndent callee : Text}

theorem format?_eq_ok_iff : s.format? = .ok f ↔ s.format = .chosen f := by
  unfold format?
  cases s.format <;> simp

theorem threshold?_eq_ok_iff : s.threshold? = .ok n ↔ s.minTokens = .int n := by
  unfold threshold?
  cases s.minTokens <;> simp

theorem indents?_eq_ok_iff :
    s.indents? = .ok (indent, baseIndent)
      ↔ s.indent = .text indent ∧ s.baseIndent = .text baseIndent := by
  unfold indents?
  cases s.indent <;> cases s.baseIndent <;> simp

theorem callee?_eq_ok_iff : s.callee? = .ok callee ↔ s.callee = .text callee := by
  unfold callee?
  cases s.callee <;> simp

end Fields

section Check

variable {s : Settings} {o : Options}

theorem Describes.check_eq_ok (h : s.Describes o) : s.check = .ok o := by
  have hformat : s.format? = .ok o.format := format?_eq_ok_iff.mpr h.format
  have hthreshold : s.threshold? = .ok o.minTokens := threshold?_eq_ok_iff.mpr h.minTokens
  have hindents : s.indents? = .ok (o.indent, o.baseIndent) :=
    indents?_eq_ok_iff.mpr ⟨h.indent, h.baseIndent⟩
  have hcallee : s.callee? = .ok o.callee := callee?_eq_ok_iff.mpr h.callee
  -- all that the check asks for is what the options prove of themselves
  have hblank : Text.Blank o.indent ∧ Text.Blank o.baseIndent :=
    ⟨o.indent_blank, o.baseIndent_blank⟩
  simp only [check, hformat, hthreshold, hindents, hcallee, bind, Except.bind, Int.toNat_natCast,
    o.minTokens_pos, o.callee_identifier, dite_true, h.comments]
  rw [dif_pos hblank]
  rfl

theorem describes_of_check_eq_ok (h : s.check = .ok o) : s.Describes o := by
  unfold check at h
  obtain ⟨format, hformat, h⟩ := exists_of_bind_eq_ok h
  obtain ⟨threshold, hthreshold, h⟩ := exists_of_bind_eq_ok h
  split at h
  · next hpos =>
    obtain ⟨⟨indent, baseIndent⟩, hindents, h⟩ := exists_of_bind_eq_ok h
    dsimp only at h
    split at h
    · obtain ⟨callee, hcallee, h⟩ := exists_of_bind_eq_ok h
      split at h
      · cases h
        -- a threshold that is positive is the number that it is cut to
        have hnumber : (threshold.toNat : Int) = threshold := by omega
        obtain ⟨hindent, hbaseIndent⟩ := indents?_eq_ok_iff.mp hindents
        exact ⟨format?_eq_ok_iff.mp hformat,
          (threshold?_eq_ok_iff.mp hthreshold).trans (congrArg Json.int hnumber.symm),
          rfl, hindent, hbaseIndent, callee?_eq_ok_iff.mp hcallee⟩
      · cases h
    · cases h
  · cases h

/-- **The check** accepts the settings that describe options, and returns these. -/
theorem check_eq_ok_iff : s.check = .ok o ↔ s.Describes o :=
  ⟨describes_of_check_eq_ok, Describes.check_eq_ok⟩

end Check

/-! ### What is done with the settings -/

section Use

variable {s : Settings} {o : Options}

/-- The gate takes the threshold of the options. -/
theorem Describes.gate_eq (h : s.Describes o) (text : Text) :
    s.gate text = .ok (ClassGroups.gate o.minTokens text) := by
  have hrequired : s.requiredTokens = .ok (some o.minTokens) := by
    rw [requiredTokens, h.minTokens]
    rfl
  rw [Settings.gate, hrequired]
  rfl

/-- A grouping is rendered in the style of the options. -/
theorem Describes.render_eq (h : s.Describes o) (g : Grouping) :
    s.render g = .ok (ClassGroups.render o.toStyle g) := by
  have hformat : s.renderFormat? = .ok o.format := by rw [renderFormat?, h.format]
  have hindents : s.lineIndents g = .ok (o.indent, o.baseIndent) := by
    rw [lineIndents, h.indent, h.baseIndent]
  have hjson : s.renderJson g = .ok (afterNewlines o.baseIndent (g.toJson.pretty o.indent)) := by
    rw [renderJson, h.indent, h.baseIndent]
    rfl
  have hcallee : s.callee.plain = o.callee := by
    rw [h.callee]
    rfl
  have hstyle {f : OutputFormat} (hf : o.format = f) :
      (⟨f, s.includeComments.truthy, o.indent, o.baseIndent, s.callee.plain⟩ : Style)
        = o.toStyle := by
    rw [h.comments, hcallee, ← hf]
  rw [Settings.render, hformat]
  -- only a mapping is rendered without a style
  cases hof : o.format with
  | mapping =>
    rw [ClassGroups.render, hof]
    simp only [hjson, bind, Except.bind, liftM, monadLift, MonadLift.monadLift]
  | clsx | array | template =>
    simp only [hindents, hstyle hof, bind, Except.bind, pure, Except.pure, liftM, monadLift,
      MonadLift.monadLift]

/-- **An indentation that options accept** is accepted once more by settings that describe them:
with this indentation put in, the settings describe the options for it. -/
theorem Describes.revise_baseIndent (h : s.Describes o) {base : Text} {o' : Options}
    (hrebase : o.rebase base = .ok o') :
    ∃ moved, s.revise [("base_indent", .text base)] = .ok moved ∧ moved.Describes o' := by
  rw [Options.rebase] at hrebase
  split at hrebase
  · next hblank =>
    cases hrebase
    have hdescribes : Describes { s with baseIndent := .text base }
        { o with baseIndent := base, baseIndent_blank := hblank } := { h with baseIndent := rfl }
    refine ⟨{ s with baseIndent := .text base }, ?_, hdescribes⟩
    -- no other field is named, so the changed settings only have to pass the check
    calc s.revise [("base_indent", .text base)]
        = (liftM (Settings.check { s with baseIndent := .text base }) :
            Except SettingsError Options).bind fun _ =>
              .ok { s with baseIndent := .text base } := rfl
      _ = .ok { s with baseIndent := .text base } := by
        rw [hdescribes.check_eq_ok]
        rfl
  · cases hrebase

end Use

end Settings

end ClassGroups
