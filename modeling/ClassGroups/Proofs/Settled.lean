import ClassGroups.Formatting
import ClassGroups.Proofs.Layout

/-!
# Formatted class lists are settled

Formatting is meant to be safe to repeat, also under options that differ from the first ones. A text
is `Settled` when no admissible options change it. Two facts meet here: every rendering of at least
one group spans lines, and the gate keeps every text that does. So whatever a formatting writes is
settled (`settled_of_changed`), and a chain of formattings under options of any kind changes its
text at most once (`formatChain_changes_at_most_once`).
-/

namespace ClassGroups

/-- **A settled text** is changed by no admissible options. -/
def Settled (s : Text) : Prop := ∀ o : Options, (format o s).changed = false

/-- What becomes of a text under options one after the other, each of which formats what the one
before it has left. -/
def formatChain : List Options → Text → List Formatted
  | [], _ => []
  | o :: rest, s => format o s :: formatChain rest (format o s).text

/-- The texts that go into the steps of a chain, with the text that comes out of the last step. -/
def chainTexts (os : List Options) (s : Text) : List Text := s :: (formatChain os s).map (·.text)

/-! ### What the gate lets through -/

section Gate

variable {threshold : Nat} {s : Text}

theorem newline_notMem_of_gate_eq_none (h : gate threshold s = none) : '\n' ∉ s := by
  intro hs
  unfold gate at h
  rw [if_pos hs] at h
  split at h <;> exact absurd h (by simp)

theorem two_le_length_of_gate_eq_none (h : gate threshold s = none) : 2 ≤ (group s).length := by
  unfold gate at h
  split at h
  · exact absurd h (by simp)
  · split at h
    · exact absurd h (by simp)
    · split at h
      · exact absurd h (by simp)
      · next hlen => exact Nat.lt_of_not_le hlen

end Gate

/-! ### One formatting -/

section Format

variable {o : Options} {s : Text}

theorem format_of_gate_eq_none (h : gate o.minTokens s = none) :
    format o s = .regrouped (group s) (render o.toStyle (group s)) := by
  rw [format, h]

theorem changed_iff : (format o s).changed = true ↔ gate o.minTokens s = none := by
  unfold format
  split
  · next r hr => simp [hr, Formatted.changed]
  · next hr => simp [hr, Formatted.changed]

/-- A text that is not changed comes back as it is. -/
theorem text_of_not_changed (h : (format o s).changed = false) : (format o s).text = s := by
  unfold format at h ⊢
  split at h
  · rfl
  · exact absurd h (by simp [Formatted.changed])

/-- A text over several lines is kept: either it is short, or the newline keeps it. -/
theorem settled_of_newline_mem (h : '\n' ∈ s) : Settled s := by
  intro o
  rw [← Bool.not_eq_true, changed_iff]
  exact fun hg => newline_notMem_of_gate_eq_none hg h

/-- **What a formatting writes is settled**, for it spans lines. -/
theorem settled_of_changed (h : (format o s).changed = true) : Settled (format o s).text := by
  have hgate := changed_iff.mp h
  -- the gate lets nothing through that has less than two groups
  have hne : group s ≠ [] := by
    intro he
    have h2 := two_le_length_of_gate_eq_none hgate
    rw [he] at h2
    exact absurd h2 (by decide)
  rw [format_of_gate_eq_none hgate]
  exact settled_of_newline_mem (newline_mem_render _ hne)

end Format

/-! ### A chain of formattings -/

/-- From a settled text on, a chain changes nothing and always leaves this text. -/
theorem Settled.formatChain {s : Text} (h : Settled s) (os : List Options) :
    ∀ r ∈ ClassGroups.formatChain os s, r.changed = false ∧ r.text = s := by
  induction os with
  | nil => simp [ClassGroups.formatChain]
  | cons o rest ih =>
    have htext := text_of_not_changed (h o)
    intro r hr
    rw [ClassGroups.formatChain, htext, List.mem_cons] at hr
    rcases hr with rfl | hr
    · exact ⟨h o, htext⟩
    · exact ih r hr

theorem countP_changed_formatChain_le_one (os : List Options) (s : Text) :
    (formatChain os s).countP (·.changed) ≤ 1 := by
  induction os generalizing s with
  | nil => exact Nat.zero_le 1
  | cons o rest ih =>
    rw [formatChain, List.countP_cons]
    by_cases hc : (format o s).changed = true
    · -- the first step changes the text, so what it leaves is settled
      have hrest : (formatChain rest (format o s).text).countP (·.changed) = 0 :=
        List.countP_eq_zero.mpr fun r hr => by
          simp [((settled_of_changed hc).formatChain rest r hr).1]
      exact Nat.le_of_eq (by rw [hrest, if_pos hc])
    · -- nothing is counted for the first step, and the rest counts for itself
      rw [if_neg hc]
      exact ih _

/-- **Every step without a change** returns what it was given. -/
theorem text_eq_of_not_changed_formatChain {os : List Options} {s : Text} {i : Nat}
    {r : Formatted} (hr : (formatChain os s)[i]? = some r) (hc : r.changed = false) :
    (chainTexts os s)[i]? = some r.text := by
  induction os generalizing s i with
  | nil => exact absurd hr (by simp [formatChain])
  | cons o rest ih =>
    rw [formatChain] at hr
    cases i with
    | zero =>
      rw [List.getElem?_cons_zero, Option.some.injEq] at hr
      subst hr
      rw [chainTexts, List.getElem?_cons_zero, text_of_not_changed hc]
    | succ i =>
      rw [List.getElem?_cons_succ] at hr
      exact ih hr

/-- **After a change** the text stays the same. -/
theorem text_eq_of_changed_formatChain {os : List Options} {s : Text} {i j : Nat}
    {r r' : Formatted} (hr : (formatChain os s)[i]? = some r) (hc : r.changed = true)
    (hij : i ≤ j) (hr' : (formatChain os s)[j]? = some r') : r'.text = r.text := by
  induction os generalizing s i j with
  | nil => exact absurd hr (by simp [formatChain])
  | cons o rest ih =>
    rw [formatChain] at hr hr'
    cases j with
    | zero =>
      -- both are the first step
      obtain rfl : i = 0 := Nat.le_zero.mp hij
      rw [List.getElem?_cons_zero] at hr hr'
      rw [Option.some.inj (hr'.symm.trans hr)]
    | succ j =>
      rw [List.getElem?_cons_succ] at hr'
      cases i with
      | zero =>
        rw [List.getElem?_cons_zero, Option.some.injEq] at hr
        subst hr
        -- the change is the first step, and the later one starts from what it leaves
        exact ((settled_of_changed hc).formatChain rest r' (List.mem_of_getElem? hr')).2
      | succ i =>
        rw [List.getElem?_cons_succ] at hr
        exact ih hr (Nat.le_of_succ_le_succ hij) hr'

/-- **A chain of formattings changes its text at most once.** A step that changes nothing returns
its input, and after the step that does, the text stays the same to the end. -/
theorem formatChain_changes_at_most_once (os : List Options) (s : Text) :
    (formatChain os s).countP (·.changed) ≤ 1 ∧
    (∀ (i : Nat) (r : Formatted), (formatChain os s)[i]? = some r → r.changed = false →
      (chainTexts os s)[i]? = some r.text) ∧
    (∀ (i j : Nat) (r r' : Formatted), (formatChain os s)[i]? = some r → r.changed = true →
      i ≤ j → (formatChain os s)[j]? = some r' → r'.text = r.text) :=
  ⟨countP_changed_formatChain_le_one os s, fun _ _ => text_eq_of_not_changed_formatChain,
    fun _ _ _ _ => text_eq_of_changed_formatChain⟩

end ClassGroups
