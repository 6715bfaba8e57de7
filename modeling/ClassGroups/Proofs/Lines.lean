import ClassGroups.Proofs.Layout
import Mathlib.Algebra.GroupWithZero.Nat

/-!
# The lines of a text

The lines of a text are its pieces between newlines, so none of them holds one. `Text.unlines` goes
back: it puts a newline behind each of them, which is one more than there was (`unlines_lines`).
A text that is put together from lines and what follows them has these lines first
(`lines_unlines_append`), and as many newlines and characters as they say
(`occurrences_unlines`, `length_unlines`).
-/

namespace ClassGroups

/-! ### Pieces -/

/-- The pieces into which a text is split consist of its characters and hold no separator. -/
theorem forall_of_mem_splitOnP {p : Char → Bool} {s piece : Text} (h : piece ∈ s.splitOnP p) :
    ∀ c ∈ piece, c ∈ s ∧ p c = false := by
  induction s generalizing piece with
  | nil =>
    obtain rfl : piece = [] := by simpa using h
    exact fun c hc => absurd hc List.not_mem_nil
  | cons d s ih =>
    rw [List.splitOnP_cons_eq_if_modifyHead] at h
    -- a character goes to the front of the first piece unless it is a separator
    obtain ⟨first, rest, hs⟩ := List.exists_cons_of_ne_nil (List.splitOnP_ne_nil p s)
    rw [hs] at h ih
    have hlift {piece : Text} (hmem : piece ∈ first :: rest) {c : Char} (hc : c ∈ piece) :
        c ∈ d :: s ∧ p c = false :=
      (ih hmem c hc).imp_left (List.mem_cons_of_mem d)
    split at h
    · rcases List.mem_cons.mp h with rfl | h
      · exact fun c hc => absurd hc List.not_mem_nil
      · exact fun c => hlift h
    · next hd =>
      rw [List.modifyHead_cons, List.mem_cons] at h
      rcases h with rfl | h
      · intro c hc
        rcases List.mem_cons.mp hc with rfl | hc
        · exact ⟨List.mem_cons_self, by simpa using hd⟩
        · exact hlift List.mem_cons_self hc
      · exact fun c => hlift (List.mem_cons_of_mem _ h)

/-! ### Lines and newlines -/

theorem lines_ne_nil (s : Text) : Text.lines s ≠ [] := List.splitOnP_ne_nil _ s

theorem newline_notMem_of_mem_lines {s line : Text} (h : line ∈ Text.lines s) : '\n' ∉ line := by
  intro hmem
  have hpiece := forall_of_mem_splitOnP (p := (· == '\n')) h '\n' hmem
  exact absurd hpiece.2 (by decide)

theorem unlines_append (l l' : List Text) :
    Text.unlines (l ++ l') = Text.unlines l ++ Text.unlines l' := by
  unfold Text.unlines
  rw [List.map_append, List.flatten_append]

/-- Newlines between lines, and one more behind the last line. -/
theorem unlines_of_ne_nil {l : List Text} (h : l ≠ []) :
    Text.unlines l = Text.intercalate Text.newline l ++ Text.newline := by
  obtain ⟨first, rest, rfl⟩ := List.exists_cons_of_ne_nil h
  have hrest : Text.newline ++ Text.unlines rest
      = rest.flatMap (Text.newline ++ ·) ++ Text.newline := by
    clear h
    induction rest with
    | nil => rfl
    | cons line rest ih =>
      calc Text.newline ++ Text.unlines (line :: rest)
          = Text.newline ++ line ++ (Text.newline ++ Text.unlines rest) := by
            simp [Text.unlines]
        _ = (line :: rest).flatMap (Text.newline ++ ·) ++ Text.newline := by
            rw [ih, List.flatMap_cons, ← List.append_assoc]
  calc Text.unlines (first :: rest)
      = first ++ (Text.newline ++ Text.unlines rest) := by simp [Text.unlines]
    _ = Text.intercalate Text.newline (first :: rest) ++ Text.newline := by
        rw [hrest, Text.intercalate_cons, List.append_assoc]

/-- What is split into lines is put together again. -/
theorem unlines_lines (s : Text) : Text.unlines (Text.lines s) = s ++ Text.newline := by
  rw [unlines_of_ne_nil (lines_ne_nil s)]
  exact congrArg (· ++ Text.newline) (List.intercalate_splitOn '\n')

section Unlines

variable {s t first : Text} {l rest : List Text}

/-- A text without newlines goes to the front of the first line. -/
theorem lines_append_of_notMem (hs : '\n' ∉ s) (ht : Text.lines t = first :: rest) :
    Text.lines (s ++ t) = (s ++ first) :: rest := by
  induction s with
  | nil => exact ht
  | cons c s ih =>
    rw [List.mem_cons, not_or] at hs
    obtain ⟨hc, hrest⟩ := hs
    have hsep : ¬(c == '\n') = true := by simpa using Ne.symm hc
    have hcons : Text.lines (c :: (s ++ t)) = (Text.lines (s ++ t)).modifyHead (c :: ·) := by
      unfold Text.lines List.splitOn
      rw [List.splitOnP_cons_eq_if_modifyHead, if_neg hsep]
    rw [List.cons_append, hcons, ih hrest]
    rfl

/-- Lines with newlines behind them are the first lines of a text that starts with them. -/
theorem lines_unlines_append (hl : ∀ line ∈ l, '\n' ∉ line) (s : Text) :
    Text.lines (Text.unlines l ++ s) = l ++ Text.lines s := by
  induction l with
  | nil => rfl
  | cons line l ih =>
    obtain ⟨hline, hrest⟩ := List.forall_mem_cons.mp hl
    have hempty : Text.lines ('\n' :: (Text.unlines l ++ s))
        = [] :: Text.lines (Text.unlines l ++ s) := by
      unfold Text.lines List.splitOn
      rw [List.splitOnP_cons_eq_if_modifyHead, if_pos (by simp)]
    have hcons : Text.unlines (line :: l) ++ s = line ++ '\n' :: (Text.unlines l ++ s) := by
      simp [Text.unlines, Text.newline]
    rw [hcons, lines_append_of_notMem hline hempty, List.append_nil, ih hrest, List.cons_append]

theorem length_unlines (l : List Text) :
    (Text.unlines l).length = (l.map (·.length + 1)).sum := by
  unfold Text.unlines
  rw [List.length_flatten, List.map_map]
  congr 2
  funext line
  exact List.length_append

theorem occurrences_unlines (hl : ∀ line ∈ l, '\n' ∉ line) :
    Text.occurrences '\n' (Text.unlines l) = l.length := by
  induction l with
  | nil => rfl
  | cons line l ih =>
    obtain ⟨hline, hrest⟩ := List.forall_mem_cons.mp hl
    have hone : Text.occurrences '\n' (line ++ Text.newline) = 1 := by
      unfold Text.occurrences
      rw [List.count_append, List.count_eq_zero_of_not_mem hline]
      rfl
    calc Text.occurrences '\n' (Text.unlines (line :: l))
        = Text.occurrences '\n' (line ++ Text.newline) + Text.occurrences '\n' (Text.unlines l) :=
          List.count_append
      _ = (line :: l).length := by rw [hone, ih hrest, List.length_cons, Nat.add_comm]

/-- Before the end of the last line there is a newline at once. -/
theorem takeWhile_reverse_unlines (l : List Text) :
    (Text.unlines l).reverse.takeWhile (· != '\n') = [] := by
  rcases List.eq_nil_or_concat l with rfl | ⟨l, line, rfl⟩
  · rfl
  · simp [Text.unlines, Text.newline]

end Unlines

end ClassGroups
