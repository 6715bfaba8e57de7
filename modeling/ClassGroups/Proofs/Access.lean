import ClassGroups.Command.Access
import ClassGroups.Proofs.Files
import ClassGroups.Proofs.Names

/-!
# What becomes of an access

Lines are printed up to one with a byte in it for which there is nothing to show
(`printLines_cases`). A file that stands can be opened to be written unless it is locked, and one
that is to be made with a name that is short enough unless its directory is (`refusal?_of_isSome`,
`refusal?_of_fits`). Once it is open it is emptied, whether or not there is a text to write
(`writeFile_of_error`).
-/

namespace ClassGroups.Command

open Files

/-! ### Lines -/

section Lines

variable {showing : Showing} {line : Name} {s : Text}

/-- **What is printed of lines**: all of them if they can be printed, and otherwise those up to one
that cannot. -/
theorem printLines_cases (showing : Showing) (lines : List Name) :
    (∃ texts : List Text, lines.map (Name.shown? showing) = texts.map some ∧
      printLines showing lines = (Text.unlines texts, none)) ∨
    ∃ printed, ∃ line ∈ lines, ¬line.IsShown showing ∧
      printLines showing lines = (printed, some (.notEncoded line)) := by
  induction lines with
  | nil => exact .inl ⟨[], rfl, rfl⟩
  | cons line lines ih =>
    rw [printLines]
    cases hline : line.shown? showing with
    | none => exact .inr ⟨[], line, List.mem_cons_self, Name.shown?_eq_none_iff.mp hline, rfl⟩
    | some s =>
      rcases ih with ⟨texts, htexts, hprint⟩ | ⟨printed, line', hmem, hline', hprint⟩
      · refine .inl ⟨s :: texts, ?_, by rw [hprint]; rfl⟩
        rw [List.map_cons, List.map_cons, hline, htexts]
      · exact .inr ⟨_, line', List.mem_cons_of_mem _ hmem, hline', by rw [hprint]⟩

theorem printLines_singleton (h : line.shown? showing = some s) :
    printLines showing [line] = (Text.unlines [s], none) := by
  unfold printLines
  rw [h]
  rfl

theorem printLines_of_shown?_eq_none (h : line.shown? showing = none) (rest : List Name) :
    printLines showing (line :: rest) = ([], some (.notEncoded line)) := by
  unfold printLines
  rw [h]

end Lines

/-! ### Files -/

section Refusal

variable {t : Tree} {f : Located} {bytes : Text.Bytes}

theorem findFile_eq_ok_some_iff {path : Path} {place : Place} :
    findFile t path = .ok (some place) ↔ t.find? path = some place := by
  unfold findFile
  cases t.find? path with
  | some place' => simp
  | none =>
    dsimp only
    split
    · simp
    · simp

theorem readFile_eq_ok_iff :
    readFile t f = .ok bytes ↔ t.file? f.place = some bytes ∧ t.isUnreadable f.place = false := by
  unfold readFile
  cases t.file? f.place with
  | none => simp
  | some content => cases t.isUnreadable f.place <;> simp

/-- **What cannot be read** is a directory, or a file that is not to be read. -/
theorem readFile_eq_error_iff {fault : Fault} :
    readFile t f = .error fault ↔
      t.file? f.place = none ∧ fault = .isDirectory f.path ∨
      t.isUnreadable f.place = true ∧ fault = .denied f.path := by
  unfold readFile
  cases hfile : t.file? f.place with
  | none => simp [Tree.isUnreadable, hfile, eq_comm]
  | some content => cases t.isUnreadable f.place <;> simp [eq_comm]

theorem readFile_congr {t' : Tree} (hfile : t'.file? f.place = t.file? f.place)
    (hreadable : t'.isUnreadable f.place = t.isUnreadable f.place) :
    readFile t' f = readFile t f := by
  unfold readFile
  rw [hfile, hreadable]

/-- What was written is read from there, unless it cannot be read. -/
theorem readFile_write_self (t : Tree) (f : Located) (content : Text.Bytes) :
    readFile (t.write f.place content) f
      = if t.isUnreadable f.place then .error (.denied f.path) else .ok content := by
  unfold readFile
  rw [Tree.file?_write_self, Tree.isUnreadable_write_self]

/-- **A file that stands** can be opened unless it is locked. -/
theorem refusal?_of_isSome (h : (t.file? f.place).isSome = true) :
    refusal? t f = if t.locks f.place then some (.denied f.path) else none := by
  obtain ⟨content, hcontent⟩ := Option.isSome_iff_exists.mp h
  unfold refusal?
  rw [Tree.isDirectory_of_isSome h, Tree.holds_of_file? hcontent]
  rfl

/-- **A file with a name that is short enough** can be opened or made unless it is locked, or the
directory in which it would be made. -/
theorem refusal?_of_fits (hdir : t.isDirectory f.place = false)
    (hfits : f.place.name.fits = true) :
    refusal? t f = if t.locks f.place then some (.denied f.path) else none := by
  unfold refusal?
  rw [hdir, hfits, Bool.not_true, Bool.and_false]
  rfl

theorem writeFile_of_refusal {fault : Fault} (h : refusal? t f = some fault)
    (content : Except Fault Text) : writeFile t f content = (t, some fault) := by
  unfold writeFile
  rw [h]

theorem writeFile_of_none (h : refusal? t f = none) (s : Text) :
    writeFile t f (.ok s) = (t.write f.place (Text.encode s), none) := by
  unfold writeFile
  rw [h]

/-- Without a text to write the file is empty. -/
theorem writeFile_of_error (h : refusal? t f = none) (fault : Fault) :
    writeFile t f (.error fault) = (t.write f.place [], some fault) := by
  unfold writeFile
  rw [h]

end Refusal

end ClassGroups.Command
