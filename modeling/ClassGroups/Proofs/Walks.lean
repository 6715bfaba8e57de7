import ClassGroups.Proofs.Files
import ClassGroups.Proofs.Names
import Mathlib

/-!
# Walks through a tree, before and after a write

What stands below a place is listed in the order of the names on the way, which is the lexicographic
order of lists of names (`Place.le_iff`); no way comes twice (`Tree.pairwise_below`). So the list
depends only on what stands in the tree. A file that is written into a directory is the only thing
that may be new there: a path that led somewhere still leads there (`Tree.find?_write`), and a walk
that skips the name of the file lists the same (`Tree.filter_below_write`).
-/

namespace ClassGroups

/-! ### The order of names and places -/

section Order

variable {A : Type} [LinearOrder A] {a b : A} {l l' : List A}

theorem nil_le_list : [] ≤ l := not_lt.mp (List.not_lt_nil l)

theorem not_cons_le_nil : ¬a :: l ≤ [] := not_le.mpr (List.nil_lt_cons a l)

theorem cons_le_cons_iff_of_ne (h : a ≠ b) : a :: l ≤ b :: l' ↔ a < b := by
  have hcons : a :: l ≠ b :: l' := fun heq => h (List.cons.inj heq).1
  rw [le_iff_lt_or_eq, or_iff_left hcons, List.cons_lt_cons_iff]
  simp [h]

theorem cons_le_cons_self_iff : a :: l ≤ a :: l' ↔ l ≤ l' := by
  rw [le_iff_lt_or_eq, le_iff_lt_or_eq, List.cons_lt_cons_iff]
  simp

end Order

namespace Files

/-- Signs are ordered by their code points. -/
instance : LinearOrder Sign := .lift' Sign.code Sign.code_injective

theorem Name.le_iff {m n : Name} : Name.le m n = true ↔ m ≤ n := by
  fun_induction Name.le m n with
  | case1 => exact iff_of_true rfl nil_le_list
  | case2 => exact iff_of_false nofun not_cons_le_nil
  | case3 m d n ih => rw [ih, cons_le_cons_self_iff]
  | case4 c m d n hne => exact decide_eq_true_iff.trans (cons_le_cons_iff_of_ne hne).symm

theorem Place.le_iff {p q : Place} : Place.le p q = true ↔ p ≤ q := by
  fun_induction Place.le p q with
  | case1 => exact iff_of_true rfl nil_le_list
  | case2 => exact iff_of_false nofun not_cons_le_nil
  | case3 p b q ih => rw [ih, cons_le_cons_self_iff]
  | case4 a p b q hne => rw [Name.le_iff, cons_le_cons_iff_of_ne hne, lt_iff_le_and_ne,
      and_iff_left hne]

namespace Tree

/-! ### What stands below a place, in order -/

section Below

variable {t : Tree} {here way : Place}

theorem mem_below_iff_holds :
    way ∈ t.below here ↔ way ≠ [] ∧ t.holds (here ++ way) = true := by
  rw [mem_below_iff_append, holds_iff]
  refine and_congr_right fun hway => ?_
  rw [or_iff_right (List.append_ne_nil_of_right_ne_nil here hway)]

/-- **What stands below a place** is listed in the order of the names on the way, once each. -/
theorem pairwise_below (t : Tree) (here : Place) : (t.below here).Pairwise (· < ·) := by
  have hle : (t.below here).Pairwise (· ≤ ·) := by
    unfold below
    refine (List.pairwise_mergeSort ?_ ?_ _).imp fun h => Place.le_iff.mp h
    · intro p q r hpq hqr
      exact Place.le_iff.mpr (le_trans (Place.le_iff.mp hpq) (Place.le_iff.mp hqr))
    · intro p q
      rw [Bool.or_eq_true, Place.le_iff, Place.le_iff]
      exact le_total p q
  exact (hle.and (nodup_below t here)).imp fun h => lt_of_le_of_ne h.1 h.2

/-- A walk that skips what the trees do not share lists the same in both. -/
theorem filter_below_eq {t' : Tree} {keep : Place → Bool}
    (h : ∀ way, way ≠ [] → keep way = true →
      (t'.holds (here ++ way) = true ↔ t.holds (here ++ way) = true)) :
    (t'.below here).filter keep = (t.below here).filter keep := by
  have hsorted (t : Tree) : ((t.below here).filter keep).Pairwise (· < ·) :=
    (pairwise_below t here).sublist List.filter_sublist
  -- two lists in order with the same ways
  refine List.Perm.eq_of_pairwise (fun p q _ _ hpq hqp => absurd hpq hqp.not_gt) (hsorted t')
    (hsorted t) ?_
  rw [List.perm_ext_iff_of_nodup ((hsorted t').imp ne_of_lt) ((hsorted t).imp ne_of_lt)]
  intro way
  rw [List.mem_filter, List.mem_filter, mem_below_iff_holds, mem_below_iff_holds]
  refine and_congr_left fun hkeep => and_congr_right fun hway => h way hway hkeep

end Below

/-! ### After a file is written -/

section Write

variable {t : Tree} {p q here place : Place} {name : Name} {content : Text.Bytes}

/-- In a directory a write adds nothing but the file. -/
theorem holds_write_child_iff (hhere : t.holds here = true) :
    (t.write (here ++ [name]) content).holds q = true ↔ t.holds q = true ∨ q = here ++ [name] := by
  rw [holds_write_iff, List.prefix_concat_iff]
  constructor
  · rintro (h | h | h)
    · exact .inl h
    · exact .inr h
    · -- the directories on the way stand already
      have hholds := holds_of_prefix hhere h
      exact .inl hholds
  · exact Or.imp_right .inl

/-- **A walk that skips the file** lists the same as before the write. -/
theorem filter_below_write (hhere : t.holds here = true) {keep : Place → Bool}
    (hkeep : keep [name] = false) :
    ((t.write (here ++ [name]) content).below here).filter keep = (t.below here).filter keep := by
  apply filter_below_eq
  intro way hway hkept
  rw [holds_write_child_iff hhere, or_iff_left]
  intro heq
  obtain rfl : way = [name] := List.append_cancel_left heq
  exact absurd hkept (by simp [hkeep])

theorem isDirectory_write (hp : t.isDirectory p = false) (hq : t.isDirectory q = true) :
    (t.write p content).isDirectory q = true := by
  have hne : q ≠ p := by
    rintro rfl
    exact absurd hq (by simp [hp])
  rw [isDirectory_iff] at hq ⊢
  refine ⟨holds_write hq.1, ?_⟩
  rw [← Option.not_isSome_iff_eq_none, isSome_file?_write, hq.2]
  exact not_or_intro Bool.false_ne_true hne

/-- **A way that leads to a place** still leads there, as long as no file is put in place of a
directory. -/
theorem walk_write (hp : t.isDirectory p = false) {parts : List Name}
    (h : t.walk here parts = some place) : (t.write p content).walk here parts = some place := by
  fun_induction Tree.walk t here parts with
  | case1 => exact h
  | case2 here rest hdir hroot => exact absurd h nofun
  | case3 here rest hdir hroot ih =>
    rw [Tree.walk, if_pos (isDirectory_write hp hdir), if_pos rfl, if_neg hroot]
    exact ih h
  | case4 here part rest hdir hup hholds ih =>
    rw [Tree.walk, if_pos (isDirectory_write hp hdir), if_neg hup, if_pos (holds_write hholds)]
    exact ih h
  | case5 here part rest hdir hup hholds => exact absurd h nofun
  | case6 here part rest hdir => exact absurd h nofun

theorem find?_write (hp : t.isDirectory p = false) {path : Path} (h : t.find? path = some place) :
    (t.write p content).find? path = some place := by
  unfold find? at h ⊢
  split at h
  · next hanchor => rw [if_pos hanchor, walk_write hp h]
  · exact absurd h nofun

/-- Whatever is listed for a place of a file that was written has the new content. -/
theorem eq_of_mem_files_write {old : Text.Bytes} (h : (q, old) ∈ (t.write p content).files)
    (hlinked : t.linked p q = true) : old = content := by
  cases hp : t.file? p with
  | some _ =>
    rw [write_of_isSome (by rw [hp]; rfl)] at h
    obtain ⟨⟨x, y⟩, -, heq⟩ := List.mem_map.mp h
    dsimp only at heq
    split at heq
    · exact (Prod.mk.inj heq).2.symm
    · next hne => exact absurd hlinked ((Prod.mk.inj heq).1 ▸ hne)
  | none =>
    rw [write_of_none hp] at h
    obtain rfl := eq_of_linked_of_file?_eq_none hp hlinked
    rcases List.mem_append.mp h with h | h
    · -- before the write there was no file
      exact absurd (List.lookup_eq_none_iff.mp hp _ h) (by simp)
    · exact (Prod.mk.inj (List.mem_singleton.mp h)).2

/-- **The same file written twice** leaves the tree as it is after the first time. -/
theorem write_write (t : Tree) (p : Place) (content : Text.Bytes) :
    (t.write p content).write p content = t.write p content := by
  have hfile : ((t.write p content).file? p).isSome = true := by
    rw [file?_write_self]
    rfl
  rw [write_of_isSome hfile]
  -- only the list of files is rebuilt, and each file in it is put back as it stands
  refine congrArg (fun files => { t.write p content with files }) ?_
  refine (List.map_congr_left ?_).trans (List.map_id _)
  rintro ⟨q, old⟩ hmem
  show (if (t.write p content).linked p q = true then (q, content) else (q, old)) = (q, old)
  rw [linked_write]
  split
  · next hlinked => rw [eq_of_mem_files_write hmem hlinked]
  · rfl

end Write

end Tree

end Files

end ClassGroups
