import ClassGroups.Files.Tree
import Mathlib.Data.List.Nodup

/-!
# What a write does to a tree

A file that is written has the new content at all places that lead to it (`file?_write_of_linked`),
every other file keeps its own (`file?_write_of_not_linked`), and nothing that stands in the tree
goes away (`holds_write`). Which places lead to one file does not change (`linked_write`): a new
file has a place of its own. What stays the same through any number of writes is summed up in
`Grows`.

The paths that are found below a root lead to different places of the tree (`nodup_locatedBelow`),
so a run over them never comes to a place twice. It may come to a file twice.
-/

namespace ClassGroups.Files

/-! ### Places -/

theorem Place.mem_stages_iff {p q : Place} : p ∈ q.stages ↔ p ≠ [] ∧ p <+: q := by
  induction q generalizing p with
  | nil =>
    rw [Place.stages, List.prefix_nil]
    exact ⟨fun h => absurd h List.not_mem_nil, fun h => absurd h.2 h.1⟩
  | cons part q ih =>
    rw [Place.stages, List.mem_cons, List.mem_map]
    constructor
    · rintro (rfl | ⟨p, hp, rfl⟩)
      · exact ⟨List.cons_ne_nil part [], List.prefix_append [part] q⟩
      · exact ⟨List.cons_ne_nil part p, List.cons_prefix_cons.mpr ⟨rfl, (ih.mp hp).2⟩⟩
    · rintro ⟨hp, hway⟩
      obtain ⟨first, rest, rfl⟩ := List.exists_cons_of_ne_nil hp
      obtain ⟨rfl, hrest⟩ := List.cons_prefix_cons.mp hway
      -- the first stage is that of the part alone
      by_cases hnil : rest = []
      · exact .inl (hnil ▸ rfl)
      · exact .inr ⟨rest, ih.mpr ⟨hnil, hrest⟩, rfl⟩

theorem Place.mem_stages {p : Place} (h : p ≠ []) : p ∈ p.stages :=
  Place.mem_stages_iff.mpr ⟨h, List.prefix_rfl⟩

/-- A place below another one is reached by going on from there. -/
theorem Place.eq_append_of_below? {here place way : Place} (h : here.below? place = some way) :
    place = here ++ way := by
  fun_induction Place.below? here place with
  | case1 => exact absurd h (by simp)
  | case2 place => exact Option.some.inj h
  | case3 => exact absurd h (by simp)
  | case4 here a place ih => rw [ih h, List.cons_append]
  | case5 => exact absurd h (by simp)

theorem Place.below?_append {way : Place} (h : way ≠ []) (here : Place) :
    here.below? (here ++ way) = some way := by
  induction here with
  | nil =>
    obtain ⟨part, rest, rfl⟩ := List.exists_cons_of_ne_nil h
    rfl
  | cons a here ih => rw [List.cons_append, Place.below?, if_pos rfl, ih]

theorem Place.ne_nil_of_below? {here place way : Place} (h : here.below? place = some way) :
    way ≠ [] := by
  fun_induction Place.below? here place with
  | case1 => exact absurd h (by simp)
  | case2 place hne => exact Option.some.inj h ▸ hne
  | case3 => exact absurd h (by simp)
  | case4 here a place ih => exact ih h
  | case5 => exact absurd h (by simp)

namespace Tree

section Holds

variable {t : Tree} {p : Place} {content : Text.Bytes}

theorem mem_places_iff :
    p ∈ t.places ↔ ∃ q ∈ t.files.map (·.1) ++ t.directories, p ∈ q.stages := by
  unfold places
  rw [List.mem_eraseDups, List.mem_flatMap]

theorem holds_iff : t.holds p = true ↔ p = [] ∨ p ∈ t.places := by
  unfold holds
  rw [Bool.or_eq_true, List.isEmpty_iff, List.contains_iff_mem]

theorem mem_files_of_file? (h : t.file? p = some content) : (p, content) ∈ t.files := by
  obtain ⟨before, after, hfiles, -⟩ := List.lookup_eq_some_iff.mp h
  rw [hfiles]
  exact List.mem_append_right _ List.mem_cons_self

theorem holds_of_file? (h : t.file? p = some content) : t.holds p = true := by
  rw [holds_iff]
  by_cases hp : p = []
  · exact .inl hp
  · have hmem : p ∈ t.files.map (·.1) := List.mem_map_of_mem (mem_files_of_file? h)
    exact .inr (mem_places_iff.mpr ⟨p, List.mem_append_left _ hmem, Place.mem_stages hp⟩)

theorem isDirectory_iff : t.isDirectory p = true ↔ t.holds p = true ∧ t.file? p = none := by
  unfold isDirectory
  rw [Bool.and_eq_true, Option.isNone_iff_eq_none]

theorem isDirectory_of_not_holds (h : t.holds p = false) : t.isDirectory p = false := by
  unfold isDirectory
  rw [h, Bool.false_and]

theorem isDirectory_of_isSome (h : (t.file? p).isSome = true) : t.isDirectory p = false := by
  unfold isDirectory
  rw [← Option.not_isSome, h, Bool.not_true, Bool.and_false]

theorem isSome_file?_of_holds (h : t.holds p = true) (hp : t.isDirectory p = false) :
    (t.file? p).isSome = true := by
  unfold isDirectory at hp
  rw [h, Bool.true_and, ← Option.not_isSome, Bool.not_eq_false'] at hp
  exact hp

theorem not_holds_of_isDirectory_eq_false (hfile : t.file? p = none)
    (h : t.isDirectory p = false) : t.holds p = false := by
  unfold isDirectory at h
  rwa [hfile, Option.isNone_none, Bool.and_true] at h

/-- The directories on the way to something that stands in a tree stand in it as well. -/
theorem holds_of_prefix {q : Place} (h : t.holds p = true) (hq : q <+: p) : t.holds q = true := by
  rw [holds_iff] at h ⊢
  by_cases hnil : q = []
  · exact .inl hnil
  · obtain rfl | hp := h
    · exact absurd (List.prefix_nil.mp hq) hnil
    · obtain ⟨r, hr, hstage⟩ := mem_places_iff.mp hp
      have hway := (Place.mem_stages_iff.mp hstage).2
      exact .inr (mem_places_iff.mpr ⟨r, hr, Place.mem_stages_iff.mpr ⟨hnil, hq.trans hway⟩⟩)

end Holds

/-! ### Places of one file -/

section Linked

variable {t : Tree} {p q : Place}

theorem linked_iff :
    t.linked p q = true ↔ p = q ∨ ((t.file? p).isSome = true ∧ (t.file? q).isSome = true) ∧
      ∃ group ∈ t.links, p ∈ group ∧ q ∈ group := by
  unfold linked
  rw [Bool.or_eq_true, decide_eq_true_eq, Bool.and_eq_true, Bool.and_eq_true, List.any_eq_true]
  simp only [Bool.and_eq_true, List.contains_iff_mem]

@[simp] theorem linked_self (t : Tree) (p : Place) : t.linked p p = true :=
  linked_iff.mpr (.inl rfl)

theorem linked_comm (t : Tree) (p q : Place) : t.linked p q = t.linked q p := by
  rw [Bool.eq_iff_iff, linked_iff, linked_iff]
  refine or_congr eq_comm (and_congr and_comm ?_)
  exact exists_congr fun group => and_congr_right fun _ => and_comm

/-- Where there is no file, no other place leads to the same one. -/
theorem eq_of_linked_of_file?_eq_none (hp : t.file? p = none) (h : t.linked p q = true) :
    p = q := by
  refine (linked_iff.mp h).resolve_right fun h => ?_
  rw [hp] at h
  exact absurd h.1.1 Bool.false_ne_true

theorem isSome_file?_of_linked (h : t.linked p q = true) :
    (t.file? p).isSome = (t.file? q).isSome := by
  rcases linked_iff.mp h with rfl | ⟨⟨hp, hq⟩, -⟩
  · rfl
  · rw [hp, hq]

end Linked

/-! ### Writing -/

section Write

variable {t : Tree} {p q x y : Place} {content : Text.Bytes}

/-- The list of files with the content of some of them replaced. -/
theorem lookup_replace (files : List (Place × Text.Bytes)) (replaced : Place → Bool)
    (content : Text.Bytes) (q : Place) :
    (files.map fun (x, old) => if replaced x then (x, content) else (x, old)).lookup q
      = (files.lookup q).map fun old => if replaced q then content else old := by
  induction files with
  | nil => rfl
  | cons entry files ih =>
    obtain ⟨x, old⟩ := entry
    have hhead : (if replaced x then (x, content) else (x, old))
        = (x, if replaced x then content else old) := by
      split <;> rfl
    rw [List.map_cons]
    show List.lookup q ((if replaced x then (x, content) else (x, old)) :: _) = _
    rw [hhead, List.lookup_cons, List.lookup_cons, ih]
    by_cases hqx : q = x
    · subst hqx
      rw [beq_self_eq_true]
      rfl
    · rw [beq_eq_false_iff_ne.mpr hqx]

theorem write_of_isSome (h : (t.file? p).isSome = true) (content : Text.Bytes) :
    t.write p content
      = { t with
          files := t.files.map fun (q, old) =>
            if t.linked p q then (q, content) else (q, old) } := if_pos h

theorem write_of_none (h : t.file? p = none) (content : Text.Bytes) :
    t.write p content
      = { t with
          files := t.files ++ [(p, content)]
          links := t.links.map fun group => group.filter (· != p)
          locked := t.locked.filter (· != p)
          unreadable := t.unreadable.filter (· != p) } :=
  if_neg (by simp [h])

/-- **A write is seen** at all places that lead to the file. -/
theorem file?_write_of_linked (h : t.linked p q = true) :
    (t.write p content).file? q = some content := by
  cases hp : t.file? p with
  | some old =>
    -- there is a file at `q` as well, whose entry is replaced
    have hsome : (t.file? p).isSome = true := by rw [hp]; rfl
    obtain ⟨old', hq⟩ := Option.isSome_iff_exists.mp ((isSome_file?_of_linked h).symm.trans hsome)
    rw [write_of_isSome hsome]
    show List.lookup q (t.files.map _) = _
    rw [lookup_replace, show t.files.lookup q = some old' from hq, Option.map_some, if_pos h]
  | none =>
    -- an entry is added behind the others, none of which is for `p`
    obtain rfl := eq_of_linked_of_file?_eq_none hp h
    rw [write_of_none hp]
    show List.lookup p (t.files ++ [(p, content)]) = _
    rw [List.lookup_append, show t.files.lookup p = none from hp, Option.none_or]
    exact List.lookup_cons_self

theorem file?_write_self (t : Tree) (p : Place) (content : Text.Bytes) :
    (t.write p content).file? p = some content := file?_write_of_linked (linked_self t p)

/-- **A write of another file** leaves a file alone. -/
theorem file?_write_of_not_linked (h : t.linked p q = false) :
    (t.write p content).file? q = t.file? q := by
  cases hp : t.file? p with
  | some old =>
    rw [write_of_isSome (by rw [hp]; rfl)]
    show List.lookup q (t.files.map _) = t.files.lookup q
    rw [lookup_replace, h]
    cases t.files.lookup q <;> rfl
  | none =>
    have hne : q ≠ p := by
      rintro rfl
      exact absurd h (by simp)
    have hsingle : [(p, content)].lookup q = none := by
      rw [List.lookup_eq_none_iff]
      intro entry hentry
      obtain rfl := List.mem_singleton.mp hentry
      simpa using hne
    rw [write_of_none hp]
    show List.lookup q (t.files ++ [(p, content)]) = t.files.lookup q
    rw [List.lookup_append, hsingle, Option.or_none]

theorem isSome_file?_write :
    ((t.write p content).file? q).isSome = true ↔ (t.file? q).isSome = true ∨ q = p := by
  by_cases hq : t.linked p q = true
  · rw [file?_write_of_linked hq]
    refine iff_of_true rfl ?_
    rcases linked_iff.mp hq with rfl | ⟨⟨-, hq⟩, -⟩
    · exact .inr rfl
    · exact .inl hq
  · rw [file?_write_of_not_linked (Bool.eq_false_iff.mpr hq), or_iff_left]
    rintro rfl
    exact hq (linked_self t q)

@[simp] theorem directories_write (t : Tree) (p : Place) (content : Text.Bytes) :
    (t.write p content).directories = t.directories := by
  unfold write
  split <;> rfl

/-- What is locked or cannot be read is the same after a write, but for a new file. -/
theorem mem_marked_write_iff (h : (t.file? p).isSome = true ∨ q ≠ p) :
    (q ∈ (t.write p content).locked ↔ q ∈ t.locked) ∧
    (q ∈ (t.write p content).unreadable ↔ q ∈ t.unreadable) := by
  cases hp : t.file? p with
  | some old =>
    rw [write_of_isSome (by rw [hp]; rfl)]
    exact ⟨Iff.rfl, Iff.rfl⟩
  | none =>
    have hne : (q != p) = true := bne_iff_ne.mpr (h.resolve_left (by simp [hp]))
    have hfilter (marked : List Place) : q ∈ marked.filter (· != p) ↔ q ∈ marked := by
      rw [List.mem_filter, and_iff_left hne]
    rw [write_of_none hp]
    exact ⟨hfilter t.locked, hfilter t.unreadable⟩

/-- **Which places lead to one file** is the same after a write. -/
@[simp] theorem linked_write (t : Tree) (p : Place) (content : Text.Bytes) (x y : Place) :
    (t.write p content).linked x y = t.linked x y := by
  rw [Bool.eq_iff_iff, linked_iff, linked_iff, isSome_file?_write, isSome_file?_write]
  refine or_congr_right' fun hxy => ?_
  cases hp : t.file? p with
  | some old =>
    -- no place becomes that of a file
    have hsome {z : Place} : ((t.file? z).isSome = true ∨ z = p) ↔ (t.file? z).isSome = true := by
      refine or_iff_left_of_imp ?_
      rintro rfl
      rw [hp]
      rfl
    rw [hsome, hsome, write_of_isSome (by rw [hp]; rfl)]
  | none =>
    -- the new file is in no group, and it was in none of a file before
    rw [write_of_none hp]
    constructor
    · rintro ⟨⟨hx, hy⟩, group, hgroup, hxg, hyg⟩
      obtain ⟨group, hmem, rfl⟩ := List.mem_map.mp hgroup
      obtain ⟨hxg, hxp⟩ := List.mem_filter.mp hxg
      obtain ⟨hyg, hyp⟩ := List.mem_filter.mp hyg
      have hfile {z : Place} (hz : (t.file? z).isSome = true ∨ z = p) (hzp : (z != p) = true) :
          (t.file? z).isSome = true := hz.resolve_right (bne_iff_ne.mp hzp)
      exact ⟨⟨hfile hx hxp, hfile hy hyp⟩, group, hmem, hxg, hyg⟩
    · rintro ⟨⟨hx, hy⟩, group, hgroup, hxg, hyg⟩
      have hne {z : Place} (hz : (t.file? z).isSome = true) : (z != p) = true := by
        rw [bne_iff_ne]
        rintro rfl
        rw [hp] at hz
        exact absurd hz Bool.false_ne_true
      exact ⟨⟨.inl hx, .inl hy⟩, _, List.mem_map_of_mem hgroup,
        List.mem_filter.mpr ⟨hxg, hne hx⟩, List.mem_filter.mpr ⟨hyg, hne hy⟩⟩

theorem mem_map_fst_write :
    q ∈ (t.write p content).files.map (·.1) ↔ q ∈ t.files.map (·.1) ∨ q = p := by
  cases hp : t.file? p with
  | some old =>
    -- the places of the files stay the same, and `p` is one of them
    have hmem : p ∈ t.files.map (·.1) := List.mem_map_of_mem (mem_files_of_file? hp)
    have hsame : (t.files.map fun (x, old) =>
        if t.linked p x then (x, content) else (x, old)).map (·.1) = t.files.map (·.1) := by
      rw [List.map_map]
      refine List.map_congr_left fun entry _ => ?_
      show (if t.linked p entry.1 then (entry.1, content) else (entry.1, entry.2)).1 = entry.1
      split <;> rfl
    rw [write_of_isSome (by rw [hp]; rfl)]
    show q ∈ (t.files.map _).map _ ↔ _
    rw [hsame]
    exact ⟨.inl, fun h => h.elim id fun heq => heq ▸ hmem⟩
  | none =>
    rw [write_of_none hp]
    show q ∈ (t.files ++ _).map _ ↔ _
    rw [List.map_append, List.mem_append]
    exact or_congr_right List.mem_singleton

/-- **After a write** stands what stood before, the file that was written, and all directories on
the way to it. -/
theorem holds_write_iff :
    (t.write p content).holds q = true ↔ t.holds q = true ∨ q <+: p := by
  rw [holds_iff, holds_iff, mem_places_iff, mem_places_iff, directories_write]
  simp only [List.mem_append, mem_map_fst_write]
  constructor
  · rintro (rfl | ⟨r, (hr | rfl) | hr, hstage⟩)
    · exact .inl (.inl rfl)
    · exact .inl (.inr ⟨r, .inl hr, hstage⟩)
    · exact .inr (Place.mem_stages_iff.mp hstage).2
    · exact .inl (.inr ⟨r, .inr hr, hstage⟩)
  · rintro ((rfl | ⟨r, hr, hstage⟩) | hway)
    · exact .inl rfl
    · exact .inr ⟨r, hr.imp_left .inl, hstage⟩
    · by_cases hq : q = []
      · exact .inl hq
      · exact .inr ⟨p, .inl (.inr rfl), Place.mem_stages_iff.mpr ⟨hq, hway⟩⟩

/-- **What stands in a tree** still stands there when a file is written. -/
theorem holds_write (h : t.holds q = true) : (t.write p content).holds q = true :=
  holds_write_iff.mpr (.inl h)

end Write

/-! ### What writes leave as it is -/

/-- **A tree grows**: what stands in it goes on to stand, as a file or a directory, and it is the
same as before which places lead to one file and what of it is locked or cannot be read. -/
structure Grows (t t' : Tree) : Prop where
  stands : ∀ p, t.holds p = true → t'.holds p = true
  file : ∀ p, t.holds p = true → (t'.file? p).isSome = (t.file? p).isSome
  linked : ∀ p q, t'.linked p q = t.linked p q
  marked : ∀ p, t.holds p = true →
    (p ∈ t'.locked ↔ p ∈ t.locked) ∧ (p ∈ t'.unreadable ↔ p ∈ t.unreadable)
  directories : t'.directories = t.directories

section Grows

variable {t u t' : Tree} {p : Place} {content : Text.Bytes}

theorem Grows.refl (t : Tree) : Grows t t :=
  ⟨fun _ => id, fun _ _ => rfl, fun _ _ => rfl, fun _ _ => ⟨Iff.rfl, Iff.rfl⟩, rfl⟩

theorem Grows.trans (h : Grows t u) (h' : Grows u t') : Grows t t' where
  stands := fun p hp => h'.stands p (h.stands p hp)
  file := fun p hp => (h'.file p (h.stands p hp)).trans (h.file p hp)
  linked := fun p q => (h'.linked p q).trans (h.linked p q)
  marked := by
    intro p hp
    obtain ⟨hlocked, hunreadable⟩ := h.marked p hp
    obtain ⟨hlocked', hunreadable'⟩ := h'.marked p (h.stands p hp)
    exact ⟨hlocked'.trans hlocked, hunreadable'.trans hunreadable⟩
  directories := h'.directories.trans h.directories

theorem grows_write (hp : t.isDirectory p = false) : Grows t (t.write p content) where
  stands := fun _ => holds_write
  file := by
    intro q hq
    rw [Bool.eq_iff_iff, isSome_file?_write, or_iff_left_iff_imp]
    rintro rfl
    exact isSome_file?_of_holds hq hp
  linked := linked_write t p content
  marked := by
    intro q hq
    apply mem_marked_write_iff
    by_cases hqp : q = p
    · subst hqp
      exact .inl (isSome_file?_of_holds hq hp)
    · exact .inr hqp
  directories := directories_write t p content

/-- A file that is marked at one of its places goes on to be so. -/
theorem Grows.any_linked_eq {marked marked' : List Place} (h : Grows t t')
    (hfile : (t.file? p).isSome = true)
    (hmarked : ∀ q, t.holds q = true → (q ∈ marked' ↔ q ∈ marked)) :
    marked'.any (t'.linked p) = marked.any (t.linked p) := by
  rw [show t'.linked p = t.linked p from funext (h.linked p), Bool.eq_iff_iff, List.any_eq_true,
    List.any_eq_true]
  refine exists_congr fun q => and_congr_left fun hq => hmarked q ?_
  -- all places of the file stand in the tree
  obtain ⟨content, hcontent⟩ :=
    Option.isSome_iff_exists.mp ((isSome_file?_of_linked hq).symm.trans hfile)
  exact holds_of_file? hcontent

/-- A new file is marked at none of its places, since it has but one. -/
theorem any_linked_write_self (hp : t.file? p = none) (marked : List Place) :
    (marked.filter (· != p)).any ((t.write p content).linked p) = false := by
  rw [List.any_eq_false]
  intro q hq hlinked
  rw [linked_write] at hlinked
  obtain rfl := eq_of_linked_of_file?_eq_none hp hlinked
  exact absurd (List.mem_filter.mp hq).2 (by simp)

theorem holds_of_isUnreadable (h : t.isUnreadable p = true) : t.holds p = true := by
  obtain ⟨content, hcontent⟩ := Option.isSome_iff_exists.mp (Bool.and_eq_true_iff.mp h).1
  exact holds_of_file? hcontent

/-- **What cannot be read** remains so. -/
theorem Grows.isUnreadable_eq (h : Grows t t') (hp : t.holds p = true) :
    t'.isUnreadable p = t.isUnreadable p := by
  unfold isUnreadable
  rw [h.file p hp]
  cases hfile : (t.file? p).isSome with
  | true => rw [h.any_linked_eq hfile fun q hq => (h.marked q hq).2]
  | false => rfl

/-- **What is locked** remains so. -/
theorem Grows.locks_eq (h : Grows t t') (hp : t.holds p = true) : t'.locks p = t.locks p := by
  unfold locks
  rw [h.file p hp]
  cases hfile : (t.file? p).isSome with
  | true => rw [if_pos rfl, if_pos rfl, h.any_linked_eq hfile fun q hq => (h.marked q hq).1]
  | false =>
    have hdirectory : t.holds p.dropLast = true := holds_of_prefix hp (List.dropLast_prefix p)
    rw [if_neg Bool.false_ne_true, if_neg Bool.false_ne_true, Bool.eq_iff_iff,
      List.contains_iff_mem, List.contains_iff_mem]
    exact (h.marked _ hdirectory).1

/-- **What can be written** can be written again: a new file is not locked. -/
theorem locks_write_self (h : t.locks p = false) : (t.write p content).locks p = false := by
  cases hfile : t.file? p with
  | some old =>
    have hp : t.isDirectory p = false := isDirectory_of_isSome (by rw [hfile]; rfl)
    rw [(grows_write hp).locks_eq (holds_of_file? hfile), h]
  | none =>
    have hlocked : (t.write p content).locked = t.locked.filter (· != p) := by
      rw [write_of_none hfile]
    unfold locks
    rw [file?_write_self, Option.isSome_some, if_pos rfl, hlocked, any_linked_write_self hfile]

/-- **What can be read** can be read after it is written, and only this: a new file can be read. -/
theorem isUnreadable_write_self (t : Tree) (p : Place) (content : Text.Bytes) :
    (t.write p content).isUnreadable p = t.isUnreadable p := by
  cases hfile : t.file? p with
  | some old =>
    have hp : t.isDirectory p = false := isDirectory_of_isSome (by rw [hfile]; rfl)
    exact (grows_write hp).isUnreadable_eq (holds_of_file? hfile)
  | none =>
    have hunreadable : (t.write p content).unreadable = t.unreadable.filter (· != p) := by
      rw [write_of_none hfile]
    unfold isUnreadable
    rw [hunreadable, any_linked_write_self hfile, Bool.and_false, hfile]
    rfl

end Grows

/-! ### What is found below a root -/

section Below

/-- Each step of the recursion puts an element in front of a list that it was taken out of. -/
theorem nodup_eraseDups {A : Type} [BEq A] [LawfulBEq A] : (l : List A) → l.eraseDups.Nodup
  | [] => List.nodup_nil
  | a :: l => by
    rw [List.eraseDups_cons, List.nodup_cons]
    refine ⟨?_, nodup_eraseDups _⟩
    rw [List.mem_eraseDups, List.mem_filter]
    rintro ⟨-, hne⟩
    exact absurd hne (by simp)
termination_by l => l.length
decreasing_by exact Nat.lt_succ_of_le (List.length_filter_le _ l)

theorem mem_below_iff {t : Tree} {here way : Place} :
    way ∈ t.below here ↔ ∃ p ∈ t.places, here.below? p = some way := by
  unfold below
  rw [List.mem_mergeSort, List.mem_filterMap]

theorem mem_below_iff_append {t : Tree} {here way : Place} :
    way ∈ t.below here ↔ way ≠ [] ∧ here ++ way ∈ t.places := by
  rw [mem_below_iff]
  constructor
  · rintro ⟨p, hp, hbelow⟩
    exact ⟨Place.ne_nil_of_below? hbelow, Place.eq_append_of_below? hbelow ▸ hp⟩
  · rintro ⟨hway, hp⟩
    exact ⟨here ++ way, hp, Place.below?_append hway here⟩

theorem nodup_below (t : Tree) (here : Place) : (t.below here).Nodup := by
  unfold below
  rw [(List.mergeSort_perm _ _).nodup_iff]
  refine List.Nodup.filterMap ?_ (nodup_eraseDups _)
  -- two places with the same way from `here` are the same place
  intro p q way hp hq
  rw [Place.eq_append_of_below? hp, Place.eq_append_of_below? hq]

/-- What is found below a root stands in the tree. -/
theorem holds_of_mem_locatedBelow {t : Tree} {root f : Located} (h : f ∈ t.locatedBelow root) :
    t.holds f.place = true := by
  obtain ⟨way, hway, rfl⟩ := List.mem_map.mp h
  obtain ⟨p, hp, hbelow⟩ := mem_below_iff.mp hway
  rw [holds_iff]
  rw [Place.eq_append_of_below? hbelow] at hp
  exact .inr hp

/-- **What is found below a root** is found at different places. -/
theorem nodup_locatedBelow (t : Tree) (root : Located) :
    ((t.locatedBelow root).map (·.place)).Nodup := by
  unfold locatedBelow
  rw [List.map_map]
  exact (nodup_below t root.place).map fun _ _ h => List.append_cancel_left h

end Below

end Tree

end ClassGroups.Files
