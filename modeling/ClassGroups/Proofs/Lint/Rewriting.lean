import ClassGroups.Proofs.Lint.Runs

/-!
# What a run rewrites

A run that fixes files, perhaps after a backup of each, rewrites those that it comes to and finds
something in, until it ends or a file hinders it (`Hinders`). `FixedTree` sums up what becomes of
the tree in the meantime, and `fixedTree_of_visits` shows it of every run. A step adds to it
(`FixedTree.append`): what stands is left alone unless it is rewritten, and of two files that are
rewritten at places of one file the later one is what remains.

A place is that of one backup only (`eq_of_backupPlace_eq`), so no step can make a backup for a file
that is still to come. Hence what hinders a file is there from the start (`Scan.Visits.not_hinders`,
`Scan.Visits.hinders`). But what is found in a file need not be, since it may have been rewritten at
another one of its places.
-/

namespace ClassGroups.Command

open Files

/-! ### The place of a backup -/

section Places

variable {p q : Place}

theorem name_backupPlace (p : Place) :
    (backupPlace p).name = p.name ++ Name.ofText backupEnding := by
  show (p.dropLast ++ [_]).getLast?.getD [] = _
  rw [List.getLast?_concat]
  rfl

theorem dropLast_backupPlace (p : Place) : (backupPlace p).dropLast = p.dropLast :=
  List.dropLast_concat

theorem eq_of_backupPlace_eq (hp : p ≠ []) (hq : q ≠ [])
    (h : backupPlace p = backupPlace q) : p = q := by
  have hinit : p.dropLast = q.dropLast := by
    rw [← dropLast_backupPlace p, h, dropLast_backupPlace]
  have hname : p.name = q.name := by
    have hlast := congrArg Place.name h
    rw [name_backupPlace, name_backupPlace] at hlast
    exact List.append_cancel_right hlast
  unfold Place.name at hname
  rw [List.getLast?_eq_some_getLast hp, List.getLast?_eq_some_getLast hq] at hname
  rw [← List.dropLast_append_getLast hp, ← List.dropLast_append_getLast hq, hinit]
  exact congrArg (q.dropLast ++ [·]) hname

/-- The name of a backup has no extension but its own. -/
theorem suffix_of_backup {path : Path} {stem : Name}
    (h : path.name = stem ++ Name.ofText backupEnding) :
    path.suffix = [] ∨ path.suffix = Name.ofText backupEnding := by
  have hextension : (path.name.reverse.takeWhile (· != .char '.'))
      = [.char 'k', .char 'a', .char 'b'] := by
    rw [h, List.reverse_append]
    rfl
  unfold Path.suffix
  rw [hextension]
  dsimp only
  split
  · exact .inl rfl
  · exact .inr rfl

end Places

/-! ### One file -/

/-- **What hinders a fix** of a file. -/
inductive Hinders (t : Tree) (backup : Bool) (f : Located) : Fault → Prop
  /-- The name of its backup is too long. -/
  | longName (hbackup : backup = true) (hfits : (backupPlace f.place).name.fits = false) :
      Hinders t backup f (.longName (f.path.extend ".bak"))
  /-- There is no backup, and the directory in which it would be made is locked. -/
  | lockedDirectory (hbackup : backup = true) (hfree : t.holds (backupPlace f.place) = false)
      (hlocked : f.place.dropLast ∈ t.locked) :
      Hinders t backup f (.denied (f.path.extend ".bak"))
  /-- The file is locked. -/
  | lockedFile (hlocked : t.locks f.place = true) : Hinders t backup f (.denied f.path)

/-- The tree with the backup of a file, which is made where nothing stands. -/
def withBackup (t : Tree) (backup : Bool) (e : Examined) : Tree :=
  if backup = true ∧ t.holds (backupPlace e.file.place) = false then
    t.write (backupPlace e.file.place) (Text.encode e.source)
  else t

section Step

variable {t u : Tree} {backup : Bool} {f : Located} {e : Examined} {q : Place} {fault : Fault}
  {source : Text}

/-- Whether a file is hindered depends on what stands in the place of its backup and on the
locks. -/
theorem Hinders.congr (h : Hinders t backup f fault)
    (hholds : u.holds (backupPlace f.place) = t.holds (backupPlace f.place))
    (hlocks : u.locks f.place = t.locks f.place)
    (hlocked : f.place.dropLast ∈ t.locked → f.place.dropLast ∈ u.locked) :
    Hinders u backup f fault := by
  cases h with
  | longName hbackup hfits => exact .longName hbackup hfits
  | lockedDirectory hbackup hfree hmem =>
    exact .lockedDirectory hbackup (hholds.trans hfree) (hlocked hmem)
  | lockedFile h => exact .lockedFile (hlocks.trans h)

theorem backUp_of_long (h : (backupPlace f.place).name.fits = false) :
    backUp t f source = (t, some (.longName (f.path.extend ".bak"))) := by
  unfold backUp standsAt backupOf
  dsimp only
  rw [if_neg (Bool.eq_false_iff.mp h)]
  rfl

theorem backUp_of_holds (hfits : (backupPlace f.place).name.fits = true)
    (h : t.holds (backupPlace f.place) = true) : backUp t f source = (t, none) := by
  unfold backUp standsAt backupOf
  dsimp only
  rw [if_pos hfits, h]

theorem backUp_of_free (hfits : (backupPlace f.place).name.fits = true)
    (h : t.holds (backupPlace f.place) = false) :
    backUp t f source =
      if f.place.dropLast ∈ t.locked then (t, some (.denied (f.path.extend ".bak")))
      else (t.write (backupPlace f.place) (Text.encode source), none) := by
  have hnone : t.file? (backupPlace f.place) = none := by
    by_contra hfile
    obtain ⟨content, hcontent⟩ := Option.ne_none_iff_exists'.mp hfile
    exact absurd (Tree.holds_of_file? hcontent) (Bool.eq_false_iff.mp h)
  have hlocks : t.locks (backupPlace f.place) = t.locked.contains f.place.dropLast := by
    unfold Tree.locks
    rw [hnone, dropLast_backupPlace]
    rfl
  have hrefusal : refusal? t (backupOf f)
      = if t.locks (backupPlace f.place) then some (.denied (f.path.extend ".bak")) else none :=
    refusal?_of_fits (Tree.isDirectory_of_not_holds h) hfits
  unfold backUp standsAt
  rw [if_pos (show (backupOf f).place.name.fits = true from hfits),
    show t.holds (backupOf f).place = false from h]
  dsimp only
  by_cases hmem : f.place.dropLast ∈ t.locked
  · rw [hlocks, if_pos (List.contains_iff_mem.mpr hmem)] at hrefusal
    rw [writeFile_of_refusal hrefusal, if_pos hmem]
  · rw [hlocks, if_neg (mt List.contains_iff_mem.mp hmem)] at hrefusal
    rw [writeFile_of_none hrefusal, if_neg hmem]
    rfl

/-- **A backup is made** or hindered. -/
theorem backUp_cases (t : Tree) (backup : Bool) (e : Examined) :
    (∃ fault, Hinders t backup e.file fault ∧
      (if backup then backUp t e.file e.source else (t, none)) = (t, some fault)) ∨
    (¬(backup = true ∧ (backupPlace e.file.place).name.fits = false) ∧
      ¬(backup = true ∧ t.holds (backupPlace e.file.place) = false ∧
        e.file.place.dropLast ∈ t.locked) ∧
      (if backup then backUp t e.file e.source else (t, none))
        = (withBackup t backup e, none)) := by
  cases backup with
  | false => exact .inr ⟨nofun, nofun, rfl⟩
  | true =>
    rw [if_pos rfl]
    cases hfits : (backupPlace e.file.place).name.fits with
    | false => exact .inl ⟨_, .longName rfl hfits, backUp_of_long hfits⟩
    | true =>
      unfold withBackup
      cases hholds : t.holds (backupPlace e.file.place) with
      | true =>
        rw [backUp_of_holds hfits hholds]
        exact .inr ⟨nofun, nofun, rfl⟩
      | false =>
        rw [backUp_of_free hfits hholds]
        by_cases hlocked : e.file.place.dropLast ∈ t.locked
        · rw [if_pos hlocked]
          exact .inl ⟨_, .lockedDirectory rfl hholds hlocked, rfl⟩
        · rw [if_neg hlocked]
          exact .inr ⟨nofun, fun h => hlocked h.2.2, rfl⟩

theorem grows_withBackup (t : Tree) (backup : Bool) (e : Examined) :
    t.Grows (withBackup t backup e) := by
  unfold withBackup
  split
  · next h => exact Tree.grows_write (Tree.isDirectory_of_not_holds h.2)
  · exact .refl t

theorem holds_withBackup_iff (hstand : t.holds e.file.place = true) :
    (withBackup t backup e).holds q = true ↔
      t.holds q = true ∨ backup = true ∧ q = backupPlace e.file.place := by
  unfold withBackup
  split
  · next h =>
    rw [Tree.holds_write_iff]
    refine or_congr_right' fun hq => ?_
    rw [and_iff_right h.1, backupPlace, List.prefix_concat_iff, or_iff_left]
    -- the directory of the file stands in the tree already
    exact fun hway =>
      hq (Tree.holds_of_prefix hstand (hway.trans (List.dropLast_prefix _)))
  · next h =>
    refine (or_iff_left_of_imp ?_).symm
    rintro ⟨hbackup, rfl⟩
    exact (Bool.not_eq_false _).mp fun hfree => h ⟨hbackup, hfree⟩

/-- **A backup** leaves alone whatever stands somewhere. -/
theorem file?_withBackup_of_holds (h : t.holds q = true) :
    (withBackup t backup e).file? q = t.file? q := by
  unfold withBackup
  split
  · next hfree =>
    apply Tree.file?_write_of_not_linked
    rw [Bool.eq_false_iff]
    intro hlinked
    -- nothing stood in the place of the backup, so no other place leads there
    rw [Tree.linked_iff] at hlinked
    rcases hlinked with rfl | ⟨⟨hfile, -⟩, -⟩
    · exact absurd h (Bool.eq_false_iff.mp hfree.2)
    · obtain ⟨content, hcontent⟩ := Option.isSome_iff_exists.mp hfile
      exact absurd (Tree.holds_of_file? hcontent) (Bool.eq_false_iff.mp hfree.2)
  · rfl

theorem file?_withBackup_backupPlace (hbackup : backup = true)
    (hfree : t.holds (backupPlace e.file.place) = false) :
    (withBackup t backup e).file? (backupPlace e.file.place) = some (Text.encode e.source) := by
  unfold withBackup
  rw [if_pos ⟨hbackup, hfree⟩]
  exact Tree.file?_write_self ..

/-- **A fix of a file** rewrites it after its backup, or it is hindered. If it is not the file that
is locked, the tree is then as it was. -/
theorem fixFile_cases (backup : Bool) (hread : t.file? e.file.place = some e.bytes) :
    ((∀ fault, ¬Hinders t backup e.file fault) ∧
      fixFile t backup e.file e.source e.fixed
        = ((withBackup t backup e).write e.file.place (Text.encode e.fixed), none)) ∨
    ∃ fault u, Hinders t backup e.file fault ∧
      fixFile t backup e.file e.source e.fixed = (u, some fault) ∧
      (u = t ∨ u = withBackup t backup e ∧ t.locks e.file.place = true) := by
  unfold fixFile
  rcases backUp_cases t backup e with ⟨fault, hhinders, hbackUp⟩ | ⟨hlong, hdirectory, hbackUp⟩
  · rw [hbackUp]
    exact .inr ⟨fault, t, hhinders, rfl, .inl rfl⟩
  · rw [hbackUp]
    have hgrows := grows_withBackup t backup e
    have hsame := hgrows.file e.file.place (Tree.holds_of_file? hread)
    have hfile : ((withBackup t backup e).file? e.file.place).isSome = true := by
      rw [hsame, hread]
      rfl
    have hrefusal := refusal?_of_isSome hfile
    rw [hgrows.locks_eq (Tree.holds_of_file? hread)] at hrefusal
    cases hlocks : t.locks e.file.place with
    | true =>
      rw [hlocks, if_pos rfl] at hrefusal
      exact .inr ⟨_, _, .lockedFile hlocks, writeFile_of_refusal hrefusal _, .inr ⟨rfl, rfl⟩⟩
    | false =>
      rw [hlocks, if_neg Bool.false_ne_true] at hrefusal
      refine .inl ⟨fun fault hhinders => ?_, writeFile_of_none hrefusal _⟩
      cases hhinders with
      | longName hbackup hfits => exact hlong ⟨hbackup, hfits⟩
      | lockedDirectory hbackup hfree hlocked => exact hdirectory ⟨hbackup, hfree, hlocked⟩
      | lockedFile h => exact absurd h (Bool.eq_false_iff.mp hlocks)

end Step

/-! ### The tree after a fix -/

/-- **A tree is fixed.** Of what stood in it, exactly the files `l` with findings are rewritten, and
what is new are backups beside those among `backed`, in places where nothing stood. -/
structure FixedTree (backup : Bool) (l backed : List Examined) (t t' : Tree) : Prop
    extends Tree.Grows t t' where
  /-- A place has the fixed text of the last file that is rewritten there, or at another place of
  the same file. -/
  rewritten : ∀ before e after, l = before ++ e :: after → e.findings ≠ [] →
    ∀ p, t.linked e.file.place p = true →
      (∀ d ∈ after, d.findings ≠ [] → t.linked d.file.place p = false) →
      t'.file? p = some (Text.encode e.fixed)
  /-- What stands anywhere else is left as it was. -/
  kept : ∀ p, t.holds p = true →
    (∀ e ∈ l, e.findings ≠ [] → t.linked e.file.place p = false) → t'.file? p = t.file? p
  /-- Whatever is rewritten has a backup, if one is asked for. -/
  backedUp : backup = true →
    ∀ e ∈ l, e.findings ≠ [] → t'.holds (backupPlace e.file.place) = true
  /-- What is new is a backup with the text that was found. -/
  added : ∀ p, t.holds p = false → t'.holds p = true →
    backup = true ∧ ∃ e ∈ backed, e.findings ≠ [] ∧ p = backupPlace e.file.place ∧
      t'.file? p = some (Text.encode e.source)

section Fixed

variable {backup : Bool} {showing : Showing} {e : Examined}
  {l l₁ l₂ backed b₁ b₂ : List Examined} {t u t' : Tree}
  {p : Place} {fault : Fault}

/-- Nothing leads to a place that is free but the place itself. -/
theorem linked_eq_false_of_free {q : Place} (hp : t.holds p = false) (hq : t.holds q = true) :
    t.linked q p = false := by
  rw [Bool.eq_false_iff]
  intro hlinked
  rcases Tree.linked_iff.mp hlinked with rfl | ⟨⟨-, hfile⟩, -⟩
  · exact absurd hq (Bool.eq_false_iff.mp hp)
  · obtain ⟨content, hcontent⟩ := Option.isSome_iff_exists.mp hfile
    exact absurd (Tree.holds_of_file? hcontent) (Bool.eq_false_iff.mp hp)

/-- Files without findings are left alone. -/
theorem FixedTree.refl (h : ∀ e ∈ l, e.findings = []) (backed : List Examined) (t : Tree) :
    FixedTree backup l backed t t where
  toGrows := .refl t
  rewritten := by
    rintro before e after rfl hfindings
    exact absurd (h e (List.mem_append_right _ List.mem_cons_self)) hfindings
  kept := fun _ _ _ => rfl
  backedUp := fun _ e he hfindings => absurd (h e he) hfindings
  added := fun p hfree hholds => absurd hholds (Bool.eq_false_iff.mp hfree)

/-- **Fixing more files** undoes nothing but what is rewritten again at a place of the same file. -/
theorem FixedTree.append (hstand : ∀ e ∈ l₂, t.holds e.file.place = true)
    (h₁ : FixedTree backup l₁ b₁ t u) (h₂ : FixedTree backup l₂ b₂ u t') :
    FixedTree backup (l₁ ++ l₂) (b₁ ++ b₂) t t' where
  toGrows := h₁.toGrows.trans h₂.toGrows
  rewritten := by
    intro before e after hsplit hfindings p hlinked hafter
    rcases List.append_eq_append_iff.mp hsplit with
      ⟨before', rfl, hl₂⟩ | ⟨after', rfl, hafter'⟩
    · -- the file is one of the later ones
      refine h₂.rewritten before' e after hl₂ hfindings p ((h₁.linked ..).trans hlinked) ?_
      intro d hd hd'
      rw [h₁.linked]
      exact hafter d hd hd'
    · cases after' with
      | nil =>
        refine h₂.rewritten [] e after hafter'.symm hfindings p ((h₁.linked ..).trans hlinked) ?_
        intro d hd hd'
        rw [h₁.linked]
        exact hafter d hd hd'
      | cons d after' =>
        obtain ⟨rfl, rfl⟩ := List.cons.inj hafter'
        have hu := h₁.rewritten before e after' rfl hfindings p hlinked fun d hd =>
          hafter d (List.mem_append_left _ hd)
        rw [← hu]
        refine h₂.kept p (Tree.holds_of_file? hu) fun d hd hd' => ?_
        rw [h₁.linked]
        exact hafter d (List.mem_append_right _ hd) hd'
  kept := by
    intro p hp hno
    rw [h₂.kept p (h₁.stands p hp), h₁.kept p hp]
    · exact fun e he => hno e (List.mem_append_left _ he)
    · intro e he hfindings
      rw [h₁.linked]
      exact hno e (List.mem_append_right _ he) hfindings
  backedUp := by
    intro hbackup e he hfindings
    rcases List.mem_append.mp he with he | he
    · exact h₂.stands _ (h₁.backedUp hbackup e he hfindings)
    · exact h₂.backedUp hbackup e he hfindings
  added := by
    intro p hfree hholds
    cases hp : u.holds p with
    | true =>
      -- it is there after the first step, and the later files are all others
      obtain ⟨hbackup, e, he, hfindings, hplace, hcontent⟩ := h₁.added p hfree hp
      refine ⟨hbackup, e, List.mem_append_left _ he, hfindings, hplace, ?_⟩
      rw [h₂.kept p hp, hcontent]
      intro d hd _
      rw [h₁.linked]
      exact linked_eq_false_of_free hfree (hstand d hd)
    | false =>
      obtain ⟨hbackup, e, he, hfindings⟩ := h₂.added p hp hholds
      exact ⟨hbackup, e, List.mem_append_right _ he, hfindings⟩

theorem fixedTree_withBackup (hstand : t.holds e.file.place = true) (hfindings : e.findings ≠ []) :
    FixedTree backup [] [e] t (withBackup t backup e) where
  toGrows := grows_withBackup t backup e
  rewritten := fun before e after h => absurd h (by simp)
  kept := fun p hp _ => file?_withBackup_of_holds hp
  backedUp := fun _ e he => absurd he List.not_mem_nil
  added := by
    intro p hfree hholds
    rcases (holds_withBackup_iff hstand).mp hholds with hp | ⟨hbackup, rfl⟩
    · exact absurd hp (Bool.eq_false_iff.mp hfree)
    · exact ⟨hbackup, e, List.mem_cons_self, hfindings, rfl,
        file?_withBackup_backupPlace hbackup hfree⟩

theorem fixedTree_write (hfile : (t.file? e.file.place).isSome = true)
    (hfindings : e.findings ≠ [])
    (hbackup : backup = true → t.holds (backupPlace e.file.place) = true) :
    FixedTree backup [e] [] t (t.write e.file.place (Text.encode e.fixed)) where
  toGrows := Tree.grows_write (Tree.isDirectory_of_isSome hfile)
  rewritten := by
    intro before d after hsplit _ p hlinked _
    have hd : d ∈ [e] := hsplit ▸ List.mem_append_right before List.mem_cons_self
    obtain rfl := List.mem_singleton.mp hd
    exact Tree.file?_write_of_linked hlinked
  kept := fun p _ hno => Tree.file?_write_of_not_linked (hno e List.mem_cons_self hfindings)
  backedUp := by
    intro h d hd _
    obtain rfl := List.mem_singleton.mp hd
    exact Tree.holds_write (hbackup h)
  added := by
    intro p hfree hholds
    obtain ⟨content, hcontent⟩ := Option.isSome_iff_exists.mp hfile
    rcases Tree.holds_write_iff.mp hholds with hp | hway
    · exact absurd hp (Bool.eq_false_iff.mp hfree)
    · have hp := Tree.holds_of_prefix (Tree.holds_of_file? hcontent) hway
      exact absurd hp (Bool.eq_false_iff.mp hfree)

/-- **One fix** that is not hindered. -/
theorem fixedTree_act (hread : t.file? e.file.place = some e.bytes)
    (hact : (LintMode.fix backup).act showing t e = (u, none)) : FixedTree backup [e] [e] t u := by
  by_cases hfindings : e.findings = []
  · rw [LintMode.act_fix, if_pos hfindings] at hact
    obtain rfl := (Prod.mk.inj hact).1
    refine .refl (fun d hd => ?_) [e] t
    exact List.mem_singleton.mp hd ▸ hfindings
  · have hstand := Tree.holds_of_file? hread
    rw [LintMode.act_fix, if_neg hfindings] at hact
    rcases fixFile_cases backup hread with
      ⟨-, hact'⟩ | ⟨fault, u', -, hact', -⟩
    · obtain rfl := (Prod.mk.inj (hact'.symm.trans hact)).1
      have hfile : ((withBackup t backup e).file? e.file.place).isSome = true := by
        rw [(grows_withBackup ..).file _ hstand, hread]
        rfl
      -- first the backup, then the file
      have hbacked : FixedTree backup [] [e] t (withBackup t backup e) :=
        fixedTree_withBackup hstand hfindings
      have hwritten : FixedTree backup [e] [] (withBackup t backup e) _ :=
        fixedTree_write hfile hfindings fun hbackup =>
          (holds_withBackup_iff hstand).mpr (.inr ⟨hbackup, rfl⟩)
      exact hbacked.append (fun d hd => List.mem_singleton.mp hd ▸ hstand) hwritten
    · exact absurd (Prod.mk.inj (hact'.symm.trans hact)).2 nofun

/-- **One fix** that is hindered: if anything, its backup is new. -/
theorem fixedTree_act_stuck (hread : t.file? e.file.place = some e.bytes)
    (hact : (LintMode.fix backup).act showing t e = (u, some fault)) :
    FixedTree backup [] [e] t u := by
  by_cases hfindings : e.findings = []
  · rw [LintMode.act_fix, if_pos hfindings] at hact
    exact absurd (Prod.mk.inj hact).2 nofun
  · rw [LintMode.act_fix, if_neg hfindings] at hact
    rcases fixFile_cases backup hread with
      ⟨-, hact'⟩ | ⟨fault', u', -, hact', htree⟩
    · exact absurd (Prod.mk.inj (hact'.symm.trans hact)).2 nofun
    · obtain rfl := (Prod.mk.inj (hact'.symm.trans hact)).1
      rcases htree with rfl | ⟨rfl, -⟩
      · exact .refl (fun d hd => absurd hd List.not_mem_nil) [e] u'
      · exact fixedTree_withBackup (Tree.holds_of_file? hread) hfindings

end Fixed

/-! ### A run -/

/-- **Files to visit** stand in the tree, and no two of them have the same place for a backup. -/
structure Waiting (t : Tree) (files : List Located) : Prop where
  /-- Something stands at the place of each. -/
  stand : ∀ f ∈ files, t.holds f.place = true
  /-- Their backups have different places. -/
  apart : (files.map fun f => backupPlace f.place).Nodup

section Run

variable {scan : Scan} {mode : LintMode} {backup : Bool} {t u t' : Tree} {files : List Located}
  {e : Examined} {l before after : List Examined} {ending : Ending} {fault : Fault}

theorem Waiting.nodup_of_prefix (h : Waiting t files) (hl : l.map (·.file) <+: files) :
    (l.map fun e => backupPlace e.file.place).Nodup := by
  have hapart := h.apart.sublist (hl.map fun f => backupPlace f.place).sublist
  rwa [List.map_map] at hapart

theorem Waiting.ne_of_prefix (h : Waiting t files)
    (hl : (before ++ e :: after).map (·.file) <+: files) :
    ∀ d ∈ before, backupPlace d.file.place ≠ backupPlace e.file.place := by
  intro d hd
  have hapart := h.nodup_of_prefix hl
  rw [List.map_append, List.nodup_append] at hapart
  exact hapart.2.2 _ (List.mem_map_of_mem hd) _ (List.mem_map_of_mem List.mem_cons_self)

/-- **What a run makes of the tree**, whether or not it comes to its end. -/
theorem fixedTree_of_visits (hstand : ∀ f ∈ files, t.holds f.place = true)
    (h : scan.Visits (.fix backup) t files l t' ending) :
    FixedTree backup l (l ++ ending.pending) t t' := by
  induction h with
  | nil t => exact .refl (fun e he => absurd he List.not_mem_nil) [] t
  | unread rest h => exact .refl (fun e he => absurd he List.not_mem_nil) [] _
  | stuck rest h hact =>
    exact fixedTree_act_stuck (Scan.file?_of_examine h) hact
  | @cons t u t' f rest e l ending h hact hrest ih =>
    have hstep := fixedTree_act (Scan.file?_of_examine h) hact
    have hrest' : ∀ g ∈ rest, t.holds g.place = true := fun g hg =>
      hstand g (List.mem_cons_of_mem f hg)
    refine hstep.append (fun d hd => ?_) (ih fun g hg => hstep.stands _ (hrest' g hg))
    -- the files that the rest of the run has done with are among those it was to visit
    exact hrest' _
      (hrest.map_file_prefix.subset (List.mem_map_of_mem (List.mem_append_left _ hd)))

/-- **A run up to a file** that it has done with. -/
theorem Scan.Visits.exists_before (h : scan.Visits mode t files l t' ending)
    (hl : l = before ++ e :: after) :
    ∃ u u', scan.Visits mode t (before.map (·.file)) before u .finished ∧
      scan.examine u e.file = .ok e ∧ mode.act scan.showing u e = (u', none) := by
  induction h generalizing before with
  | nil t => exact absurd hl (by simp)
  | unread rest h => exact absurd hl (by simp)
  | stuck rest h hact => exact absurd hl (by simp)
  | @cons t u t' f rest d l ending h hact hrest ih =>
    obtain rfl := file_of_examine h
    cases before with
    | nil =>
      obtain ⟨rfl, -⟩ := List.cons.inj hl
      exact ⟨t, u, .nil t, h, hact⟩
    | cons d' before =>
      obtain ⟨hd, hl⟩ := List.cons.inj hl
      obtain ⟨v, u', hbefore, hexamine, hact'⟩ := ih hl
      exact ⟨v, u', hd ▸ .cons h hact hbefore, hexamine, hact'⟩

/-- **A run up to the file** that it gets stuck at. -/
theorem Scan.Visits.exists_before_stuck (h : scan.Visits mode t files l t' (.stuck e fault)) :
    ∃ u, scan.Visits mode t (l.map (·.file)) l u .finished ∧
      scan.examine u e.file = .ok e ∧ mode.act scan.showing u e = (t', some fault) := by
  generalize hending : Ending.stuck e fault = ending at h
  induction h with
  | nil t => exact absurd hending nofun
  | unread rest h => exact absurd hending nofun
  | @stuck t t' f d fault' rest h hact =>
    obtain ⟨rfl, rfl⟩ := Ending.stuck.inj hending
    obtain rfl := file_of_examine h
    exact ⟨t, .nil t, h, hact⟩
  | @cons t u t' f rest d l ending h hact hrest ih =>
    obtain rfl := file_of_examine h
    obtain ⟨v, hbefore, hexamine, hact'⟩ := ih hending
    exact ⟨v, .cons h hact hbefore, hexamine, hact'⟩

/-- **What hinders a file** is not changed by fixing others. -/
theorem FixedTree.hinders_iff {f : Located} (h : FixedTree backup l l t u)
    (hstand : t.holds f.place = true)
    (hapart : ∀ d ∈ l, backupPlace d.file.place ≠ backupPlace f.place) :
    Hinders u backup f fault ↔ Hinders t backup f fault := by
  have hholds : u.holds (backupPlace f.place) = t.holds (backupPlace f.place) := by
    rw [Bool.eq_iff_iff]
    refine ⟨fun hu => ?_, h.stands _⟩
    by_contra hfree
    -- what is new in its place would be the backup of another file
    obtain ⟨-, d, hd, -, hplace, -⟩ := h.added _ (Bool.eq_false_iff.mpr hfree) hu
    exact hapart d hd hplace.symm
  have hlocks := h.toGrows.locks_eq hstand
  have hlocked := (h.marked _ (Tree.holds_of_prefix hstand (List.dropLast_prefix _))).1
  exact ⟨fun hu => hu.congr hholds.symm hlocks.symm hlocked.mp,
    fun ht => ht.congr hholds hlocks hlocked.mpr⟩

/-- The first files of a run, as they are fixed before another one is come to. -/
theorem Scan.Visits.fixedTree_before (hfiles : Waiting t files)
    (hl : (before ++ e :: after).map (·.file) <+: files)
    (h : scan.Visits (.fix backup) t (before.map (·.file)) before u .finished) :
    FixedTree backup before before t u := by
  have hstand : ∀ f ∈ before.map (·.file), t.holds f.place = true := by
    intro f hf
    obtain ⟨d, hd, rfl⟩ := List.mem_map.mp hf
    exact hfiles.stand _ (hl.subset (List.mem_map_of_mem (List.mem_append_left _ hd)))
  have hfixed := fixedTree_of_visits hstand h
  rwa [Ending.pending, List.append_nil] at hfixed

/-- **What a run has examined** it has found in the tree in which the files before are fixed. -/
theorem Scan.Visits.exists_examine (hfiles : Waiting t files)
    (h : scan.Visits (.fix backup) t files l t' ending)
    (hsplit : l ++ ending.pending = before ++ e :: after) :
    ∃ u, FixedTree backup before before t u ∧ scan.examine u e.file = .ok e := by
  have hlead : (before ++ e :: after).map (·.file) <+: files := hsplit ▸ h.map_file_prefix
  have hdone {after : List Examined} (hl : l = before ++ e :: after) :
      ∃ u, FixedTree backup before before t u ∧ scan.examine u e.file = .ok e := by
    obtain ⟨u, -, hbefore, hexamine, -⟩ := h.exists_before hl
    exact ⟨u, hbefore.fixedTree_before hfiles hlead, hexamine⟩
  rcases ending.pending_eq_nil_or with hnil | ⟨d, fault, rfl⟩
  · rw [hnil, List.append_nil] at hsplit
    exact hdone hsplit
  · -- the file is the one that the run gets stuck at, or it comes before that
    rcases List.eq_nil_or_concat' after with rfl | ⟨after, d', rfl⟩
    · obtain ⟨rfl, hd⟩ := List.append_inj' hsplit rfl
      obtain rfl := List.singleton_inj.mp hd
      obtain ⟨u, hbefore, hexamine, -⟩ := h.exists_before_stuck
      exact ⟨u, hbefore.fixedTree_before hfiles hlead, hexamine⟩
    · rw [← List.cons_append, ← List.append_assoc] at hsplit
      exact hdone (List.append_inj' hsplit rfl).1

/-- **A file that is rewritten** was not hindered from the start. -/
theorem Scan.Visits.not_hinders (hfiles : Waiting t files)
    (h : scan.Visits (.fix backup) t files l t' ending) (he : e ∈ l) (hfindings : e.findings ≠ [])
    (fault : Fault) : ¬Hinders t backup e.file fault := by
  obtain ⟨before, after, hl⟩ := List.append_of_mem he
  have hlead : (before ++ e :: after).map (·.file) <+: files :=
    hl ▸ ((List.prefix_append l _).map _).trans h.map_file_prefix
  obtain ⟨u, u', hbefore, hexamine, hact⟩ := h.exists_before hl
  have hstand : t.holds e.file.place = true := hfiles.stand _
    (hlead.subset (List.mem_map_of_mem (List.mem_append_right _ List.mem_cons_self)))
  rw [← (hbefore.fixedTree_before hfiles hlead).hinders_iff hstand (hfiles.ne_of_prefix hlead)]
  rw [LintMode.act_fix, if_neg hfindings] at hact
  rcases fixFile_cases backup (Scan.file?_of_examine hexamine) with
    ⟨hno, -⟩ | ⟨fault', v, -, hact', -⟩
  · exact hno fault
  · exact absurd (Prod.mk.inj (hact'.symm.trans hact)).2 nofun

/-- **A file that a run gets stuck at** was hindered from the start. -/
theorem Scan.Visits.hinders (hfiles : Waiting t files)
    (h : scan.Visits (.fix backup) t files l t' (.stuck e fault)) :
    e.findings ≠ [] ∧ Hinders t backup e.file fault := by
  have hlead : (l ++ e :: []).map (·.file) <+: files := h.map_file_prefix
  obtain ⟨u, hbefore, hexamine, hact⟩ := h.exists_before_stuck
  have hstand : t.holds e.file.place = true := hfiles.stand _
    (hlead.subset (List.mem_map_of_mem (List.mem_append_right _ List.mem_cons_self)))
  have hfindings : e.findings ≠ [] := by
    intro hnil
    rw [LintMode.act_fix, if_pos hnil] at hact
    exact absurd (Prod.mk.inj hact).2 nofun
  refine ⟨hfindings, ?_⟩
  rw [← (hbefore.fixedTree_before hfiles hlead).hinders_iff hstand (hfiles.ne_of_prefix hlead)]
  rw [LintMode.act_fix, if_neg hfindings] at hact
  rcases fixFile_cases backup (Scan.file?_of_examine hexamine) with
    ⟨-, hact'⟩ | ⟨fault', v, hhinders, hact', -⟩
  · exact absurd (Prod.mk.inj (hact'.symm.trans hact)).2 nofun
  · obtain rfl := Option.some.inj (Prod.mk.inj (hact'.symm.trans hact)).2
    exact hhinders

/-- Unless the file is locked that a run gets stuck at, no backup of it is made. -/
theorem Scan.Visits.fixedTree_unlocked (hfiles : Waiting t files)
    (h : scan.Visits (.fix backup) t files l t' (.stuck e fault))
    (hlocks : t.locks e.file.place = false) : FixedTree backup l l t t' := by
  have hlead : (l ++ e :: []).map (·.file) <+: files := h.map_file_prefix
  obtain ⟨hfindings, -⟩ := h.hinders hfiles
  obtain ⟨u, hbefore, hexamine, hact⟩ := h.exists_before_stuck
  have hfixed := hbefore.fixedTree_before hfiles hlead
  rw [LintMode.act_fix, if_neg hfindings] at hact
  rcases fixFile_cases backup (Scan.file?_of_examine hexamine) with
    ⟨-, hact'⟩ | ⟨fault', v, -, hact', htree⟩
  · exact absurd (Prod.mk.inj (hact'.symm.trans hact)).2 nofun
  · obtain rfl := (Prod.mk.inj (hact'.symm.trans hact)).1
    rcases htree with rfl | ⟨-, hlocked⟩
    · exact hfixed
    · have hstand : t.holds e.file.place = true := hfiles.stand _
        (hlead.subset (List.mem_map_of_mem (List.mem_append_right _ List.mem_cons_self)))
      rw [hfixed.toGrows.locks_eq hstand, hlocks] at hlocked
      exact absurd hlocked Bool.false_ne_true

end Run

end ClassGroups.Command
