import ClassGroups.Files.Path
import Mathlib.Order.Basic

/-!
# What is printed for names

A name is a text unless there is a byte in it that belongs to no character
(`Name.text?_eq_none_iff`). Other names can be printed as well if what they are printed on has
something to show for each of these bytes (`Name.shown?_eq_none_iff`), and a path can be printed
exactly if all names along it can (`Path.isShown_print_iff`). The order of names is that of the code
points of their signs, of which no two have the same one (`Sign.code_injective`).
-/

namespace ClassGroups.Files

/-! ### Names -/

namespace Name

/-- A name is a text. -/
def IsText (n : Name) : Prop := ∃ s : Text, n = ofText s

/-- A name can be printed: there is something to show for every byte in it that belongs to no
character. -/
def IsShown (showing : Showing) (n : Name) : Prop :=
  ∀ b, .byte b ∈ n → (showing b).isSome = true

variable {m n : Name} {s : Text} {showing : Showing}

theorem text?_eq_some_iff : text? n = some s ↔ n = ofText s := by
  induction n generalizing s with
  | nil =>
    rw [text?, Option.some.injEq]
    exact ⟨fun h => h ▸ rfl, fun h => (List.map_eq_nil_iff.mp h.symm).symm⟩
  | cons sign n ih =>
    cases sign with
    | byte b =>
      rw [text?]
      refine iff_of_false nofun fun h => ?_
      obtain ⟨c, s, -, hc, -⟩ := List.map_eq_cons_iff.mp h.symm
      exact absurd hc nofun
    | char c =>
      rw [text?, Option.map_eq_some_iff]
      constructor
      · rintro ⟨s, hs, rfl⟩
        rw [ih.mp hs]
        rfl
      · intro h
        obtain ⟨d, s, rfl, hd, hs⟩ := List.map_eq_cons_iff.mp h.symm
        obtain rfl := Sign.char.inj hd
        exact ⟨s, ih.mpr hs.symm, rfl⟩

theorem text?_eq_none_iff : text? n = none ↔ ¬IsText n := by
  rw [Option.eq_none_iff_forall_not_mem]
  refine ⟨fun h ⟨s, hs⟩ => h s (text?_eq_some_iff.mpr hs), fun h s hs => ?_⟩
  exact h ⟨s, text?_eq_some_iff.mp hs⟩

theorem shown?_cons_char (c : Char) :
    shown? showing (.char c :: n) = (shown? showing n).map (c :: ·) := rfl

/-- A text is printed as it is. -/
theorem shown?_ofText_append (showing : Showing) (s : Text) (n : Name) :
    shown? showing (ofText s ++ n) = (shown? showing n).map (s ++ ·) := by
  induction s with
  | nil =>
    show shown? showing n = (shown? showing n).map fun t => t
    rw [Option.map_id']
  | cons c s ih =>
    show shown? showing (.char c :: (ofText s ++ n)) = _
    rw [shown?_cons_char, ih, Option.map_map]
    rfl

theorem shown?_ofText (showing : Showing) (s : Text) : shown? showing (ofText s) = some s := by
  have h := shown?_ofText_append showing s []
  rwa [List.append_nil, shown?, Option.map_some, List.append_nil] at h

/-- **A name is printed** unless there is a byte in it for which there is nothing to show. -/
theorem shown?_eq_none_iff : shown? showing n = none ↔ ¬IsShown showing n := by
  induction n with
  | nil => exact iff_of_false nofun (not_not_intro fun b hb => absurd hb List.not_mem_nil)
  | cons sign n ih =>
    cases sign with
    | char c =>
      rw [shown?_cons_char, Option.map_eq_none_iff, ih]
      simp [IsShown]
    | byte b =>
      cases hb : showing b with
      | none => simp [IsShown, shown?, Sign.shown?, hb]
      | some t =>
        simp [IsShown, shown?, Sign.shown?, hb] at ih ⊢
        exact ih

theorem isSome_shown?_iff : (shown? showing n).isSome = true ↔ IsShown showing n := by
  rw [← not_iff_not, ← shown?_eq_none_iff, Option.not_isSome_iff_eq_none]

instance (showing : Showing) (n : Name) : Decidable (n.IsShown showing) :=
  decidable_of_iff _ isSome_shown?_iff

theorem isShown_ofText (s : Text) : IsShown showing (ofText s) :=
  isSome_shown?_iff.mp (shown?_ofText showing s ▸ rfl)

/-- Texts are what can be printed even where no byte is shown. -/
theorem isText_iff_isShown : IsText n ↔ IsShown (fun _ => none) n := by
  constructor
  · rintro ⟨s, rfl⟩
    exact isShown_ofText s
  · intro h
    induction n with
    | nil => exact ⟨[], rfl⟩
    | cons sign n ih =>
      cases sign with
      | byte b => exact absurd (h b List.mem_cons_self) Bool.false_ne_true
      | char c =>
        obtain ⟨s, rfl⟩ := ih fun b hb => h b (List.mem_cons_of_mem _ hb)
        exact ⟨c :: s, rfl⟩

theorem isShown_append :
    IsShown showing (m ++ n) ↔ IsShown showing m ∧ IsShown showing n := by
  simp only [IsShown, List.mem_append, or_imp, forall_and]

theorem isShown_flatten {l : List Name} :
    IsShown showing l.flatten ↔ ∀ n ∈ l, IsShown showing n := by
  induction l with
  | nil => exact iff_of_true (isShown_ofText []) nofun
  | cons n l ih => rw [List.flatten_cons, isShown_append, ih, List.forall_mem_cons]

/-- Names with a text between neighbours can be printed if each of them can. -/
theorem isShown_intercalate {l : List Name} (s : Text) :
    IsShown showing (List.intercalate (ofText s) l) ↔ ∀ n ∈ l, IsShown showing n := by
  unfold List.intercalate
  rw [isShown_flatten]
  induction l with
  | nil => rfl
  | cons n l ih =>
    cases l with
    | nil => rfl
    | cons m l =>
      rw [List.intersperse_cons_cons, List.forall_mem_cons, List.forall_mem_cons, ih,
        and_iff_right (isShown_ofText s)]
      exact List.forall_mem_cons.symm

end Name

/-! ### Paths -/

namespace Path

variable {showing : Showing}

/-- All names along a path can be printed. -/
def IsShown (showing : Showing) (p : Path) : Prop := ∀ n ∈ p.parts, n.IsShown showing

/-- **A path can be printed** exactly if all names along it can. -/
theorem isShown_print_iff (p : Path) : p.print.IsShown showing ↔ p.IsShown showing := by
  have hspelled : Name.IsShown showing
      (Name.ofText p.anchor ++ List.intercalate (Name.ofText "/") p.parts) ↔ p.IsShown showing := by
    rw [Name.isShown_append, and_iff_right (Name.isShown_ofText _), Name.isShown_intercalate]
    rfl
  unfold print
  split
  · next hnil =>
    rw [hnil] at hspelled
    exact iff_of_true (Name.isShown_ofText _) (hspelled.mp (Name.isShown_ofText []))
  · exact hspelled

end Path

/-! ### The order of signs -/

/-- The code points of bytes are surrogates, which no character has. -/
theorem Sign.code_injective : Function.Injective Sign.code := by
  have hchar (c : Char) (b : UInt8) : (char c).code ≠ (byte b).code := by
    have hvalid : c.toNat < 0xd800 ∨ 0xdfff < c.toNat ∧ c.toNat < 0x110000 := c.valid
    have hbyte : b.toNat < 256 := b.toNat_lt
    show c.toNat ≠ 0xdc00 + b.toNat
    omega
  intro s t h
  cases s with
  | char c =>
    cases t with
    | char d => exact congrArg char (Char.toNat_inj.mp h)
    | byte b => exact absurd h (hchar c b)
  | byte b =>
    cases t with
    | char c => exact absurd h.symm (hchar c b)
    | byte b' => exact congrArg byte (UInt8.toNat_inj.mp (Nat.add_left_cancel h))

end ClassGroups.Files
