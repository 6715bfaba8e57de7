import ClassGroups.Proofs.Jsx.Candidates
import Mathlib.Data.List.Pairwise

/-!
# What the two scans return

The scan for a shape walks through a source from left to right and jumps over everything that
overlaps with what it has found before. So what one scan finds is free of overlaps, whatever the
source and the names of the attributes are (`eq_or_stop_le_of_kind_eq`). The class lists of a source
are what the two scans find in tags, in the order of their starts (`literals_eq_reported`); the
scans do not look at each other.

Each class list comes from the pieces of a match that stand in the source
(`exists_match_of_mem_scanned`), so its places lead back to the text of the source.
-/

namespace ClassGroups.Jsx

/-! ### One scan -/

section Scan

variable {scan : Text → Option Occurrence} {place resume : Nat} {afterBlank : Bool} {s : Text}

/-- A scan finds a part of what its scanner accepts. -/
theorem occurrencesFrom_sublist :
    (occurrencesFrom scan place resume afterBlank s).Sublist
      (acceptedAt scan (startsFrom place afterBlank s)) := by
  induction s generalizing place resume afterBlank with
  | nil => exact List.Sublist.refl _
  | cons c s ih =>
    unfold acceptedAt at ih ⊢
    rw [occurrencesFrom, startsFrom, List.filterMap_append]
    split
    · next o ho =>
      -- the scanner is asked only after white space, where it accepts
      obtain ⟨hask, hscan⟩ : (afterBlank = true ∧ resume ≤ place) ∧ scan (c :: s) = some o := by
        simpa using ho
      simpa [hask.1, hscan] using ih
    · exact ih.trans (List.sublist_append_right _ _)

/-- Nothing is found before the place where the scan looks next. -/
theorem le_of_mem_occurrencesFrom {x : Nat × Occurrence}
    (h : x ∈ occurrencesFrom scan place resume afterBlank s) : resume ≤ x.1 := by
  induction s generalizing place resume afterBlank with
  | nil => exact absurd h List.not_mem_nil
  | cons c s ih =>
    rw [occurrencesFrom] at h
    split at h
    · next o ho =>
      obtain ⟨hask, -⟩ : (afterBlank = true ∧ resume ≤ place) ∧ scan (c :: s) = some o := by
        simpa using ho
      rcases List.mem_cons.mp h with rfl | h
      · exact hask.2
      · have hle := ih h
        omega
    · exact ih h

/-- **One scan is free of overlaps**: what it finds ends before the next name. -/
theorem pairwise_occurrencesFrom :
    (occurrencesFrom scan place resume afterBlank s).Pairwise
      fun x y => x.1 + x.2.length ≤ y.1 := by
  induction s generalizing place resume afterBlank with
  | nil => exact List.Pairwise.nil
  | cons c s ih =>
    rw [occurrencesFrom]
    split
    · exact List.pairwise_cons.mpr ⟨fun y hy => le_of_mem_occurrencesFrom hy, ih⟩
    · exact ih

end Scan

/-! ### Pieces of a source -/

/-- A piece that stands in a text at a place. -/
def StandsAt (s : Text) (place : Nat) (piece : Text) : Prop := piece <+: s.drop place

section StandsAt

variable {s u v : Text} {place i : Nat} {c : Char}

theorem standsAt_append_iff :
    StandsAt s place (u ++ v) ↔ StandsAt s place u ∧ StandsAt s (place + u.length) v := by
  unfold StandsAt
  constructor
  · rintro ⟨rest, h⟩
    rw [List.append_assoc] at h
    refine ⟨⟨_, h⟩, rest, ?_⟩
    rw [← List.drop_drop, ← h, List.drop_left]
  · rintro ⟨⟨rest, h⟩, hv⟩
    rw [← List.drop_drop, ← h, List.drop_left] at hv
    obtain ⟨rest', rfl⟩ := hv
    exact ⟨rest', by rw [List.append_assoc, h]⟩

theorem StandsAt.left (h : StandsAt s place (u ++ v)) : StandsAt s place u :=
  (standsAt_append_iff.mp h).1

theorem StandsAt.right (h : StandsAt s place (u ++ v)) : StandsAt s (place + u.length) v :=
  (standsAt_append_iff.mp h).2

/-- A piece takes up as many characters of the text as it has. -/
theorem StandsAt.add_length_le (h : StandsAt s place u) (hu : u ≠ []) :
    place + u.length ≤ s.length := by
  have hlength := h.length_le
  have hpos := List.length_pos_of_ne_nil hu
  rw [List.length_drop] at hlength
  omega

/-- A character at a place that a piece takes up is one of the piece. -/
theorem StandsAt.mem (h : StandsAt s place u) (hc : s[i]? = some c) (hle : place ≤ i)
    (hlt : i < place + u.length) : c ∈ u := by
  obtain ⟨rest, h⟩ := h
  have hat : (u ++ rest)[i - place]? = some c := by
    rw [h, List.getElem?_drop, ← hc]
    congr 1
    omega
  rw [List.getElem?_append_left (by omega)] at hat
  exact List.mem_of_getElem? hat

theorem StandsAt.getElem?_eq (h : StandsAt s place (c :: u)) : s[place]? = some c := by
  obtain ⟨rest, h⟩ := h
  rw [← List.head?_drop, ← h]
  rfl

/-- The text between the ends of a piece is the piece. -/
theorem StandsAt.take_drop_eq (h : StandsAt s place u) :
    (s.take (place + u.length)).drop place = u := by
  obtain ⟨rest, h⟩ := h
  rw [List.drop_take, ← h, Nat.add_sub_cancel_left, List.take_left]

end StandsAt

/-! ### Both scans -/

/-- What the scan for one shape finds. -/
def scannedOf (names : List Text) (callee : Text) (kind : LiteralKind) (source : Text) :
    List Candidate :=
  (occurrencesFrom (shape names callee kind) 0 0 false source).map fun (p, o) => ⟨kind, p, o⟩

/-- What the two scans find, in tags or not. -/
def scanned (names : List Text) (callee source : Text) : List Candidate :=
  scannedOf names callee .attributeValue source ++ scannedOf names callee .helperCall source

/-- What is found in tags. -/
def reported (names : List Text) (callee source : Text) : List Candidate :=
  (scanned names callee source).filter fun c => inTag source c.place

section Scanned

variable {names attributes : List Text} {callee source : Text} {kind : LiteralKind}
  {c d : Candidate} {l : ClassLiteral}

theorem mem_reported_iff :
    c ∈ reported names callee source
      ↔ c ∈ scanned names callee source ∧ inTag source c.place = true :=
  List.mem_filter

theorem kind_eq_of_mem_scannedOf (h : c ∈ scannedOf names callee kind source) : c.kind = kind := by
  obtain ⟨x, -, rfl⟩ := List.mem_map.mp h
  rfl

theorem mem_scannedOf_of_mem_scanned (h : c ∈ scanned names callee source) :
    c ∈ scannedOf names callee c.kind source := by
  rcases List.mem_append.mp h with h | h <;>
    exact (kind_eq_of_mem_scannedOf h).symm ▸ h

theorem mem_scanned_of_mem_scannedOf (h : c ∈ scannedOf names callee kind source) :
    c ∈ scanned names callee source := by
  cases kind with
  | attributeValue => exact List.mem_append_left _ h
  | helperCall => exact List.mem_append_right _ h

theorem mem_candidates_of_mem_scanned (hc : isIdentifier callee = true)
    (h : c ∈ scanned names callee source) : c ∈ candidates names callee source := by
  obtain ⟨⟨p, o⟩, hx, heq⟩ := List.mem_map.mp (mem_scannedOf_of_mem_scanned h)
  obtain ⟨rest, hrest, hshape⟩ := mem_acceptedAt_iff.mp (occurrencesFrom_sublist.subset hx)
  refine (mem_candidates_iff hc).mpr ⟨rest, ?_, ?_⟩
  · rw [← heq]
    exact (mem_starts_iff.mp hrest).2
  · rw [← heq]
    exact hshape

/-- What one scan finds ends before the next name. -/
theorem pairwise_scannedOf :
    (scannedOf names callee kind source).Pairwise fun c d => c.stop ≤ d.place :=
  List.Pairwise.map _ (fun _ _ h => h) pairwise_occurrencesFrom

/-- Of two things that one scan finds, one ends before the name of the other. -/
theorem eq_or_stop_le_of_kind_eq (hcmem : c ∈ scanned names callee source)
    (hdmem : d ∈ scanned names callee source) (hkind : c.kind = d.kind) :
    c = d ∨ c.stop ≤ d.place ∨ d.stop ≤ c.place := by
  have hd := mem_scannedOf_of_mem_scanned hdmem
  rw [← hkind] at hd
  by_cases heq : c = d
  · exact Or.inl heq
  · have hsymm : Std.Symm fun c d : Candidate => c.stop ≤ d.place ∨ d.stop ≤ c.place :=
      ⟨fun _ _ => Or.symm⟩
    have hpairwise : (scannedOf names callee c.kind source).Pairwise
        fun c d => c.stop ≤ d.place ∨ d.stop ≤ c.place := pairwise_scannedOf.imp Or.inl
    exact Or.inr (hpairwise.forall (mem_scannedOf_of_mem_scanned hcmem) hd heq)

/-- The class lists of one shape are what its scan finds in tags. -/
theorem literalsOf_eq_map_scannedOf (names : List Text) (callee : Text) (kind : LiteralKind)
    (source : Text) :
    literalsOf kind (shape names callee kind) source
      = ((scannedOf names callee kind source).filter fun c => inTag source c.place).map
          (·.literal) := by
  rw [literalsOf, scannedOf, List.filter_map, List.map_map]
  rfl

/-- **The class lists of a source** are what is found in tags, in the order of the starts. -/
theorem literals_eq_reported :
    literals attributes callee source
      = ((reported (namesTried attributes) callee source).map (·.literal)).mergeSort
          fun a b => a.start ≤ b.start := by
  rw [reported, scanned, List.filter_append, List.map_append, ← literalsOf_eq_map_scannedOf,
    ← literalsOf_eq_map_scannedOf]
  rfl

theorem mem_literals_iff_reported :
    l ∈ literals attributes callee source
      ↔ ∃ c ∈ reported (namesTried attributes) callee source, c.literal = l := by
  rw [literals_eq_reported, List.mem_mergeSort, List.mem_map]

theorem pairwise_start_le :
    (literals attributes callee source).Pairwise fun a b => a.start ≤ b.start := by
  rw [literals_eq_reported]
  exact pairwise_mergeSort_key (· ≤ ·) ClassLiteral.start _

/-- Nothing has to be sorted if all values come before all calls. -/
theorem literals_eq_of_pairwise
    (h : ((reported (namesTried attributes) callee source).map (·.literal)).Pairwise
      fun a b => a.start ≤ b.start) :
    literals attributes callee source
      = (reported (namesTried attributes) callee source).map (·.literal) := by
  rw [literals_eq_reported]
  exact List.mergeSort_of_pairwise (h.imp fun hle => decide_eq_true hle)

variable (hc : isIdentifier callee = true)

include hc

/-- What is found stands in the source with its pieces. -/
theorem exists_match_of_mem_scanned (h : c ∈ scanned names callee source) (hkind : c.kind = kind) :
    ∃ m : Match names callee kind, StandsAt source c.place m.text ∧ m.occurrence = c.found := by
  subst hkind
  obtain ⟨rest, hrest, hshape⟩ := (mem_candidates_iff hc).mp (mem_candidates_of_mem_scanned hc h)
  obtain ⟨m, rest', hm, hfound⟩ := exists_match_of_shape_eq_some hc hshape
  exact ⟨m, ⟨rest', by rw [← hrest.eq_drop, hm]⟩, hfound⟩

/-- The name stands before the class list, which is not empty. -/
theorem place_lt_start_of_mem_scanned (h : c ∈ scanned names callee source) :
    c.place < c.literal.start ∧ c.literal.start < c.literal.stop ∧ c.literal.stop ≤ c.stop ∧
      c.stop ≤ source.length := by
  obtain ⟨m, hm, hfound⟩ := exists_match_of_mem_scanned hc h rfl
  have hlength := hm.add_length_le m.text_ne_nil
  have hlt := m.start_lt_stop
  have hle := m.stop_le_length
  have hhead : 0 < m.head.length := by
    obtain ⟨before, after, -, -, hhead⟩ := m.assignment
    rw [hhead, List.length_append, List.length_cons]
    omega
  simp only [Candidate.literal, Candidate.stop, ← hfound]
  simp only [Match.occurrence] at hlt hle ⊢
  omega

/-- **A class list is a nonempty part of the source**, whatever the names are. -/
theorem start_lt_stop_of_mem_literals (h : l ∈ literals attributes callee source) :
    l.start < l.stop ∧ l.stop ≤ source.length := by
  obtain ⟨c, hcmem, rfl⟩ := mem_literals_iff_reported.mp h
  have hplaces := place_lt_start_of_mem_scanned hc (mem_reported_iff.mp hcmem).1
  omega

end Scanned

end ClassGroups.Jsx
