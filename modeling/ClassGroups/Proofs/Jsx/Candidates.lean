import ClassGroups.Grouping
import ClassGroups.Proofs.Jsx.Shape
import Mathlib.Data.List.Nodup

/-!
# Candidates

A candidate is a class list after the name of an attribute, whether or not it stands in a tag. The
scan of a source for class lists walks from candidate to candidate and jumps over those that overlap
with one before. In a source whose candidates are `Apart` there is nothing to jump over:

* `occurrencesFrom_eq` — the scan for one shape returns all that the scanner accepts;
* `mem_literals_iff` — the class lists of a source are its candidates in tags;
* `pairwise_literals` — they come in the order of the source, and no two start at the same place.

A `Regular` source has candidates that are apart, strings that are closed, and no classes that are
written like attributes. It is for regular sources that the effect of a fix can be told.
-/

namespace ClassGroups.Jsx

/-! ### Where a name may start -/

/-- A place right after white space, with the text from there on. -/
def IsStart (s : Text) (place : Nat) (rest : Text) : Prop :=
  ∃ before c, isBlank c = true ∧ s = before ++ c :: rest ∧ place = before.length + 1

/-- The places right after white space, each with the text from there on. The walk is at `place` and
knows whether the character before is white space. -/
def startsFrom (place : Nat) (afterBlank : Bool) : Text → List (Nat × Text)
  | [] => []
  | c :: s =>
    (if afterBlank then [(place, c :: s)] else []) ++ startsFrom (place + 1) (isBlank c) s

/-- The places of a source where a name may start. -/
def starts (source : Text) : List (Nat × Text) := startsFrom 0 false source

section Starts

variable {place p : Nat} {afterBlank : Bool} {s t rest source : Text} {c : Char}

theorem isStart_nil : ¬IsStart [] p rest := by
  rintro ⟨before, c, -, h, -⟩
  exact absurd h (by simp)

theorem isStart_cons_iff :
    IsStart (c :: s) p rest
      ↔ (isBlank c = true ∧ rest = s ∧ p = 1) ∨ ∃ p', IsStart s p' rest ∧ p = p' + 1 := by
  constructor
  · rintro ⟨before, d, hd, heq, rfl⟩
    cases before with
    | nil =>
      obtain ⟨rfl, rfl⟩ := List.cons.inj heq
      exact Or.inl ⟨hd, rfl, rfl⟩
    | cons e before =>
      obtain ⟨rfl, rfl⟩ := List.cons.inj heq
      exact Or.inr ⟨_, ⟨before, d, hd, rfl, rfl⟩, rfl⟩
  · rintro (⟨hblank, rfl, rfl⟩ | ⟨p', ⟨before, d, hd, rfl, rfl⟩, rfl⟩)
    · exact ⟨[], c, hblank, rfl, rfl⟩
    · exact ⟨c :: before, d, hd, rfl, rfl⟩

/-- A name may start in the first or in the second of two texts. -/
theorem isStart_append_iff :
    IsStart (s ++ t) p rest
      ↔ (∃ a, IsStart s p a ∧ rest = a ++ t) ∨ ∃ p', IsStart t p' rest ∧ p = s.length + p' := by
  induction s generalizing p with
  | nil => simp [isStart_nil]
  | cons c s ih =>
    rw [List.cons_append, isStart_cons_iff, List.length_cons]
    simp only [isStart_cons_iff, ih]
    constructor
    · rintro (⟨hc, rfl, rfl⟩ | ⟨p', ⟨a, ha, rfl⟩ | ⟨p'', h, rfl⟩, rfl⟩)
      · exact Or.inl ⟨s, Or.inl ⟨hc, rfl, rfl⟩, rfl⟩
      · exact Or.inl ⟨a, Or.inr ⟨p', ha, rfl⟩, rfl⟩
      · exact Or.inr ⟨p'', h, by omega⟩
    · rintro (⟨a, ⟨hc, rfl, rfl⟩ | ⟨p', ha, rfl⟩, rfl⟩ | ⟨p'', h, rfl⟩)
      · exact Or.inl ⟨hc, rfl, rfl⟩
      · exact Or.inr ⟨p', Or.inl ⟨a, ha, rfl⟩, rfl⟩
      · exact Or.inr ⟨s.length + p'', Or.inr ⟨p'', h, rfl⟩, by omega⟩

theorem IsStart.eq_drop (h : IsStart s p rest) : rest = s.drop p := by
  obtain ⟨before, c, -, rfl, rfl⟩ := h
  rw [← List.singleton_append, ← List.append_assoc, List.drop_left' (by simp)]

theorem IsStart.mem (h : IsStart s p rest) (hc : c ∈ rest) : c ∈ s := by
  obtain ⟨before, d, -, rfl, -⟩ := h
  simp [hc]

theorem IsStart.pos (h : IsStart s p rest) : 0 < p := by
  obtain ⟨before, c, -, -, rfl⟩ := h
  exact Nat.succ_pos _

/-- White space is not the end of a text that ends in something else. -/
theorem IsStart.exists_append_singleton (h : IsStart (s ++ [c]) p rest)
    (hc : isBlank c = false) : ∃ a, rest = a ++ [c] := by
  rcases isStart_append_iff.mp h with ⟨a, -, rfl⟩ | ⟨p', h, -⟩
  · exact ⟨a, rfl⟩
  · rcases isStart_cons_iff.mp h with ⟨hblank, -, -⟩ | ⟨p'', h, -⟩
    · exact absurd hblank (by simp [hc])
    · exact absurd h isStart_nil

theorem IsStart.add_length (h : IsStart s p rest) : p + rest.length = s.length := by
  obtain ⟨before, c, -, rfl, rfl⟩ := h
  rw [List.length_append, List.length_cons]
  omega

theorem mem_startsFrom_iff :
    (p, rest) ∈ startsFrom place afterBlank s
      ↔ rest ≠ [] ∧ ((afterBlank = true ∧ p = place ∧ rest = s) ∨
        ∃ p', IsStart s p' rest ∧ p = place + p') := by
  induction s generalizing place afterBlank with
  | nil =>
    simp only [startsFrom, List.not_mem_nil, false_iff]
    rintro ⟨hne, ⟨-, -, rfl⟩ | ⟨p', h, -⟩⟩
    · exact hne rfl
    · exact isStart_nil h
  | cons d s ih =>
    rw [startsFrom, List.mem_append, ih]
    simp only [isStart_cons_iff]
    -- the walk lists this place if the character before is white space, then the places behind it
    constructor
    · rintro (h | ⟨hne, ⟨hd, rfl, rfl⟩ | ⟨p', h, rfl⟩⟩)
      · cases afterBlank with
        | false => exact absurd h (by simp)
        | true =>
          obtain ⟨rfl, rfl⟩ := Prod.mk.inj (List.mem_singleton.mp h)
          exact ⟨List.cons_ne_nil _ _, Or.inl ⟨rfl, rfl, rfl⟩⟩
      · exact ⟨hne, Or.inr ⟨1, Or.inl ⟨hd, rfl, rfl⟩, rfl⟩⟩
      · exact ⟨hne, Or.inr ⟨p' + 1, Or.inr ⟨p', h, rfl⟩, by omega⟩⟩
    · rintro ⟨hne, ⟨rfl, rfl, rfl⟩ | ⟨p', ⟨hd, rfl, rfl⟩ | ⟨p'', h, rfl⟩, rfl⟩⟩
      · exact Or.inl (by simp)
      · exact Or.inr ⟨hne, Or.inl ⟨hd, rfl, rfl⟩⟩
      · exact Or.inr ⟨hne, Or.inr ⟨p'', h, by omega⟩⟩

theorem mem_starts_iff : (p, rest) ∈ starts source ↔ rest ≠ [] ∧ IsStart source p rest := by
  rw [starts, mem_startsFrom_iff]
  simp

theorem le_of_mem_startsFrom (h : (p, rest) ∈ startsFrom place afterBlank s) : place ≤ p := by
  obtain ⟨-, ⟨-, rfl, -⟩ | ⟨p', -, rfl⟩⟩ := mem_startsFrom_iff.mp h
  · exact Nat.le_refl _
  · omega

theorem pairwise_startsFrom :
    (startsFrom place afterBlank s).Pairwise fun x y => x.1 < y.1 := by
  induction s generalizing place afterBlank with
  | nil => exact List.Pairwise.nil
  | cons c s ih =>
    rw [startsFrom, List.pairwise_append]
    -- the place of the walk is listed before those behind it
    refine ⟨?_, ih, ?_⟩
    · cases afterBlank <;> simp
    · rintro ⟨p, rest⟩ hp ⟨p', rest'⟩ hp'
      cases afterBlank with
      | false => exact absurd hp (by simp)
      | true =>
        obtain ⟨rfl, -⟩ := Prod.mk.inj (List.mem_singleton.mp hp)
        exact le_of_mem_startsFrom hp'

end Starts

/-! ### The scan for one shape -/

/-- What a scanner accepts at given places. -/
def acceptedAt (scan : Text → Option Occurrence) (places : List (Nat × Text)) :
    List (Nat × Occurrence) :=
  places.filterMap fun (p, rest) => (scan rest).map (p, ·)

theorem mem_acceptedAt_iff {scan : Text → Option Occurrence} {places : List (Nat × Text)} {p : Nat}
    {o : Occurrence} :
    (p, o) ∈ acceptedAt scan places ↔ ∃ rest, (p, rest) ∈ places ∧ scan rest = some o := by
  simp only [acceptedAt, List.mem_filterMap, Prod.exists, Option.map_eq_some_iff, Prod.mk.injEq]
  constructor
  · rintro ⟨p', rest, hmem, o', ho, rfl, rfl⟩
    exact ⟨rest, hmem, ho⟩
  · rintro ⟨rest, hmem, ho⟩
    exact ⟨p, rest, hmem, o, ho, rfl, rfl⟩

/-- What a scanner accepts is listed from left to right. -/
theorem pairwise_acceptedAt (scan : Text → Option Occurrence) (source : Text) :
    (acceptedAt scan (starts source)).Pairwise fun x y => x.1 < y.1 := by
  refine pairwise_startsFrom.filterMap _ ?_
  rintro ⟨p, rest⟩ ⟨p', rest'⟩ hlt x hx y hy
  obtain ⟨o, -, rfl⟩ := Option.map_eq_some_iff.mp hx
  obtain ⟨o', -, rfl⟩ := Option.map_eq_some_iff.mp hy
  exact hlt

/-- **Nothing is jumped over**: if what a scanner accepts is free of overlaps, the scan returns all
of it. The induction carries along that the walk may look for a name at every place that is left. -/
theorem occurrencesFrom_eq {scan : Text → Option Occurrence} {place resume : Nat}
    {afterBlank : Bool} {s : Text}
    (hresume : ∀ x ∈ acceptedAt scan (startsFrom place afterBlank s), resume ≤ x.1)
    (hapart : (acceptedAt scan (startsFrom place afterBlank s)).Pairwise
      fun x y => x.1 + x.2.length ≤ y.1) :
    occurrencesFrom scan place resume afterBlank s
      = acceptedAt scan (startsFrom place afterBlank s) := by
  induction s generalizing place resume afterBlank with
  | nil => rfl
  | cons c s ih =>
    unfold acceptedAt at hresume hapart ih ⊢
    rw [startsFrom, List.filterMap_append] at hresume hapart ⊢
    have hrest := fun x hx => hresume x (List.mem_append_right _ hx)
    have hapart' := (List.pairwise_append.mp hapart).2.1
    rw [occurrencesFrom]
    cases afterBlank with
    | false => simpa using ih hrest hapart'
    | true =>
      cases hscan : scan (c :: s) with
      | none => simpa [hscan] using ih hrest hapart'
      | some o =>
        -- the walk resumes behind `o`, where the next one starts at the earliest
        have hle : resume ≤ place := hresume (place, o) (by simp [hscan])
        have hnext := (List.pairwise_append.mp hapart).2.2 (place, o) (by simp [hscan])
        simpa [hscan, hle] using ih hnext hapart'

/-! ### Candidates -/

/-- A class list after the name of an attribute, whether or not it stands in a tag. -/
structure Candidate where
  /-- The shape in which it stands. -/
  kind : LiteralKind
  /-- The place of the name. -/
  place : Nat
  /-- What the scanner returned there. -/
  found : Occurrence
deriving DecidableEq, Repr

/-- The place where everything that belongs to a candidate ends. -/
def Candidate.stop (c : Candidate) : Nat := c.place + c.found.length

/-- The class list of a candidate. -/
def Candidate.literal (c : Candidate) : ClassLiteral :=
  ⟨c.kind, c.place + c.found.start, c.place + c.found.stop, c.found.value⟩

/-- The candidates of one shape. -/
def candidatesOf (names : List Text) (callee : Text) (kind : LiteralKind) (source : Text) :
    List Candidate :=
  (acceptedAt (shape names callee kind) (starts source)).map fun (p, o) => ⟨kind, p, o⟩

/-- The candidates of a source. -/
def candidates (names : List Text) (callee source : Text) : List Candidate :=
  candidatesOf names callee .attributeValue source ++ candidatesOf names callee .helperCall source

/-- **Candidates that are apart**: each ends before the next one starts. -/
def Apart (names : List Text) (callee source : Text) : Prop :=
  ∀ c ∈ candidates names callee source, ∀ d ∈ candidates names callee source,
    c.place < d.place → c.stop ≤ d.place

section Candidates

variable {names : List Text} {callee source : Text} {kind : LiteralKind} {c d : Candidate}

theorem mem_candidatesOf_iff :
    c ∈ candidatesOf names callee kind source
      ↔ c.kind = kind ∧
        ∃ rest, (c.place, rest) ∈ starts source ∧ shape names callee kind rest = some c.found := by
  simp only [candidatesOf, List.mem_map, Prod.exists, mem_acceptedAt_iff]
  constructor
  · rintro ⟨p, o, ⟨rest, hmem, ho⟩, rfl⟩
    exact ⟨rfl, rest, hmem, ho⟩
  · rintro ⟨rfl, rest, hmem, ho⟩
    exact ⟨c.place, c.found, ⟨rest, hmem, ho⟩, rfl⟩

variable (hn : ∀ name ∈ names, IsName name) (hc : isIdentifier callee = true)

include hc in
/-- **The candidates of a source** are the places after white space where a scanner accepts. -/
theorem mem_candidates_iff :
    c ∈ candidates names callee source
      ↔ ∃ rest, IsStart source c.place rest ∧ shape names callee c.kind rest = some c.found := by
  have hkind : c ∈ candidates names callee source
      ↔ ∃ rest, (c.place, rest) ∈ starts source ∧
        shape names callee c.kind rest = some c.found := by
    rw [candidates, List.mem_append, mem_candidatesOf_iff, mem_candidatesOf_iff]
    constructor
    · rintro (⟨hkind, h⟩ | ⟨hkind, h⟩) <;> rwa [hkind]
    · intro h
      cases hkind : c.kind with
      | attributeValue => exact Or.inl ⟨rfl, hkind ▸ h⟩
      | helperCall => exact Or.inr ⟨rfl, hkind ▸ h⟩
  rw [hkind]
  refine exists_congr fun rest => and_congr_left fun hshape => ?_
  rw [mem_starts_iff, and_iff_right (ne_nil_of_shape_eq_some hc hshape)]

include hn hc

theorem eq_of_place_eq (hmem : c ∈ candidates names callee source)
    (hmem' : d ∈ candidates names callee source) (hplace : c.place = d.place) : c = d := by
  obtain ⟨rest, hrest, hshape⟩ := (mem_candidates_iff hc).mp hmem
  obtain ⟨rest', hrest', hshape'⟩ := (mem_candidates_iff hc).mp hmem'
  -- both are found in the same text, where one shape and one occurrence is found at most
  obtain rfl : rest = rest' := by rw [hrest.eq_drop, hrest'.eq_drop, hplace]
  have hkind := kind_unique hn hc hshape hshape'
  obtain ⟨kind, place, found⟩ := c
  obtain ⟨kind', place', found'⟩ := d
  obtain rfl : kind = kind' := hkind
  obtain rfl : place = place' := hplace
  obtain rfl : found = found' := Option.some.inj (hshape.symm.trans hshape')
  rfl

/-- The part to be replaced is not empty and lies within the candidate. -/
theorem start_lt_stop_of_mem (hmem : c ∈ candidates names callee source) :
    c.place ≤ c.literal.start ∧ c.literal.start < c.literal.stop ∧ c.literal.stop ≤ c.stop := by
  obtain ⟨rest, -, hshape⟩ := (mem_candidates_iff hc).mp hmem
  obtain ⟨m, -, -, hfound⟩ := (shape_eq_some_iff hn hc).mp hshape
  have hlt := m.start_lt_stop
  have hle := m.stop_le_length
  simp only [Candidate.literal, Candidate.stop, ← hfound]
  omega

theorem Apart.trichotomy (hapart : Apart names callee source)
    (hmem : c ∈ candidates names callee source) (hmem' : d ∈ candidates names callee source) :
    c = d ∨ c.literal.stop ≤ d.literal.start ∨ d.literal.stop ≤ c.literal.start := by
  have hcstart := start_lt_stop_of_mem hn hc hmem
  have hdstart := start_lt_stop_of_mem hn hc hmem'
  rcases Nat.lt_trichotomy c.place d.place with hlt | heq | hgt
  · have hstop := hapart c hmem d hmem' hlt
    omega
  · exact Or.inl (eq_of_place_eq hn hc hmem hmem' heq)
  · have hstop := hapart d hmem' c hmem hgt
    omega

/-- Candidates that are apart are told by where their part to be replaced starts. -/
theorem Apart.eq_of_start_eq (hapart : Apart names callee source)
    (hmem : c ∈ candidates names callee source) (hmem' : d ∈ candidates names callee source)
    (hstart : c.literal.start = d.literal.start) : c = d := by
  have hcstart := start_lt_stop_of_mem hn hc hmem
  have hdstart := start_lt_stop_of_mem hn hc hmem'
  rcases hapart.trichotomy hn hc hmem hmem' with h | h | h
  · exact h
  · omega
  · omega

end Candidates

/-! ### The class lists of a source -/

/-- Sorting by a number puts a list in the order of the number. -/
theorem pairwise_mergeSort_key {α : Type} (r : Nat → Nat → Prop) [DecidableRel r] [IsTrans Nat r]
    [Std.Total r] (key : α → Nat) (l : List α) :
    (l.mergeSort fun a b => r (key a) (key b)).Pairwise fun a b => r (key a) (key b) := by
  refine (List.pairwise_mergeSort ?_ ?_ l).imp fun h => of_decide_eq_true h
  · intro a b c hab hbc
    exact decide_eq_true (trans_of r (of_decide_eq_true hab) (of_decide_eq_true hbc))
  · intro a b
    simpa using total_of r (key a) (key b)

/-- The names that are tried: no names are as good as the empty name. -/
def namesTried (attributes : List Text) : List Text :=
  if attributes.isEmpty then [[]] else attributes

theorem forall_namesTried {attributes : List Text} {P : Text → Prop} (hnil : P [])
    (h : ∀ name ∈ attributes, P name) : ∀ name ∈ namesTried attributes, P name := by
  unfold namesTried
  split
  · intro name hname
    obtain rfl := List.mem_singleton.mp hname
    exact hnil
  · exact h

theorem isName_of_mem_namesTried {attributes : List Text} (h : ∀ name ∈ attributes, IsName name) :
    ∀ name ∈ namesTried attributes, IsName name :=
  forall_namesTried (fun _ hc => absurd hc List.not_mem_nil) h

/-- The class lists of the two shapes, by the places where they start. -/
theorem literals_eq_mergeSort (attributes : List Text) (callee source : Text) :
    literals attributes callee source
      = (literalsOf .attributeValue (shape (namesTried attributes) callee .attributeValue) source
          ++ literalsOf .helperCall (shape (namesTried attributes) callee .helperCall) source
        ).mergeSort fun a b => a.start ≤ b.start := rfl

section Literals

variable {attributes : List Text} {callee source : Text}

variable (hn : ∀ name ∈ namesTried attributes, IsName name) (hc : isIdentifier callee = true)

include hc

theorem literalsOf_eq (hapart : Apart (namesTried attributes) callee source) (kind : LiteralKind) :
    literalsOf kind (shape (namesTried attributes) callee kind) source
      = ((candidatesOf (namesTried attributes) callee kind source).filter
          fun c => inTag source c.place).map (·.literal) := by
  have hcandidate {x : Nat × Occurrence}
      (hx : x ∈ acceptedAt (shape (namesTried attributes) callee kind) (starts source)) :
      ⟨kind, x.1, x.2⟩ ∈ candidates (namesTried attributes) callee source :=
    (mem_candidates_iff hc).mpr <| by
      obtain ⟨rest, hrest, hshape⟩ := mem_acceptedAt_iff.mp hx
      exact ⟨rest, (mem_starts_iff.mp hrest).2, hshape⟩
  have hpairwise := (pairwise_acceptedAt (shape (namesTried attributes) callee kind)
    source).imp_of_mem fun hx hy hlt => hapart _ (hcandidate hx) _ (hcandidate hy) hlt
  rw [literalsOf, occurrencesFrom_eq (fun _ _ => Nat.zero_le _) hpairwise, candidatesOf,
    List.filter_map, List.map_map]
  rfl

/-- The class lists of a source are its candidates in tags, by the places where they start. -/
theorem literals_eq (hapart : Apart (namesTried attributes) callee source) :
    literals attributes callee source
      = (((candidates (namesTried attributes) callee source).filter
          fun c => inTag source c.place).map (·.literal)).mergeSort
            fun a b => a.start ≤ b.start := by
  rw [candidates, List.filter_append, List.map_append, ← literalsOf_eq hc hapart,
    ← literalsOf_eq hc hapart, literals_eq_mergeSort]

/-- **The class lists of a source** are its candidates in tags. -/
theorem mem_literals_iff (hapart : Apart (namesTried attributes) callee source)
    {l : ClassLiteral} :
    l ∈ literals attributes callee source
      ↔ ∃ c ∈ candidates (namesTried attributes) callee source,
        inTag source c.place = true ∧ c.literal = l := by
  simp only [literals_eq hc hapart, List.mem_mergeSort, List.mem_map, List.mem_filter, and_assoc]

omit hc in
theorem nodup_candidates (names : List Text) (callee source : Text) :
    (candidates names callee source).Nodup := by
  have hof (kind : LiteralKind) : (candidatesOf names callee kind source).Nodup := by
    -- candidates of one shape differ in their places, those of two shapes in the shape
    rw [candidatesOf]
    refine List.Pairwise.map _ (R := fun x y => x.1 < y.1) ?_ (pairwise_acceptedAt _ _)
    rintro ⟨p, o⟩ ⟨p', o'⟩ hlt heq
    exact absurd (congrArg Candidate.place heq) (Nat.ne_of_lt hlt)
  rw [candidates, List.nodup_append]
  refine ⟨hof _, hof _, fun c hcmem d hdmem heq => ?_⟩
  have hkind := (mem_candidatesOf_iff.mp hcmem).1
  rw [heq, (mem_candidatesOf_iff.mp hdmem).1] at hkind
  exact absurd hkind (by decide)

include hn in
/-- **The class lists come in the order of the source** and do not overlap. -/
theorem pairwise_literals (hapart : Apart (namesTried attributes) callee source) :
    (literals attributes callee source).Pairwise fun a b => a.stop ≤ b.start := by
  have hsorted : (literals attributes callee source).Pairwise fun a b => a.start ≤ b.start := by
    rw [literals_eq hc hapart]
    exact pairwise_mergeSort_key (· ≤ ·) ClassLiteral.start _
  have hnodup : (literals attributes callee source).Nodup := by
    rw [literals_eq hc hapart, (List.mergeSort_perm _ _).nodup_iff]
    refine List.Nodup.map_on ?_ ((nodup_candidates _ _ _).filter _)
    intro c hcmem d hdmem heq
    exact hapart.eq_of_start_eq hn hc (List.mem_filter.mp hcmem).1 (List.mem_filter.mp hdmem).1
      (congrArg _ heq)
  -- of two candidates that are apart, the one that starts first ends first
  refine (hsorted.and hnodup).imp_of_mem ?_
  rintro a b ha hb ⟨hle, hne⟩
  obtain ⟨c, hcmem, -, rfl⟩ := (mem_literals_iff hc hapart).mp ha
  obtain ⟨d, hdmem, -, rfl⟩ := (mem_literals_iff hc hapart).mp hb
  have hdstart := start_lt_stop_of_mem hn hc hdmem
  rcases hapart.trichotomy hn hc hcmem hdmem with heq | hstop | hstop
  · exact absurd (congrArg _ heq) hne
  · exact hstop
  · omega

end Literals

/-! ### Regular sources -/

/-- A class that is not written like an attribute: it starts neither with an equals sign nor with a
name and an equals sign. -/
def IsPlain (names : List Text) (token : Text) : Prop :=
  ¬['='] <+: token ∧ ∀ name ∈ names, ¬name ++ ['='] <+: token

/-- A text whose tokens are plain. -/
def PlainWords (names : List Text) (s : Text) : Prop := ∀ t ∈ tokenize s, IsPlain names t

/-- Whether a string that is assigned to a name is closed, if a text starts so. -/
def closesString (name s : Text) : Bool :=
  match afterEquals? name s with
  | some (q :: t) => !(q == '"' || q == '\'') || t.contains q
  | _ => true

theorem closesString_iff {name s : Text} :
    closesString name s = true
      ↔ ∀ q t, afterEquals? name s = some (q :: t) → IsQuote q → q ∈ t := by
  unfold closesString
  split
  · next q t h =>
    simp only [h, Option.some.injEq, List.cons.injEq, IsQuote]
    grind
  · next h =>
    simp only [true_iff]
    exact fun q t heq => absurd heq (h q t)

/-- **A regular source** keeps its class lists out of each other's way. -/
structure Regular (names : List Text) (callee source : Text) : Prop where
  /-- The candidates do not overlap. -/
  apart : Apart names callee source
  /-- A string that is assigned to one of the names is closed. -/
  closed : ∀ x ∈ starts source, ∀ name ∈ names, closesString name x.2 = true
  /-- The classes are plain. -/
  plain : ∀ c ∈ candidates names callee source, PlainWords names c.found.value

instance {name : Text} : Decidable (IsName name) :=
  decidable_of_iff (name.all (fun c => !isBlank c && !nameDelimiters.contains c) = true)
    (by simp [IsName])

instance {names : List Text} {callee source : Text} : Decidable (Apart names callee source) :=
  inferInstanceAs (Decidable (∀ c ∈ candidates names callee source,
    ∀ d ∈ candidates names callee source, c.place < d.place → c.stop ≤ d.place))

instance {names : List Text} {token : Text} : Decidable (IsPlain names token) :=
  inferInstanceAs (Decidable (¬['='] <+: token ∧ ∀ name ∈ names, ¬name ++ ['='] <+: token))

instance {names : List Text} {s : Text} : Decidable (PlainWords names s) :=
  inferInstanceAs (Decidable (∀ t ∈ tokenize s, IsPlain names t))

instance {names : List Text} {callee source : Text} : Decidable (Regular names callee source) :=
  decidable_of_iff (Apart names callee source ∧
      (∀ x ∈ starts source, ∀ name ∈ names, closesString name x.2 = true) ∧
      ∀ c ∈ candidates names callee source, PlainWords names c.found.value)
    ⟨fun h => ⟨h.1, h.2.1, h.2.2⟩, fun h => ⟨h.apart, h.closed, h.plain⟩⟩

section Regular

variable {names : List Text} {callee source name rest t : Text} {place : Nat} {q : Char}

theorem Regular.mem_of_afterEquals? (h : Regular names callee source)
    (hstart : IsStart source place rest) (hname : name ∈ names)
    (hafter : afterEquals? name rest = some (q :: t)) (hq : IsQuote q) : q ∈ t := by
  have hne : rest ≠ [] := by
    rintro rfl
    obtain ⟨head, ⟨before, after, -, -, rfl⟩, heq, -⟩ := afterEquals?_eq_some_iff.mp hafter
    exact absurd heq (by simp)
  exact closesString_iff.mp (h.closed _ (mem_starts_iff.mpr ⟨hne, hstart⟩) name hname) q t hafter hq

end Regular

end ClassGroups.Jsx
