import ClassGroups.Proofs.Json.Scalars
import Mathlib.Data.List.DropRight

/-!
# The spellings of a JSON value

`Spells v t` says that a text is a spelling of a value: strings and numbers are spelled as they are
printed, and wherever JSON admits white space there may be any. The main statement,
`read?_of_spells`, is that every spelling, with white space around it, is read as its value.

The three readers of values, items and entries call each other, so they are dealt with together.
`Reads n` says what they do with `n` steps; `Reads.succ` is the induction step, in which a spelling
is taken apart and each part is shorter than the whole.
-/

namespace ClassGroups.Json

/-- **A gap** is white space between the parts of a value. -/
def Gap (s : Text) : Prop := s.all isSpace = true

mutual

/-- **A text spells a value.** -/
inductive Spells : Json → Text → Prop where
  -- there is no case for numbers with a point, which are not read as they were printed
  | null : Spells .null "null"
  | bool (b : Bool) : Spells (.bool b) (if b then "true" else "false")
  | int (n : Int) : Spells (.int n) (Text.ofInt n)
  | text (s : Text) : Spells (.text s) (printText s)
  | noItems {gap : Text} (h : Gap gap) : Spells (.list []) ('[' :: (gap ++ [']']))
  | list {items : List Json} {t : Text} (h : SpellsItems items t) : Spells (.list items) ('[' :: t)
  | noEntries {gap : Text} (h : Gap gap) : Spells (.dict []) ('{' :: (gap ++ ['}']))
  | dict {entries : List (Text × Json)} {t : Text} (h : SpellsEntries entries t) :
    Spells (.dict entries) ('{' :: t)

/-- **A text spells the items of a list** and the bracket that closes it. -/
inductive SpellsItems : List Json → Text → Prop where
  | last {v : Json} {before t after : Text} (hbefore : Gap before) (hv : Spells v t)
    (hafter : Gap after) : SpellsItems [v] (before ++ (t ++ (after ++ [']'])))
  | cons {v : Json} {items : List Json} {before t after u : Text} (hbefore : Gap before)
    (hv : Spells v t) (hafter : Gap after) (hitems : SpellsItems items u) :
    SpellsItems (v :: items) (before ++ (t ++ (after ++ ',' :: u)))

/-- **A text spells the entries of an object** and the brace that closes it. -/
inductive SpellsEntries : List (Text × Json) → Text → Prop where
  | last {k : Text} {v : Json} {before middle t after : Text} (hbefore : Gap before)
    (hmiddle : Gap middle) (hv : Spells v t) (hafter : Gap after) :
    SpellsEntries [(k, v)]
      (before ++ (printText k ++ (':' :: (middle ++ (t ++ (after ++ ['}']))))))
  | cons {k : Text} {v : Json} {entries : List (Text × Json)} {before middle t after u : Text}
    (hbefore : Gap before) (hmiddle : Gap middle) (hv : Spells v t) (hafter : Gap after)
    (hentries : SpellsEntries entries u) :
    SpellsEntries ((k, v) :: entries)
      (before ++ (printText k ++ (':' :: (middle ++ (t ++ (after ++ ',' :: u))))))

end

/-! ### Gaps -/

section Gaps

variable {gap s rest : Text} {n : Nat} {c : Char}

theorem isSpace_iff : isSpace c = true ↔ c = ' ' ∨ c = '\t' ∨ c = '\n' ∨ c = '\r' := by
  unfold isSpace
  simp only [Bool.or_eq_true, beq_iff_eq, or_assoc]

theorem gap_nil : Gap [] := rfl

theorem gap_cons (hc : isSpace c = true) (h : Gap s) : Gap (c :: s) := by
  unfold Gap
  rw [List.all_cons, hc]
  exact h

theorem gap_append (hgap : Gap gap) (h : Gap s) : Gap (gap ++ s) := by
  unfold Gap
  rw [List.all_append, Bool.and_eq_true]
  exact ⟨hgap, h⟩

theorem skipSpace_append (h : Gap gap) (s : Text) : skipSpace (gap ++ s) = skipSpace s :=
  List.dropWhile_append_of_pos (List.all_eq_true.mp h)

theorem skipSpace_of_gap (h : Gap gap) : skipSpace gap = [] :=
  List.dropWhile_eq_nil_iff.mpr (List.all_eq_true.mp h)

theorem skipSpace_cons (h : isSpace c = false) (s : Text) : skipSpace (c :: s) = c :: s :=
  List.dropWhile_cons_of_neg (by simp [h])

/-- Behind a gap the first character is found that is no white space. -/
theorem skipSpace_gap_cons (hgap : Gap gap) (h : isSpace c = false) (s : Text) :
    skipSpace (gap ++ c :: s) = c :: s := by
  rw [skipSpace_append hgap, skipSpace_cons h]

theorem skipSpace_skipSpace (s : Text) : skipSpace (skipSpace s) = skipSpace s :=
  List.dropWhile_idempotent isSpace s

/-- A reader of values skips white space by itself. -/
theorem readValue_skipSpace (n : Nat) (s : Text) : readValue n (skipSpace s) = readValue n s := by
  cases n with
  | zero => rfl
  | succ n => rw [readValue, readValue, skipSpace_skipSpace]

theorem readItems_skipSpace (n : Nat) (s : Text) : readItems n (skipSpace s) = readItems n s := by
  cases n with
  | zero => rfl
  | succ n => rw [readItems, readItems, readValue_skipSpace]

theorem readEntries_skipSpace (n : Nat) (s : Text) :
    readEntries n (skipSpace s) = readEntries n s := by
  cases n with
  | zero => rfl
  | succ n => rw [readEntries, readEntries, skipSpace_skipSpace]

theorem ends_append (hgap : Gap gap) (h : Ends s) : Ends (gap ++ s) := by
  cases gap with
  | nil => exact h
  | cons c gap =>
    -- white space does not continue a number
    have hspace : isSpace c = true := List.all_eq_true.mp hgap c List.mem_cons_self
    intro d hd
    obtain rfl : c = d := Option.some.inj hd
    rcases isSpace_iff.mp hspace with rfl | rfl | rfl | rfl <;> decide

theorem ends_nil : Ends [] := by
  intro c hc
  exact absurd hc (by simp)

/-- **The marks** that may follow a value. -/
def IsMark (c : Char) : Prop := c = ',' ∨ c = ']' ∨ c = '}'

theorem ends_mark (hc : IsMark c) (s : Text) : Ends (c :: s) := by
  intro d hd
  obtain rfl : c = d := Option.some.inj hd
  rcases hc with rfl | rfl | rfl <;> decide

end Gaps

/-! ### The readers by the first character -/

section Steps

variable {n : Nat} {c : Char} {s rest : Text}

theorem readValue_text (n : Nat) (s : Text) :
    readValue (n + 1) ('"' :: s) = (readText n s).map fun (t, rest) => (.text t, rest) := rfl

theorem readValue_noItems (h : skipSpace s = ']' :: rest) :
    readValue (n + 1) ('[' :: s) = some (.list [], rest) := by
  rw [readValue, skipSpace_cons rfl]
  simp only [h]

theorem readValue_list (h : (skipSpace s).head? ≠ some ']') :
    readValue (n + 1) ('[' :: s)
      = (readItems n s).map fun (items, rest) => (.list items, rest) := by
  rw [readValue, skipSpace_cons rfl, ← readItems_skipSpace n s]
  simp only
  split
  · next heq => exact absurd (congrArg List.head? heq) h
  · rfl

theorem readValue_noEntries (h : skipSpace s = '}' :: rest) :
    readValue (n + 1) ('{' :: s) = some (.dict [], rest) := by
  rw [readValue, skipSpace_cons rfl]
  simp only [h]

theorem readValue_dict (h : (skipSpace s).head? ≠ some '}') :
    readValue (n + 1) ('{' :: s)
      = (readEntries n s).map fun (entries, rest) => (.dict entries, rest) := by
  rw [readValue, skipSpace_cons rfl, ← readEntries_skipSpace n s]
  simp only
  split
  · next heq => exact absurd (congrArg List.head? heq) h
  · rfl

/-- **A number starts** with its sign or a digit. -/
def StartsNumber (c : Char) : Prop := c = '-' ∨ c.isDigit = true

instance : Decidable (StartsNumber c) := inferInstanceAs (Decidable (_ ∨ _))

theorem StartsNumber.ne {d : Char} (h : StartsNumber c) (hd : ¬StartsNumber d) : c ≠ d := by
  rintro rfl
  exact hd h

theorem StartsNumber.not_isSpace (h : StartsNumber c) : isSpace c = false := by
  by_contra hspace
  rcases isSpace_iff.mp (Bool.not_eq_false _ ▸ hspace) with rfl | rfl | rfl | rfl <;>
    exact absurd h (by decide)

theorem readValue_number (h : StartsNumber c) (s : Text) :
    readValue (n + 1) (c :: s) = readNumber (c :: s) := by
  rw [readValue, skipSpace_cons h.not_isSpace]
  -- no other case starts with `c`
  split <;> first
    | rfl
    | next heq => exact absurd (List.cons.inj heq).1 (h.ne (by decide))

variable {k u w : Text} {v : Json} {t : Text}

theorem readItems_last (hv : readValue n s = some (v, u)) (hu : skipSpace u = ']' :: rest) :
    readItems (n + 1) s = some ([v], rest) := by
  rw [readItems, hv]
  simp only [bind, Option.bind, hu, pure]

theorem readItems_cons (hv : readValue n s = some (v, u)) (hu : skipSpace u = ',' :: rest) :
    readItems (n + 1) s = (readItems n rest).map fun (items, rest) => (v :: items, rest) := by
  rw [readItems, hv]
  simp only [bind, Option.bind, hu, pure]
  cases readItems n rest with
  | none => rfl
  | some result => rfl

/-- **A key** and its colon are read, and a text is left. -/
def ReadsKey (n : Nat) (s k rest : Text) : Prop :=
  ∃ t u, skipSpace s = '"' :: t ∧ readText n t = some (k, u) ∧ skipSpace u = ':' :: rest

theorem readEntries_last (hk : ReadsKey n s k w) (hv : readValue n w = some (v, u))
    (hu : skipSpace u = '}' :: rest) : readEntries (n + 1) s = some ([(k, v)], rest) := by
  obtain ⟨t, x, hs, hread, hx⟩ := hk
  rw [readEntries, hs]
  simp only [bind, Option.bind, hread, hx, hv, hu, pure]

theorem readEntries_cons (hk : ReadsKey n s k w) (hv : readValue n w = some (v, u))
    (hu : skipSpace u = ',' :: rest) :
    readEntries (n + 1) s
      = (readEntries n rest).map fun (entries, rest) => ((k, v) :: entries, rest) := by
  obtain ⟨t, x, hs, hread, hx⟩ := hk
  rw [readEntries, hs]
  simp only [bind, Option.bind, hread, hx, hv, hu, pure]
  cases readEntries n rest with
  | none => rfl
  | some result => rfl

end Steps

/-! ### Every spelling is read -/

section Reading

variable {v : Json} {items : List Json} {entries : List (Text × Json)} {t before gap rest : Text}
  {after : Text} {n : Nat} {c : Char}

theorem exists_cons_ofInt (n : Int) : ∃ c s, Text.ofInt n = c :: s ∧ StartsNumber c := by
  cases n with
  | ofNat n =>
    obtain ⟨c, s, hcs⟩ := List.exists_cons_of_ne_nil (isNumeral_ofNat n).ne_nil
    exact ⟨c, s, hcs, .inr ((isNumeral_ofNat n).digits c (hcs ▸ List.mem_cons_self))⟩
  | negSucc n => exact ⟨'-', _, rfl, .inl rfl⟩

/-- A spelling starts with a character that is neither white space nor closes a list. -/
theorem Spells.exists_cons (h : Spells v t) :
    ∃ c s, t = c :: s ∧ isSpace c = false ∧ c ≠ ']' := by
  cases h with
  | bool b => cases b <;> exact ⟨_, _, rfl, rfl, by decide⟩
  | int n =>
    obtain ⟨c, s, hcs, hc⟩ := exists_cons_ofInt n
    exact ⟨c, s, hcs, hc.not_isSpace, hc.ne (by decide)⟩
  | _ => exact ⟨_, _, rfl, rfl, by decide⟩

theorem SpellsItems.head?_ne (h : SpellsItems items t) (rest : Text) :
    (skipSpace (t ++ rest)).head? ≠ some ']' := by
  have hhead {v : Json} {before t : Text} (hbefore : Gap before) (hv : Spells v t) (u : Text) :
      (skipSpace (before ++ (t ++ u))).head? ≠ some ']' := by
    -- the first item decides, and it does not start with the bracket
    obtain ⟨c, s, rfl, hspace, hne⟩ := hv.exists_cons
    rw [skipSpace_append hbefore, List.cons_append, skipSpace_cons hspace]
    exact fun heq => hne (Option.some.inj heq)
  cases h with
  | last hbefore hv hafter =>
    rw [List.append_assoc, List.append_assoc]
    exact hhead hbefore hv _
  | cons hbefore hv hafter hitems =>
    rw [List.append_assoc, List.append_assoc]
    exact hhead hbefore hv _

theorem SpellsEntries.head?_ne (h : SpellsEntries entries t) (rest : Text) :
    (skipSpace (t ++ rest)).head? ≠ some '}' := by
  have hhead {before : Text} (hbefore : Gap before) (k u : Text) :
      (skipSpace (before ++ (printText k ++ u))).head? ≠ some '}' := by
    rw [skipSpace_append hbefore]
    show (skipSpace ('"' :: _)).head? ≠ _
    rw [skipSpace_cons rfl]
    exact fun heq => absurd (Option.some.inj heq) (by decide)
  cases h with
  | last hbefore hmiddle hv hafter =>
    rw [List.append_assoc, List.append_assoc]
    exact hhead hbefore _ _
  | cons hbefore hmiddle hv hafter hentries =>
    rw [List.append_assoc, List.append_assoc]
    exact hhead hbefore _ _

/-- **The readers read** what is spelled in no more characters than they may take steps. -/
structure Reads (n : Nat) : Prop where
  /-- A value, where a number would end. -/
  value : ∀ {v t rest}, Spells v t → t.length ≤ n → Ends rest →
    readValue n (t ++ rest) = some (v, rest)
  /-- The items of a list. -/
  items : ∀ {items t} (rest), SpellsItems items t → t.length ≤ n →
    readItems n (t ++ rest) = some (items, rest)
  /-- The entries of an object. -/
  entries : ∀ {entries t} (rest), SpellsEntries entries t → t.length ≤ n →
    readEntries n (t ++ rest) = some (entries, rest)

theorem Reads.value_after_gap (h : Reads n) (hgap : Gap gap) (hv : Spells v t)
    (hlength : t.length ≤ n) (hrest : Ends rest) :
    readValue n (gap ++ (t ++ rest)) = some (v, rest) := by
  rw [← readValue_skipSpace, skipSpace_append hgap, readValue_skipSpace]
  exact h.value hv hlength hrest

/-- A value between gaps is read up to the gap in front of the next mark. -/
theorem Reads.value_before_mark (h : Reads n) (hgap : Gap gap) (hv : Spells v t)
    (hlength : t.length ≤ n) (hafter : Gap after) (hc : IsMark c) (rest : Text) :
    readValue n (gap ++ (t ++ (after ++ c :: rest))) = some (v, after ++ c :: rest) :=
  h.value_after_gap hgap hv hlength (ends_append hafter (ends_mark hc rest))

theorem readText_key (k : Text) (h : (printText k).length ≤ n + 1) (rest : Text) :
    readText n (k.flatMap escapedChar ++ '"' :: rest) = some (k, rest) := by
  have hprint : (printText k).length = (k.flatMap escapedChar).length + 2 := by
    unfold printText
    rw [List.cons_append, List.length_cons, List.length_append, List.length_singleton]
  -- a string takes a step for each character, and its quotes pay for the two steps around it
  have hlength := length_le_length_flatMap_escapedChar k
  exact readText_printed k rest (by omega)

theorem readsKey_printed (hbefore : Gap before) (k : Text) (h : (printText k).length ≤ n + 1)
    (rest : Text) : ReadsKey n (before ++ (printText k ++ ':' :: rest)) k rest := by
  refine ⟨_, _, ?_, readText_key k h (':' :: rest), skipSpace_cons rfl rest⟩
  rw [skipSpace_append hbefore]
  show skipSpace ('"' :: ((k.flatMap escapedChar ++ ['"']) ++ _)) = _
  rw [skipSpace_cons rfl, List.append_assoc, List.singleton_append]

theorem reads_zero : Reads 0 where
  value := by
    -- no spelling is empty
    intro v t rest hv hlength _
    obtain ⟨c, s, rfl, -⟩ := hv.exists_cons
    exact absurd hlength (by simp)
  items := by
    intro items t rest h hlength
    cases h <;> exact absurd hlength (by simp)
  entries := by
    intro entries t rest h hlength
    cases h <;> exact absurd hlength (by simp)

/-- The reader of values takes the first character itself and leaves the rest to the others. -/
theorem Reads.value_succ (h : Reads n) (hv : Spells v t) (hlength : t.length ≤ n + 1)
    (hrest : Ends rest) : readValue (n + 1) (t ++ rest) = some (v, rest) := by
  cases hv with
  | null => rfl
  | bool b => cases b <;> rfl
  | int m =>
    obtain ⟨c, s, hcs, hc⟩ := exists_cons_ofInt m
    rw [← readNumber_ofInt m hrest, hcs]
    exact readValue_number hc (s ++ rest)
  | text s =>
    show readValue (n + 1) ('"' :: ((s.flatMap escapedChar ++ ['"']) ++ rest)) = _
    rw [readValue_text, List.append_assoc, List.singleton_append, readText_key s hlength]
    rfl
  | noItems hgap =>
    rw [List.cons_append, List.append_assoc]
    exact readValue_noItems (skipSpace_gap_cons hgap rfl rest)
  | list hitems =>
    rw [List.cons_append, readValue_list (hitems.head?_ne rest),
      h.items rest hitems (Nat.le_of_succ_le_succ hlength)]
    rfl
  | noEntries hgap =>
    rw [List.cons_append, List.append_assoc]
    exact readValue_noEntries (skipSpace_gap_cons hgap rfl rest)
  | dict hentries =>
    rw [List.cons_append, readValue_dict (hentries.head?_ne rest),
      h.entries rest hentries (Nat.le_of_succ_le_succ hlength)]
    rfl

/-- An item is shorter than its list by the mark behind it. -/
theorem Reads.items_succ (h : Reads n) (hitems : SpellsItems items t) (hlength : t.length ≤ n + 1)
    (rest : Text) : readItems (n + 1) (t ++ rest) = some (items, rest) := by
  cases hitems with
  | @last v before t after hbefore hv hafter =>
    have ht : t.length ≤ n := by
      simp only [List.length_append, List.length_singleton] at hlength
      omega
    simp only [List.append_assoc, List.singleton_append]
    apply readItems_last
    · exact h.value_before_mark hbefore hv ht hafter (.inr (.inl rfl)) rest
    · exact skipSpace_gap_cons hafter rfl rest
  | @cons v items before t after u hbefore hv hafter hitems =>
    have ht : t.length ≤ n ∧ u.length ≤ n := by
      simp only [List.length_append, List.length_cons] at hlength
      omega
    have hread := h.value_before_mark hbefore hv ht.1 hafter (.inl rfl) (u ++ rest)
    simp only [List.append_assoc, List.cons_append]
    rw [readItems_cons hread (skipSpace_gap_cons hafter rfl _), h.items rest hitems ht.2]
    rfl

/-- An entry is shorter than its object by the mark behind it, and its value by the key as well. -/
theorem Reads.entries_succ (h : Reads n) (hentries : SpellsEntries entries t)
    (hlength : t.length ≤ n + 1) (rest : Text) :
    readEntries (n + 1) (t ++ rest) = some (entries, rest) := by
  cases hentries with
  | @last k v before middle t after hbefore hmiddle hv hafter =>
    have ht : (printText k).length ≤ n + 1 ∧ t.length ≤ n := by
      simp only [List.length_append, List.length_cons] at hlength
      omega
    simp only [List.append_assoc, List.cons_append, List.nil_append]
    apply readEntries_last
    · exact readsKey_printed hbefore k ht.1 _
    · exact h.value_before_mark hmiddle hv ht.2 hafter (.inr (.inr rfl)) rest
    · exact skipSpace_gap_cons hafter rfl rest
  | @cons k v entries before middle t after u hbefore hmiddle hv hafter hentries =>
    have ht : (printText k).length ≤ n + 1 ∧ t.length ≤ n ∧ u.length ≤ n := by
      simp only [List.length_append, List.length_cons] at hlength
      omega
    have hread := h.value_before_mark hmiddle hv ht.2.1 hafter (.inl rfl) (u ++ rest)
    simp only [List.append_assoc, List.cons_append]
    rw [readEntries_cons (readsKey_printed hbefore k ht.1 _) hread
      (skipSpace_gap_cons hafter rfl _), h.entries rest hentries ht.2.2]
    rfl

/-- **One step more.** Every part of a spelling is shorter than the whole. -/
theorem Reads.succ (h : Reads n) : Reads (n + 1) where
  value := h.value_succ
  items := fun rest hitems hlength => h.items_succ hitems hlength rest
  entries := fun rest hentries hlength => h.entries_succ hentries hlength rest

theorem reads (n : Nat) : Reads n := by
  induction n with
  | zero => exact reads_zero
  | succ n ih => exact ih.succ

/-- **Every spelling is read** as its value, with any white space around it. -/
theorem read?_of_spells {before after : Text} (hbefore : Gap before) (h : Spells v t)
    (hafter : Gap after) : read? (before ++ (t ++ after)) = some v := by
  have hlength : t.length ≤ (before ++ (t ++ after)).length + 1 := by
    simp only [List.length_append]
    omega
  have hends : Ends after := by
    have hnil := ends_append hafter ends_nil
    rwa [List.append_nil] at hnil
  unfold read?
  rw [(reads _).value_after_gap hbefore h hlength hends]
  -- nothing but white space is left, as is asked for
  show Option.bind (guard ((skipSpace after).isEmpty = true)) (fun _ => some v) = some v
  rw [skipSpace_of_gap hafter]
  rfl

end Reading

end ClassGroups.Json
