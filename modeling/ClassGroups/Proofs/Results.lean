/-!
# Results of steps that may fail

A step that goes on with the result of another one succeeds if both do, and fails where the first of
them fails. A step for each element of a list succeeds if all do, and fails where one of them fails.
-/

namespace ClassGroups

variable {E A B : Type} {x : Except E A} {b : B} {e : E}

theorem exists_of_bind_eq_ok {f : A → Except E B} (h : x.bind f = .ok b) :
    ∃ a, x = .ok a ∧ f a = .ok b := by
  cases x with
  | error e => exact absurd h (by simp [Except.bind])
  | ok a => exact ⟨a, rfl, h⟩

theorem exists_of_map_eq_ok {f : A → B} (h : x.map f = .ok b) : ∃ a, x = .ok a ∧ f a = b := by
  cases x with
  | error e => exact absurd h (by simp [Except.map])
  | ok a => exact ⟨a, rfl, Except.ok.inj h⟩

theorem eq_error_or_of_bind_eq_error {f : A → Except E B} (h : x.bind f = .error e) :
    x = .error e ∨ ∃ a, x = .ok a ∧ f a = .error e := by
  cases x with
  | error e' => exact .inl (congrArg _ (Except.error.inj h))
  | ok a => exact .inr ⟨a, rfl, h⟩

theorem eq_error_of_map_eq_error {f : A → B} (h : x.map f = .error e) : x = .error e := by
  cases x with
  | error e' => exact congrArg _ (Except.error.inj h)
  | ok a => exact absurd h (by simp [Except.map])

section List

variable {f g : A → Except E B} {l : List A} {bs : List B}

theorem exists_of_mapM_cons_eq_ok {a : A} (h : (a :: l).mapM f = .ok bs) :
    ∃ b rest, f a = .ok b ∧ l.mapM f = .ok rest ∧ bs = b :: rest := by
  rw [List.mapM_cons] at h
  obtain ⟨b, hb, h⟩ := exists_of_bind_eq_ok h
  obtain ⟨rest, hrest, h⟩ := exists_of_bind_eq_ok h
  exact ⟨b, rest, hb, hrest, (Except.ok.inj h).symm⟩

/-- The results of a step that all elements pass. -/
theorem mem_iff_of_mapM_eq_ok (h : l.mapM f = .ok bs) {b : B} :
    b ∈ bs ↔ ∃ a ∈ l, f a = .ok b := by
  induction l generalizing bs with
  | nil =>
    obtain rfl := Except.ok.inj h
    simp
  | cons a l ih =>
    obtain ⟨b', rest, hb', hrest, rfl⟩ := exists_of_mapM_cons_eq_ok h
    simp only [List.mem_cons, exists_eq_or_imp, hb', Except.ok.injEq, ih hrest]
    exact or_congr_left eq_comm

/-- If each result shows the element that it is for, the results come in the order of these. -/
theorem map_eq_of_mapM_eq_ok {r : B → A} (hr : ∀ a b, f a = .ok b → r b = a)
    (h : l.mapM f = .ok bs) : bs.map r = l := by
  induction l generalizing bs with
  | nil =>
    obtain rfl := Except.ok.inj h
    rfl
  | cons a l ih =>
    obtain ⟨b, rest, hb, hrest, rfl⟩ := exists_of_mapM_cons_eq_ok h
    rw [List.map_cons, hr a b hb, ih hrest]

theorem exists_of_mapM_eq_ok (h : l.mapM f = .ok bs) {a : A} (ha : a ∈ l) : ∃ b, f a = .ok b := by
  induction l generalizing bs with
  | nil => exact absurd ha List.not_mem_nil
  | cons a' l ih =>
    obtain ⟨b, rest, hb, hrest, -⟩ := exists_of_mapM_cons_eq_ok h
    rcases List.mem_cons.mp ha with rfl | ha
    · exact ⟨b, hb⟩
    · exact ih hrest ha

/-- Where a step fails, it fails for one of the elements. -/
theorem exists_of_mapM_eq_error (h : l.mapM f = .error e) : ∃ a ∈ l, f a = .error e := by
  induction l with
  | nil => exact absurd h nofun
  | cons a l ih =>
    rw [List.mapM_cons] at h
    rcases eq_error_or_of_bind_eq_error h with h | ⟨b, -, h⟩
    · exact ⟨a, List.mem_cons_self, h⟩
    · rcases eq_error_or_of_bind_eq_error h with h | ⟨rest, -, h⟩
      · obtain ⟨a', ha', h⟩ := ih h
        exact ⟨a', List.mem_cons_of_mem a ha', h⟩
      · exact absurd h nofun

theorem mapM_congr_of_mem (h : ∀ a ∈ l, f a = g a) : l.mapM f = l.mapM g := by
  induction l with
  | nil => rfl
  | cons a l ih =>
    rw [List.mapM_cons, List.mapM_cons, h a List.mem_cons_self,
      ih fun a' ha' => h a' (List.mem_cons_of_mem a ha')]

end List

end ClassGroups
