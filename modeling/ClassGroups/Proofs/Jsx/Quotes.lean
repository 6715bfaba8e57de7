import ClassGroups.Proofs.Jsx.Scans

/-!
# Markup in strings of the program

Whether a tag stands in a string of the program is told by counting quotes of each kind on its line,
while a program is read with one kind of quote at a time. `reading` is the state of such a reader.
It differs from the count at the quotes that are `miscounted`: those that stand in a string of the
other kind, where they are letters, and those that open a string behind a backslash, where they are
taken for escaped. The two go together exactly up to the parity of these quotes
(`occurrences_mod_two_eq`), so a tag in a string is taken for one outside exactly if the miscounted
quotes make up for the open string (`exists_reported_in_string_iff`).
-/

namespace ClassGroups.Jsx

/-! ### Reading a line -/

/-- Where a reader of a line stands. -/
inductive Reading where
  /-- In the program. -/
  | code
  /-- In a string that was opened by a quote. -/
  | string (mark : Char)
deriving DecidableEq, Repr

/-- Where a reader stands after a character that is not escaped. -/
def Reading.next : Reading → Char → Reading
  | code, c => if c = '"' ∨ c = '\'' then string c else code
  | string mark, c => if c = mark then code else string mark

/-- Whether a character that is not escaped is a letter of a string. -/
def Reading.isLetter : Reading → Char → Bool
  | code, _ => false
  | string mark, c => c != mark

/-- Where a reader stands after a text. In a string, a backslash goes together with the character
after it. -/
def reading : Reading → Text → Reading
  | r, [] => r
  | .string mark, '\\' :: _ :: s => reading (.string mark) s
  | r, c :: s => reading (r.next c) s

/-- The quotes of a kind that are counted though they are letters of a string, or not counted though
a reader takes notice of them, as they stand behind a backslash in the program. -/
def miscounted (mark : Char) : Reading → Text → Nat
  | _, [] => 0
  | .string q, '\\' :: _ :: s => miscounted mark (.string q) s
  | .code, '\\' :: c :: s =>
    (if c = mark then 1 else 0) + miscounted mark (Reading.code.next c) s
  | r, c :: s => (if c = mark ∧ r.isLetter c then 1 else 0) + miscounted mark (r.next c) s

/-- One for a reader in a string of a kind, and nothing for any other. -/
def Reading.within (mark : Char) (r : Reading) : Nat := if r = .string mark then 1 else 0

section Steps

variable {mark c : Char} {s : Text}

theorem reading_code_cons (c : Char) (s : Text) :
    reading .code (c :: s) = reading (Reading.code.next c) s := by
  rw [reading]
  simp

/-- A character that starts no escape is read alone. -/
theorem reading_cons (h : ∀ d t, c = '\\' → s = d :: t → False) (r : Reading) :
    reading r (c :: s) = reading (r.next c) s := by
  cases r with
  | code => exact reading_code_cons c s
  | string q => rw [reading.eq_3 _ _ _ (by grind)]

theorem miscounted_cons (h : ∀ d t, c = '\\' → s = d :: t → False) (r : Reading) :
    miscounted mark r (c :: s)
      = (if c = mark ∧ r.isLetter c then 1 else 0) + miscounted mark (r.next c) s := by
  rw [miscounted.eq_4 _ _ _ _ (by grind) (by grind)]

/-- **One character**: a quote that is not escaped opens or closes a string of its kind unless it is
a letter. -/
theorem within_next (hmark : IsQuote mark) (r : Reading) (c : Char) :
    ((if c = mark then 1 else 0) + (if c = mark ∧ r.isLetter c then 1 else 0)) % 2
      = (r.within mark + (r.next c).within mark) % 2 := by
  have hq : mark = '"' ∨ mark = '\'' := hmark
  unfold Reading.within Reading.next Reading.isLetter
  cases r with
  | code => grind
  | string q => grind

end Steps

/-- **The count and the reader** go together up to the parity of the miscounted quotes. -/
theorem occurrences_mod_two_eq {mark : Char} (hmark : IsQuote mark) {s : Text} (hs : '\n' ∉ s)
    (r : Reading) :
    (Text.occurrences mark (dropEscapes s) + miscounted mark r s) % 2
      = (r.within mark + (reading r s).within mark) % 2 := by
  fun_induction dropEscapes s generalizing r with
  | case1 =>
    simp only [Text.occurrences, List.count_nil, miscounted, reading]
    omega
  | case2 s ih => exact absurd hs (by simp)
  | case3 c s hc ih =>
    have hrest := ih (fun h => hs (by simp [h]))
    cases r with
    | code =>
      -- the count passes the escape over, and the reader takes notice of its second character
      have hstep := within_next hmark .code c
      have hnext := hrest (Reading.code.next c)
      have hslash : Reading.code.next '\\' = .code := by decide
      simp only [Reading.isLetter, Bool.false_eq_true, and_false, if_false] at hstep
      rw [reading_code_cons, hslash, reading_code_cons, miscounted]
      omega
    | string q => exact hrest (.string q)
  | case4 c s hne ih =>
    have hstep := within_next hmark r c
    have hnext := ih (fun h => hs (by simp [h])) (r.next c)
    rw [reading_cons hne, miscounted_cons hne]
    simp only [Text.occurrences, List.count_cons, beq_iff_eq] at hnext ⊢
    omega

/-! ### Tags in strings -/

/-- What stands before a place on its line holds no newline. -/
theorem newline_notMem_lineHead (source : Text) (place : Nat) : '\n' ∉ lineHead source place := by
  intro h
  rw [lineHead, List.mem_reverse] at h
  simpa using List.all_eq_true.mp List.all_takeWhile _ h

/-- **What the count says of a string**: nothing is taken to lie in it exactly if the quotes that
opened it are miscounted an odd number of times, the others an even number of times, and the
backticks before it are even. -/
theorem insideString_eq_false_iff {source : Text} {place : Nat} {q : Char}
    (h : reading .code (lineHead source place) = .string q) :
    insideString source place = false
      ↔ (∀ mark, IsQuote mark →
          (miscounted mark .code (lineHead source place) % 2 = 1 ↔ mark = q)) ∧
        Text.occurrences '`' (dropEscapes (source.take place)) % 2 = 0 := by
  have hcount (mark : Char) (hmark : IsQuote mark) :
      Text.occurrences mark (dropEscapes (lineHead source place)) % 2 = 0
        ↔ (miscounted mark .code (lineHead source place) % 2 = 1 ↔ mark = q) := by
    have hlaw := occurrences_mod_two_eq hmark (newline_notMem_lineHead source place) .code
    rw [h] at hlaw
    by_cases heq : mark = q
    · subst heq
      simp only [Reading.within, reduceCtorEq, if_false, if_true, iff_true] at hlaw ⊢
      omega
    · have hne : Reading.string q ≠ .string mark := fun he => heq (Reading.string.inj he).symm
      simp only [Reading.within, reduceCtorEq, hne, heq, if_false, iff_false] at hlaw ⊢
      omega
  have hquotes : (∀ mark, IsQuote mark →
      (miscounted mark .code (lineHead source place) % 2 = 1 ↔ mark = q))
        ↔ Text.occurrences '\'' (dropEscapes (lineHead source place)) % 2 = 0 ∧
          Text.occurrences '"' (dropEscapes (lineHead source place)) % 2 = 0 := by
    rw [hcount _ (Or.inr rfl), hcount _ (Or.inl rfl)]
    constructor
    · exact fun h => ⟨h _ (Or.inr rfl), h _ (Or.inl rfl)⟩
    · rintro ⟨hsingle, hdouble⟩ mark (rfl | rfl)
      · exact hdouble
      · exact hsingle
  rw [hquotes, insideString]
  simp only [Bool.or_eq_false_iff, beq_eq_false_iff_ne]
  omega

section Reported

variable {attributes : List Text} {callee source : Text} {place : Nat} {q : Char}

/-- **Markup in a string** is touched exactly if it holds a class list and the miscounted quotes
before it make up for the string that is open. -/
theorem exists_reported_in_string_iff
    (h : reading .code (lineHead source place) = .string q) :
    (∃ c ∈ reported (namesTried attributes) callee source, tagStart source c.place = some place)
      ↔ (∃ c ∈ scanned (namesTried attributes) callee source,
          tagStart source c.place = some place) ∧
        (∀ mark, IsQuote mark →
          (miscounted mark .code (lineHead source place) % 2 = 1 ↔ mark = q)) ∧
        Text.occurrences '`' (dropEscapes (source.take place)) % 2 = 0 := by
  rw [← insideString_eq_false_iff h]
  -- for a tag that starts at `place`, only the count is left to be asked
  have hin {c : Candidate} (htag : tagStart source c.place = some place) :
      inTag source c.place = !insideString source place := by
    rw [inTag, htag, Option.any_some]
  constructor
  · rintro ⟨c, hc, htag⟩
    obtain ⟨hscanned, hreported⟩ := mem_reported_iff.mp hc
    rw [hin htag, Bool.not_eq_true'] at hreported
    exact ⟨⟨c, hscanned, htag⟩, hreported⟩
  · rintro ⟨⟨c, hscanned, htag⟩, hcount⟩
    refine ⟨c, mem_reported_iff.mpr ⟨hscanned, ?_⟩, htag⟩
    rw [hin htag, hcount, Bool.not_false]

/-- A source with markup in a string, and before it on the line a string with an apostrophe. -/
def quotedMarkup : Text := "s = \"it's\" + '<a className=\"mt-4 flex p-2 text-sm\">';"

theorem reading_quotedMarkup : reading .code (lineHead quotedMarkup 14) = .string '\'' := by
  decide +kernel

/-- The tag at place 14 stands in a string, and its class list is reported. -/
theorem exists_reported_quotedMarkup :
    quotedMarkup[14]? = some '<' ∧ reading .code (lineHead quotedMarkup 14) = .string '\'' ∧
    ∃ c ∈ reported (namesTried defaultAttributes) "clsx" quotedMarkup,
      tagStart quotedMarkup c.place = some 14 ∧
      c.literal ∈ literals defaultAttributes "clsx" quotedMarkup := by
  have hmem : (⟨.attributeValue, 17, ⟨10, 33, 33, "mt-4 flex p-2 text-sm"⟩⟩ : Candidate)
      ∈ reported (namesTried defaultAttributes) "clsx" quotedMarkup := by decide +kernel
  exact ⟨by decide, reading_quotedMarkup, _, hmem, by decide +kernel,
    mem_literals_iff_reported.mpr ⟨_, hmem, rfl⟩⟩

theorem exists_reported_in_string_quotedMarkup :
    reading .code (lineHead quotedMarkup 14) = .string '\'' ∧
    ((∃ c ∈ reported (namesTried defaultAttributes) "clsx" quotedMarkup,
        tagStart quotedMarkup c.place = some 14)
      ↔ (∃ c ∈ scanned (namesTried defaultAttributes) "clsx" quotedMarkup,
          tagStart quotedMarkup c.place = some 14) ∧
        (∀ mark, IsQuote mark →
          (miscounted mark .code (lineHead quotedMarkup 14) % 2 = 1 ↔ mark = '\'')) ∧
        Text.occurrences '`' (dropEscapes (quotedMarkup.take 14)) % 2 = 0) :=
  ⟨reading_quotedMarkup, exists_reported_in_string_iff reading_quotedMarkup⟩

end Reported

end ClassGroups.Jsx
