import ClassGroups.Proofs.Jsx.Candidates

/-!
# Replacing the body of a candidate

When the body of a candidate is replaced, other candidates might be lost, or new ones might arise
from pieces of the old text and the new one. Neither happens if the new body is `Sealed`. Then the
candidates of the new text are those of the old one except the one whose body was replaced, each at
its place or, behind the new body, moved by the difference of the lengths
(`mem_candidates_around_iff`), and a regular text stays regular (`Regular.around`).

The text is `before ++ blank :: (head ++ body ++ rest)`. A name may start in one of three parts: at
the left of the body, within it, or at its right. Only the first one is delicate, since what starts
there may reach into the body. A match that starts there does not reach into the old body, because
candidates are apart, nor into the new one: a string would have to be open at the left of the body,
and the strings of a call do not go past the newline with which a sealed body starts.
-/

namespace ClassGroups.Jsx

/-- **A sealed body** does not take part in a candidate. -/
structure Sealed (names : List Text) (callee new : Text) : Prop where
  /-- It starts with a brace, and a newline comes before any quote. -/
  opening : ∃ stub more, new = '{' :: (stub ++ '\n' :: more) ∧ ∀ q, IsQuote q → q ∉ stub
  /-- It ends with a brace. -/
  closing : ∃ initial, new = initial ++ ['}']
  /-- It does not start with a call of the helper with one string. -/
  no_call : ∀ opened t, new ++ t = '{' :: opened →
    callBody? callee (Text.trimLeft opened) = none
  /-- No assignment stands in it. -/
  no_assignment : ∀ place a, IsStart new place a → ∀ name ∈ names, ∀ head t,
    IsAssignment name head → a ≠ head ++ t

/-! ### Where pieces of a text end -/

section Pieces

variable {before rest u v : Text} {c : Char}

/-- A character of two texts one after the other stands in the first or in the second. -/
theorem append_cons_eq_append (h : before ++ c :: rest = u ++ v) :
    (∃ a, u = before ++ c :: a ∧ rest = a ++ v) ∨ ∃ a, before = u ++ a ∧ v = a ++ c :: rest := by
  rcases List.append_eq_append_iff.mp h with ⟨a, hu, hrest⟩ | ⟨a, hbefore, hv⟩
  · cases a with
    | nil => exact Or.inr ⟨[], by simpa using hu.symm, by simpa using hrest.symm⟩
    | cons d a =>
      obtain ⟨rfl, rfl⟩ := List.cons.inj hrest
      exact Or.inl ⟨a, hu, rfl⟩
  · exact Or.inr ⟨a, hbefore, hv⟩

/-- A beginning that is not longer than the first of two texts is a beginning of it. -/
theorem exists_append_of_length_le {a b : Text} (h : a ++ rest = b ++ u)
    (hle : a.length ≤ b.length) : ∃ d, b = a ++ d ∧ rest = d ++ u := by
  rcases List.append_eq_append_iff.mp h with ⟨d, hb, hrest⟩ | ⟨d, ha, hu⟩
  · exact ⟨d, hb, hrest⟩
  · have hlen := congrArg List.length ha
    rw [List.length_append] at hlen
    obtain rfl := List.length_eq_zero_iff.mp (show d.length = 0 by omega)
    exact ⟨[], by simpa using ha.symm, by simpa using hu.symm⟩

end Pieces

/-! ### Matches that would reach into a sealed body -/

section Sealed

variable {names : List Text} {callee new rest rest' a : Text} {kind : LiteralKind}

/-- What comes after an assignment at the left of a sealed body is at the left of the body, too, or
it is the body. -/
theorem Sealed.assignment_append (hs : Sealed names callee new) {name head t : Text} {c : Char}
    (hname : IsName name) (hhead : IsAssignment name head)
    (h : head ++ c :: t = a ++ (new ++ rest)) :
    (∃ a', a = head ++ c :: a' ∧ t = a' ++ (new ++ rest)) ∨ c :: t = new ++ rest := by
  rcases append_cons_eq_append h with h | ⟨z, hz, hnew⟩
  · exact Or.inl h
  · cases z with
    | nil => exact Or.inr hnew.symm
    | cons d z =>
      -- the brace that opens the body would stand in the assignment
      obtain ⟨stub, more, rfl, -⟩ := hs.opening
      obtain ⟨rfl, -⟩ := List.cons.inj hnew
      have hbrace : '{' ∉ head := hhead.notMem hname (by decide) (by decide) (by decide)
      exact absurd (by simp [hz]) hbrace

/-- A match that starts at the left of a sealed body opens there too. -/
theorem Sealed.exists_opens (hs : Sealed names callee new) (hn : ∀ name ∈ names, IsName name)
    (hc : isIdentifier callee = true) (m : Match names callee kind)
    (h : a ++ (new ++ rest) = m.text ++ rest') :
    ∃ c a' t, a = m.head ++ c :: a' ∧ Opens kind c ∧ m.body = c :: t ∧
      t ++ rest' = a' ++ (new ++ rest) := by
  obtain ⟨c, t, hbody, hopens⟩ := m.exists_opens
  have heq : m.head ++ c :: (t ++ rest') = a ++ (new ++ rest) := by
    rw [h, Match.text, hbody, List.append_assoc, List.cons_append]
  rcases hs.assignment_append (hn _ m.name_mem) m.assignment heq with ⟨a', ha, ht⟩ | hnew
  · exact ⟨c, a', t, ha, hopens, hbody, ht⟩
  · -- a match that opens with the body is a match for calls, but the body starts with none
    exfalso
    obtain rfl : c = '{' := by
      obtain ⟨stub, more, rfl, -⟩ := hs.opening
      exact (List.cons.inj hnew).1
    obtain rfl := eq_helperCall_of_opens hopens
    have hcall : m.body ++ rest' = '{' :: (t ++ rest') := by rw [hbody, List.cons_append]
    exact m.callBody?_ne_none hc hcall (hs.no_call _ rest hnew.symm)

/-- **Nothing starts within a sealed body.** -/
theorem Sealed.no_assignment_append (hs : Sealed names callee new)
    (hn : ∀ name ∈ names, IsName name) {place : Nat} (ha : IsStart new place a) {name : Text}
    (hname : name ∈ names) {head t : Text} (hhead : IsAssignment name head) :
    a ++ rest ≠ head ++ t := by
  intro h
  obtain ⟨w, w', hw, hw', rfl⟩ := hhead
  have heq : (name ++ w) ++ '=' :: (w' ++ t) = a ++ rest := by
    rw [h, List.append_assoc _ _ t, List.cons_append]
  rcases append_cons_eq_append heq with ⟨a', ha', -⟩ | ⟨z, hz, -⟩
  · exact hs.no_assignment place a ha name hname (name ++ w ++ ['=']) a' ⟨w, [], hw, rfl, rfl⟩
      (by rw [ha', List.append_assoc (name ++ w)]; rfl)
  · -- the closing brace would stand in the name or in the white space after it
    have hbrace : '}' ∈ a := by
      obtain ⟨initial, rfl⟩ := hs.closing
      obtain ⟨a', rfl⟩ := ha.exists_append_singleton (by decide)
      simp
    have hmem : '}' ∈ name ++ w := hz ▸ List.mem_append_left z hbrace
    rcases List.mem_append.mp hmem with hmem | hmem
    · exact (hn name hname).notMem (by decide) hmem
    · exact Text.notMem_of_blank hw (by decide) hmem

/-- An equals sign in a call stands in its string, so a quote comes after it on the same line. -/
theorem Match.exists_quote_of_equals (hc : isIdentifier callee = true)
    (m : Match names callee .helperCall) {y a : Text} (h : m.body = '{' :: (y ++ '=' :: a)) :
    ∃ q content more, IsQuote q ∧ '\n' ∉ content ∧ a = content ++ q :: more := by
  obtain ⟨name, head, before, replaced, after, value, hname, hhead, hreads⟩ := m
  cases hreads with
  | @call q w₁ w₂ raw w₃ w₄ hw₁ hw₂ hq hesc hw₃ hw₄ =>
    have hequals : isBlank '=' = false := by decide
    have hqequals : '=' ≠ q := by rcases hq with rfl | rfl <;> decide
    have hpre : '=' ∉ w₁ ++ callee ++ '(' :: (w₂ ++ [q]) := by
      simp [Text.notMem_of_blank hw₁ hequals, Text.notMem_of_blank hw₂ hequals, hqequals,
        notMem_of_isIdentifier hc (c := '=') (by decide)]
    have hpost : '=' ∉ q :: (w₃ ++ ')' :: (w₄ ++ ['}'])) := by
      simp [Text.notMem_of_blank hw₃ hequals, Text.notMem_of_blank hw₄ hequals, hqequals]
    have hsplit : (w₁ ++ callee ++ '(' :: (w₂ ++ [q])) ++
        (raw ++ q :: (w₃ ++ ')' :: (w₄ ++ ['}']))) = y ++ '=' :: a := by
      rw [Match.body] at h
      simpa using h
    rcases append_cons_eq_append hsplit.symm with ⟨a', hpre', -⟩ | ⟨y', -, hmid⟩
    · exact absurd (hpre' ▸ by simp) hpre
    · rcases append_cons_eq_append hmid.symm with ⟨content, hraw, ha⟩ | ⟨y'', -, hpost'⟩
      · refine ⟨q, content, _, hq, fun hnl => hesc.newline_notMem ?_, ha⟩
        simp [hraw, hnl]
      · exact absurd (hpost' ▸ by simp) hpost

/-- The strings of a call do not reach over an equals sign into a sealed body, as they hold no
newline. -/
theorem Sealed.not_call (hs : Sealed names callee new) (hc : isIdentifier callee = true)
    (m : Match names callee .helperCall) {t y w : Text} (hbody : m.body = '{' :: t)
    (hw : Text.Blank w) (h : t ++ rest' = y ++ '=' :: (w ++ (new ++ rest)))
    (hlen : y.length < t.length) : False := by
  obtain ⟨stub, more, rfl, hstub⟩ := hs.opening
  obtain ⟨a, rfl, ha⟩ : ∃ a, t = y ++ '=' :: a ∧
      w ++ ('{' :: (stub ++ '\n' :: more) ++ rest) = a ++ rest' := by
    rcases append_cons_eq_append h.symm with ⟨a, ht, ha⟩ | ⟨a, hy, -⟩
    · exact ⟨a, ht, ha⟩
    · rw [hy, List.length_append] at hlen
      omega
  obtain ⟨q, content, tail, hq, hcontent, rfl⟩ := m.exists_quote_of_equals hc hbody
  -- between the equals sign and the newline of the body there is no quote
  have hquote : q ∉ w ++ '{' :: stub := by
    simp [Text.notMem_of_blank hw hq.not_isBlank, hq.ne_brace, hstub q hq]
  have hreach : content ++ q :: (tail ++ rest')
      = (w ++ '{' :: stub) ++ '\n' :: (more ++ rest) := by
    simpa using ha.symm
  rcases append_cons_eq_append hreach with ⟨b, hb, -⟩ | ⟨z, hz, hnl⟩
  · exact hquote (hb ▸ by simp)
  · cases z with
    | nil => exact hq.ne_newline (List.cons.inj hnl).1.symm
    | cons d z =>
      obtain ⟨rfl, -⟩ := List.cons.inj hnl
      exact hcontent (hz ▸ by simp)

end Sealed

/-! ### A text around a body -/

section Replace

variable {names : List Text} {callee : Text} {kind₀ : LiteralKind}

/-- A text with something after the name and the equals sign of a match. -/
def Match.around (m : Match names callee kind₀) (before : Text) (blank : Char) (body rest : Text) :
    Text :=
  (before ++ blank :: m.head) ++ (body ++ rest)

/-- The candidate at the name of a match. -/
def Match.candidate (m : Match names callee kind₀) (before : Text) : Candidate :=
  ⟨kind₀, before.length + 1, m.occurrence⟩

variable {m₀ : Match names callee kind₀} {before rest new a : Text} {blank : Char} {p : Nat}

/-- **Where a name may start** in a text around a body: before the name of the match, at this name,
in the rest of the assignment, in the body, and behind it. -/
theorem isStart_around_iff (hblank : isBlank blank = true) {body r : Text} :
    IsStart (m₀.around before blank body rest) p r
      ↔ (∃ a, IsStart before p a ∧ r = (a ++ blank :: m₀.head) ++ (body ++ rest)) ∨
        (p = before.length + 1 ∧ r = m₀.head ++ (body ++ rest)) ∨
        (∃ p' a, IsStart m₀.head p' a ∧ p = before.length + 1 + p' ∧ r = a ++ (body ++ rest)) ∨
        (∃ p' a, IsStart body p' a ∧ p = before.length + 1 + m₀.head.length + p' ∧
          r = a ++ rest) ∨
        ∃ p', IsStart rest p' r ∧ p = before.length + 1 + m₀.head.length + body.length + p' := by
  rw [Match.around, List.append_assoc, isStart_append_iff]
  simp only [List.cons_append, isStart_cons_iff, isStart_append_iff]
  constructor
  · rintro (⟨a, ha, rfl⟩ | ⟨p', ⟨-, rfl, rfl⟩ |
      ⟨p'', ⟨a, ha, rfl⟩ | ⟨p₃, ⟨a, ha, rfl⟩ | ⟨p₄, h, rfl⟩, rfl⟩, rfl⟩, rfl⟩)
    · exact Or.inl ⟨a, ha, by simp⟩
    · exact Or.inr (Or.inl ⟨rfl, rfl⟩)
    · exact Or.inr (Or.inr (Or.inl ⟨p'', a, ha, by omega, rfl⟩))
    · exact Or.inr (Or.inr (Or.inr (Or.inl ⟨p₃, a, ha, by omega, rfl⟩)))
    · exact Or.inr (Or.inr (Or.inr (Or.inr ⟨p₄, h, by omega⟩)))
  · rintro (⟨a, ha, rfl⟩ | ⟨rfl, rfl⟩ | ⟨p', a, ha, rfl, rfl⟩ | ⟨p', a, ha, rfl, rfl⟩ |
      ⟨p', h, rfl⟩)
    · exact Or.inl ⟨a, ha, by simp⟩
    · exact Or.inr ⟨1, Or.inl ⟨hblank, rfl, rfl⟩, rfl⟩
    · exact Or.inr ⟨p' + 1, Or.inr ⟨p', Or.inl ⟨a, ha, rfl⟩, rfl⟩, by omega⟩
    · exact Or.inr ⟨_, Or.inr ⟨_, Or.inr ⟨p', Or.inl ⟨a, ha, rfl⟩, rfl⟩, rfl⟩, by omega⟩
    · exact Or.inr ⟨_, Or.inr ⟨_, Or.inr ⟨_, Or.inr ⟨p', h, rfl⟩, rfl⟩, rfl⟩, by omega⟩

theorem IsStart.around_left (h : IsStart before p a) (hblank : isBlank blank = true)
    (body rest : Text) :
    IsStart (m₀.around before blank body rest) p ((a ++ blank :: m₀.head) ++ (body ++ rest)) :=
  (isStart_around_iff hblank).mpr (Or.inl ⟨a, h, rfl⟩)

theorem IsStart.around_right {r : Text} (h : IsStart rest p r) (hblank : isBlank blank = true)
    (before body : Text) :
    IsStart (m₀.around before blank body rest)
      (before.length + 1 + m₀.head.length + body.length + p) r :=
  (isStart_around_iff hblank).mpr (Or.inr (Or.inr (Or.inr (Or.inr ⟨p, h, rfl⟩))))

variable (hn : ∀ name ∈ names, IsName name) (hc : isIdentifier callee = true)

include hn hc

theorem candidate_mem_around (hblank : isBlank blank = true) :
    m₀.candidate before ∈ candidates names callee (m₀.around before blank m₀.body rest) := by
  refine (mem_candidates_iff hc).mpr ⟨m₀.text ++ rest, ?_, ?_⟩
  · exact (isStart_around_iff hblank).mpr (Or.inr (Or.inl ⟨rfl, List.append_assoc _ _ _⟩))
  · exact (shape_eq_some_iff hn hc).mpr ⟨m₀, rest, rfl, rfl⟩

/-- **The text around a candidate.** Every candidate stands at the name of a match. -/
theorem exists_around_of_mem {source : Text} {c : Candidate}
    (h : c ∈ candidates names callee source) :
    ∃ (kind : LiteralKind) (m : Match names callee kind) (before : Text) (blank : Char)
      (rest : Text), isBlank blank = true ∧ source = m.around before blank m.body rest ∧
        c = m.candidate before := by
  obtain ⟨kind, place, found⟩ := c
  obtain ⟨r, ⟨before, blank, hblank, rfl, rfl⟩, hshape⟩ := (mem_candidates_iff hc).mp h
  change shape names callee kind r = some found at hshape
  obtain ⟨m, rest, rfl, rfl⟩ := (shape_eq_some_iff hn hc).mp hshape
  exact ⟨kind, m, before, blank, rest, hblank, by simp [Match.around, Match.text], rfl⟩

section Left

variable (hblank : isBlank blank = true)
  (hreg : Regular names callee (m₀.around before blank m₀.body rest)) (hstart : IsStart before p a)

include hblank hreg hstart

/-- A match that starts before the name of another one ends before that name. -/
theorem Regular.length_le {kind : LiteralKind} (m : Match names callee kind) {rest' : Text}
    (h : (a ++ blank :: m₀.head) ++ (m₀.body ++ rest) = m.text ++ rest') :
    m.text.length ≤ a.length + 1 := by
  have hmem : (⟨kind, p, m.occurrence⟩ : Candidate)
      ∈ candidates names callee (m₀.around before blank m₀.body rest) := by
    have hshape := (shape_eq_some_iff hn hc).mpr ⟨m, rest', h, rfl⟩
    exact (mem_candidates_iff hc).mpr ⟨_, hstart.around_left hblank _ _, hshape⟩
  -- both are candidates of the old text, which are apart
  have hlen := hstart.add_length
  have hle := hreg.apart _ hmem _ (candidate_mem_around hn hc hblank)
    (show p < before.length + 1 by omega)
  change p + m.text.length ≤ before.length + 1 at hle
  omega

/-- A string that opens there ends before that name, too. -/
theorem Regular.quote_mem {name head a₂ : Text} {q : Char} (hname : name ∈ names)
    (hhead : IsAssignment name head) (hq : IsQuote q)
    (h : a ++ blank :: m₀.head = head ++ q :: a₂) : q ∈ a₂ := by
  have hafter : afterEquals? name ((a ++ blank :: m₀.head) ++ (m₀.body ++ rest))
      = some (q :: (a₂ ++ (m₀.body ++ rest))) := by
    refine afterEquals?_eq_some_iff.mpr ⟨head, hhead, ?_, ?_⟩
    · rw [h, List.append_assoc, List.cons_append]
    · exact Text.trimLeft_cons_of_not_isBlank hq.not_isBlank _
  have hmem := hreg.mem_of_afterEquals? (hstart.around_left hblank _ _) hname hafter hq
  obtain ⟨v, w, hsplit, hv⟩ := List.eq_append_cons_of_mem hmem
  -- if the string were longer, it would be a match that reaches over the name
  let m : Match names callee .attributeValue :=
    ⟨name, head, [], q :: (v ++ [q]), [], v, hname, hhead, .value hq hv⟩
  have htext : (a ++ blank :: m₀.head) ++ (m₀.body ++ rest) = m.text ++ w := by
    simpa [m, Match.text, Match.body, h] using hsplit
  have hlen := Regular.length_le hn hc hblank hreg hstart m htext
  rcases append_cons_eq_append hsplit.symm with ⟨a', ha', -⟩ | ⟨z, hz, -⟩
  · simp [ha']
  · have hlen' := congrArg List.length h
    simp only [m, Match.text, Match.body, hz, List.length_append, List.length_cons,
      List.length_nil] at hlen hlen'
    omega

/-- **A match does not reach into a sealed body.** If it starts before the name of another match, it
ends at the left of the body. -/
theorem Regular.length_le_of_sealed (hs : Sealed names callee new) {kind : LiteralKind}
    (m : Match names callee kind) {rest' : Text}
    (h : (a ++ blank :: m₀.head) ++ (new ++ rest) = m.text ++ rest') :
    m.text.length ≤ (a ++ blank :: m₀.head).length := by
  by_contra hlong
  obtain ⟨c, a', t, ha, hopens, hbody, ht⟩ := hs.exists_opens hn hc m h
  have hshort : a'.length < t.length := by
    rw [ha, Match.text, hbody, List.length_append, List.length_append, List.length_cons,
      List.length_cons] at hlong
    omega
  cases kind with
  | attributeValue =>
    -- the string is closed before the name of the other match, so the value would hold its quote
    have hmem := Regular.quote_mem hn hc hblank hreg hstart m.name_mem m.assignment hopens ha
    obtain ⟨q, value, hvalue, hq⟩ := m.exists_value
    obtain ⟨rfl, rfl⟩ := List.cons.inj (hbody.symm.trans hvalue)
    rw [List.length_append, List.length_singleton] at hshort
    rw [List.append_assoc] at ht
    obtain ⟨d, rfl, -⟩ := exists_append_of_length_le ht.symm (Nat.le_of_lt_succ hshort)
    exact hq (List.mem_append_left d hmem)
  | helperCall =>
    -- the call would reach over the equals sign of the other match
    obtain rfl : c = '{' := hopens
    have hbrace : '{' ∉ blank :: m₀.head := by
      have hne : '{' ≠ blank := fun he => absurd (he ▸ hblank) (by decide)
      have hhead := m₀.assignment.notMem (hn _ m₀.name_mem) (c := '{') (by decide) (by decide)
        (by decide)
      simp [hne, hhead]
    rcases append_cons_eq_append ha.symm with ⟨a'', -, rfl⟩ | ⟨z, -, hz⟩
    · obtain ⟨w, w', hw, hw', hhead⟩ := m₀.assignment
      have hsplit : t ++ rest' = (a'' ++ blank :: (m₀.name ++ w)) ++ '=' ::
          (w' ++ (new ++ rest)) := by
        rw [ht, hhead]
        simp
      refine hs.not_call hc m hbody hw' hsplit ?_
      rw [hhead] at hshort
      simp only [List.length_append, List.length_cons] at hshort ⊢
      omega
    · exact hbrace (hz ▸ by simp)

/-- **At the left of the body** the same names lead to a class list in both texts. -/
theorem Regular.shape_left_iff (hs : Sealed names callee new) {kind : LiteralKind}
    {o : Occurrence} :
    shape names callee kind ((a ++ blank :: m₀.head) ++ (new ++ rest)) = some o
      ↔ shape names callee kind ((a ++ blank :: m₀.head) ++ (m₀.body ++ rest)) = some o := by
  rw [shape_eq_some_iff hn hc, shape_eq_some_iff hn hc]
  -- a match that ends at the left of the body does not see what comes after it
  constructor
  · rintro ⟨m, rest', h, rfl⟩
    have hlen := Regular.length_le_of_sealed hn hc hblank hreg hstart hs m h
    obtain ⟨z, hz, -⟩ := exists_append_of_length_le h.symm hlen
    exact ⟨m, z ++ (m₀.body ++ rest), by rw [hz, List.append_assoc], rfl⟩
  · rintro ⟨m, rest', h, rfl⟩
    have hlen : m.text.length ≤ (a ++ blank :: m₀.head).length := by
      have hle := Regular.length_le hn hc hblank hreg hstart m h
      rw [List.length_append, List.length_cons]
      omega
    obtain ⟨z, hz, -⟩ := exists_append_of_length_le h.symm hlen
    exact ⟨m, z ++ (new ++ rest), by rw [hz, List.append_assoc], rfl⟩

end Left

/-- At the name of a match or in the rest of its assignment, no class list starts before a sealed
body. -/
theorem Sealed.shape_eq_none (hs : Sealed names callee new) {kind : LiteralKind}
    (ha : ∀ c ∈ a, c ∈ m₀.head) : shape names callee kind (a ++ (new ++ rest)) = none := by
  refine Option.eq_none_iff_forall_ne_some.mpr fun o h => ?_
  obtain ⟨m, rest', htext, -⟩ := (shape_eq_some_iff hn hc).mp h
  obtain ⟨c, a', t, heq, hopens, -, -⟩ := hs.exists_opens hn hc m htext
  refine m₀.assignment.notMem (hn _ m₀.name_mem) hopens.mem_nameDelimiters hopens.ne_equals
    hopens.not_isBlank (ha c ?_)
  simp [heq]

section Regular

variable (hblank : isBlank blank = true)
  (hreg : Regular names callee (m₀.around before blank m₀.body rest))
  (hs : Sealed names callee new)

include hblank hreg

/-- The other candidates end before the name of the match or start behind its body. -/
theorem Regular.stop_le_or_le_place {c : Candidate}
    (hmem : c ∈ candidates names callee (m₀.around before blank m₀.body rest)) :
    (c.place < before.length + 1 ∧ c.stop ≤ before.length + 1) ∨ c = m₀.candidate before ∨
      before.length + 1 + m₀.text.length ≤ c.place := by
  have hown : m₀.candidate before ∈ candidates names callee
      (m₀.around before blank m₀.body rest) := candidate_mem_around hn hc hblank
  rcases Nat.lt_trichotomy c.place (before.length + 1) with hlt | heq | hgt
  · exact Or.inl ⟨hlt, hreg.apart _ hmem _ hown hlt⟩
  · exact Or.inr (Or.inl (eq_of_place_eq hn hc hmem hown heq))
  · exact Or.inr (Or.inr (hreg.apart _ hown _ hmem hgt))

include hs

/-- No candidate arises from a sealed body. -/
theorem exists_mem_of_mem_around {c : Candidate}
    (hmem : c ∈ candidates names callee (m₀.around before blank new rest)) :
    ∃ d ∈ candidates names callee (m₀.around before blank m₀.body rest),
      d ≠ m₀.candidate before ∧
      c = { d with place := if d.place ≤ before.length then d.place
              else d.place + new.length - m₀.body.length } := by
  obtain ⟨r, hr, hshape⟩ := (mem_candidates_iff hc).mp hmem
  rcases (isStart_around_iff hblank).mp hr with ⟨a, ha, rfl⟩ | ⟨-, rfl⟩ | ⟨p', a, ha, -, rfl⟩ |
    ⟨p', a, ha, -, rfl⟩ | ⟨p', ha, hplace⟩
  · -- before the name of the match
    have hlen := ha.add_length
    have hold := (Regular.shape_left_iff hn hc hblank hreg ha hs).mp hshape
    refine ⟨c, (mem_candidates_iff hc).mpr ⟨_, ha.around_left hblank _ _, hold⟩, ?_, ?_⟩
    · intro he
      have hplace : c.place = before.length + 1 := congrArg Candidate.place he
      omega
    · rw [if_pos (by omega)]
  · -- at the name, where the sealed body is no value
    rw [hs.shape_eq_none hn hc fun c hc => hc] at hshape
    exact absurd hshape (by simp)
  · -- in the rest of the assignment
    rw [hs.shape_eq_none hn hc fun c hc => ha.mem hc] at hshape
    exact absurd hshape (by simp)
  · -- in the body
    obtain ⟨m, rest', htext, -⟩ := (shape_eq_some_iff hn hc).mp hshape
    rw [Match.text, List.append_assoc] at htext
    exact absurd htext (hs.no_assignment_append hn ha m.name_mem m.assignment)
  · -- behind the body
    obtain ⟨kind, place, found⟩ := c
    obtain rfl : place = _ := hplace
    have hpos := ha.pos
    have hold : IsStart (m₀.around before blank m₀.body rest) _ r := ha.around_right hblank _ _
    refine ⟨⟨kind, before.length + 1 + m₀.head.length + m₀.body.length + p', found⟩,
      (mem_candidates_iff hc).mpr ⟨r, hold, hshape⟩, ?_, ?_⟩
    · intro he
      have hplace' := congrArg Candidate.place he
      simp only [Match.candidate] at hplace'
      omega
    · rw [if_neg (by simp only; omega), Candidate.mk.injEq]
      exact ⟨rfl, by simp only; omega, rfl⟩

/-- No candidate but the one whose body is replaced is lost. -/
theorem mem_around_of_mem {d : Candidate}
    (hd : d ∈ candidates names callee (m₀.around before blank m₀.body rest))
    (hne : d ≠ m₀.candidate before) :
    { d with place := if d.place ≤ before.length then d.place
        else d.place + new.length - m₀.body.length }
      ∈ candidates names callee (m₀.around before blank new rest) := by
  rw [mem_candidates_iff hc]
  obtain ⟨r, hr, hshape⟩ := (mem_candidates_iff hc).mp hd
  have hlength : m₀.text.length = m₀.head.length + m₀.body.length := List.length_append
  have hpos : 0 < m₀.body.length := m₀.body_length_pos
  rcases hreg.stop_le_or_le_place hn hc hblank hd with ⟨hlt, -⟩ | heq | hge
  · -- it ends before the name, so it starts in the text before it
    rw [if_pos (by omega)]
    rcases (isStart_around_iff hblank).mp hr with ⟨a, ha, rfl⟩ | ⟨hp, -⟩ | ⟨_, _, -, hp, -⟩ |
      ⟨_, _, -, hp, -⟩ | ⟨_, -, hp⟩
    · exact ⟨_, ha.around_left hblank _ _,
        (Regular.shape_left_iff hn hc hblank hreg ha hs).mpr hshape⟩
    all_goals omega
  · exact absurd heq hne
  · -- it starts behind the old body, which does not end in white space
    rw [if_neg (by omega)]
    rcases (isStart_around_iff hblank).mp hr with ⟨a, ha, -⟩ | ⟨hp, -⟩ | ⟨_, _, ha, hp, -⟩ |
      ⟨_, _, ha, hp, -⟩ | ⟨p', ha, hp⟩
    · have hlen := ha.add_length
      omega
    · omega
    · have hlen := ha.add_length
      omega
    · have hlen := ha.add_length
      obtain ⟨initial, c, hbody, hlast⟩ := m₀.exists_last
      obtain ⟨a', rfl⟩ := (hbody ▸ ha).exists_append_singleton hlast
      rw [List.length_append, List.length_singleton] at hlen
      omega
    · have hnew : IsStart (m₀.around before blank new rest) _ r := ha.around_right hblank _ _
      have hplace : d.place + new.length - m₀.body.length
          = before.length + 1 + m₀.head.length + new.length + p' := by omega
      exact ⟨r, hplace ▸ hnew, hshape⟩

/-- **The candidates around a sealed body** are those around the old one without the candidate that
it belonged to, at their places or moved with the text behind the body. -/
theorem mem_candidates_around_iff {c : Candidate} :
    c ∈ candidates names callee (m₀.around before blank new rest)
      ↔ ∃ d ∈ candidates names callee (m₀.around before blank m₀.body rest),
        d ≠ m₀.candidate before ∧
        c = { d with place := if d.place ≤ before.length then d.place
                else d.place + new.length - m₀.body.length } := by
  constructor
  · exact exists_mem_of_mem_around hn hc hblank hreg hs
  · rintro ⟨d, hd, hne, rfl⟩
    exact mem_around_of_mem hn hc hblank hreg hs hd hne

/-- **A regular text stays regular** when the body of one of its candidates is replaced by a sealed
one. -/
theorem Regular.around : Regular names callee (m₀.around before blank new rest) where
  apart := by
    intro c hcmem d hdmem hlt
    obtain ⟨c', hc', hne, rfl⟩ := (mem_candidates_around_iff hn hc hblank hreg hs).mp hcmem
    obtain ⟨d', hd', hne', rfl⟩ := (mem_candidates_around_iff hn hc hblank hreg hs).mp hdmem
    have hlength : m₀.text.length = m₀.head.length + m₀.body.length := List.length_append
    have hcases := (hreg.stop_le_or_le_place hn hc hblank hc').imp_right fun h =>
      h.resolve_left hne
    have hcases' := (hreg.stop_le_or_le_place hn hc hblank hd').imp_right fun h =>
      h.resolve_left hne'
    have hapart := hreg.apart c' hc' d' hd'
    -- behind the body both are moved by the same amount, and before it none is
    simp only [Candidate.stop] at hcases hcases' hapart hlt ⊢
    split at hlt <;> split at hlt <;> split <;> omega
  closed := by
    rintro ⟨p, r⟩ hmem name hname
    have hr := (mem_starts_iff.mp hmem).2
    refine closesString_iff.mpr fun q t hafter hq => ?_
    obtain ⟨head, hhead, rfl, -⟩ := afterEquals?_eq_some_iff.mp hafter
    -- if the name starts at the left of the new body, the quote stands there, too
    have hleft {x : Text} (h : head ++ q :: t = x ++ (new ++ rest)) :
        ∃ a, x = head ++ q :: a ∧ t = a ++ (new ++ rest) := by
      refine (hs.assignment_append (hn name hname) hhead h).resolve_right fun hnew => ?_
      obtain ⟨stub, more, rfl, -⟩ := hs.opening
      exact hq.ne_brace (List.cons.inj hnew).1
    -- but the assignment of the match holds no quote
    have hown {x : Text} (hx : ∀ c ∈ x, c ∈ m₀.head) (h : head ++ q :: t = x ++ (new ++ rest)) :
        False := by
      obtain ⟨a, rfl, -⟩ := hleft h
      have hopens : Opens .attributeValue q := hq
      exact m₀.assignment.notMem (hn _ m₀.name_mem) hopens.mem_nameDelimiters hopens.ne_equals
        hq.not_isBlank (hx q (by simp))
    rcases (isStart_around_iff hblank).mp hr with ⟨a, ha, h⟩ | ⟨-, h⟩ | ⟨_, a, ha, -, h⟩ |
      ⟨p', a, ha, -, h⟩ | ⟨p', ha, -⟩
    · -- before the name of the match, the string ends where it did
      obtain ⟨a', ha', rfl⟩ := hleft h
      exact List.mem_append_left _
        (Regular.quote_mem hn hc hblank hreg ha hname hhead hq ha')
    · exact (hown (fun c hc => hc) h).elim
    · exact (hown (fun c hc => ha.mem hc) h).elim
    · exact absurd h.symm (hs.no_assignment_append hn ha hname hhead)
    · exact hreg.mem_of_afterEquals? (ha.around_right hblank _ _) hname hafter hq
  plain := by
    intro c hcmem
    obtain ⟨d, hd, -, rfl⟩ := (mem_candidates_around_iff hn hc hblank hreg hs).mp hcmem
    exact hreg.plain d hd

end Regular

end Replace

end ClassGroups.Jsx
