import ClassGroups.Jsx.Literal
import ClassGroups.Proofs.Scanning

/-!
# What the two shapes consist of

The scanners for class lists return places and a value. For proofs it is handier to know the pieces
of the text they have accepted. A `Match` holds the pieces, and the main statement,
`shape_eq_some_iff`, is that a scanner accepts a text exactly when the text starts with the pieces
of a match. What comes after the pieces does not matter, so a match is found again wherever its
pieces are put.

Names of attributes are `IsName`: they hold no white space and none of the characters that come
after a name. Hence a text starts with one name at most (`name_unique`, for which it is enough that
names are `IsUnbroken`), and it does not matter in which order the names are tried.
-/

namespace ClassGroups.Jsx

/-! ### Names and quotes -/

/-- The characters that may come right after a name or inside a string. -/
def nameDelimiters : Text := "=\"'\x7b\x7d\\"

/-- **A name of an attribute** holds neither white space nor a delimiter. -/
def IsName (name : Text) : Prop := ∀ c ∈ name, isBlank c = false ∧ c ∉ nameDelimiters

/-- A name that can be told from what comes after it in an assignment: it holds neither white space
nor an equals sign. -/
def IsUnbroken (name : Text) : Prop := ∀ c ∈ name, isBlank c = false ∧ c ≠ '='

instance {name : Text} : Decidable (IsUnbroken name) :=
  decidable_of_iff (name.all (fun c => !isBlank c && c != '=') = true) (by simp [IsUnbroken])

/-- The quotes that delimit strings. -/
def IsQuote (c : Char) : Prop := c = '"' ∨ c = '\''

/-- A name with its equals sign and the white space around it. -/
def IsAssignment (name head : Text) : Prop :=
  ∃ before after, Text.Blank before ∧ Text.Blank after ∧ head = name ++ before ++ '=' :: after

/-- The content of a string in which a backslash goes together with the character after it. -/
inductive IsEscaped (mark : Char) : Text → Prop
  | nil : IsEscaped mark []
  | plain {c : Char} {s : Text} : c ≠ mark → c ≠ '\n' → c ≠ '\\' → IsEscaped mark s →
      IsEscaped mark (c :: s)
  | escape {c : Char} {s : Text} : c ≠ '\n' → IsEscaped mark s → IsEscaped mark ('\\' :: c :: s)

section Quotes

variable {q : Char}

theorem IsQuote.not_isBlank (h : IsQuote q) : isBlank q = false := by
  rcases h with rfl | rfl <;> decide

theorem IsQuote.ne_brace (h : IsQuote q) : q ≠ '{' := by
  rcases h with rfl | rfl <;> decide

theorem IsQuote.ne_newline (h : IsQuote q) : q ≠ '\n' := by
  rcases h with rfl | rfl <;> decide

theorem IsQuote.ne_backslash (h : IsQuote q) : q ≠ '\\' := by
  rcases h with rfl | rfl <;> decide

theorem IsEscaped.newline_notMem {s : Text} (h : IsEscaped q s) : '\n' ∉ s := by
  induction h with
  | nil => exact List.not_mem_nil
  | plain _ hc _ _ ih => simpa [Ne.symm hc] using ih
  | escape hc _ ih => simpa [Ne.symm hc] using ih

theorem unescape_cons {c : Char} (h : c ≠ '\\') (s : Text) :
    unescape (c :: s) = c :: unescape s := by
  cases s with
  | nil => rfl
  | cons d s => rw [unescape, if_neg fun hand => h hand.1]

theorem unescape_escape {c : Char} (h : c ≠ '\n') (s : Text) :
    unescape ('\\' :: c :: s) = c :: unescape s := by
  rw [unescape, if_pos ⟨rfl, h⟩]

end Quotes

/-! ### Strings -/

/-- A string without escapes ends at the first quote of its kind. -/
theorem plainString?_eq_some_iff {s value rest : Text} :
    plainString? s = some (value, rest)
      ↔ ∃ q, IsQuote q ∧ q ∉ value ∧ s = q :: (value ++ q :: rest) := by
  cases s with
  | nil => simp [plainString?]
  | cons c s =>
    rw [plainString?]
    constructor
    · intro h
      split at h
      · next hc =>
        obtain ⟨hmem, rfl⟩ := Text.cutAt?_eq_some_iff.mp h
        exact ⟨c, hc, hmem, rfl⟩
      · exact absurd h (by simp)
    · rintro ⟨q, hq, hmem, heq⟩
      obtain ⟨rfl, rfl⟩ := List.cons.inj heq
      rw [if_pos (show c = '"' ∨ c = '\'' from hq)]
      exact Text.cutAt?_eq_some_iff.mpr ⟨hmem, rfl⟩

/-- The content of a string with escapes ends at the first quote that is not escaped. -/
theorem escapedBody?_eq_some_iff {mark : Char} (hm : IsQuote mark) {s raw rest : Text} :
    escapedBody? mark s = some (raw, rest) ↔ IsEscaped mark raw ∧ s = raw ++ mark :: rest := by
  constructor
  · intro h
    -- the scan fails at the end, at a newline and at a backslash before one of them
    fun_induction escapedBody? mark s generalizing raw with
    | case1 => exact absurd h (by simp)
    | case2 =>
      obtain ⟨rfl, rfl⟩ := Prod.mk.inj (Option.some.inj h)
      exact ⟨.nil, rfl⟩
    | case3 => exact absurd h (by simp)
    | case4 =>
      obtain ⟨rfl, rfl⟩ := Prod.mk.inj (Option.some.inj h)
      exact ⟨.nil, rfl⟩
    | case5 => exact absurd h (by simp)
    | case6 => exact absurd h (by simp)
    | case7 d s hd hmark hnewline ih =>
      obtain ⟨⟨b, r⟩, hb, heq⟩ := Option.map_eq_some_iff.mp h
      obtain ⟨rfl, rfl⟩ := Prod.mk.inj heq
      obtain ⟨hesc, rfl⟩ := ih hb
      exact ⟨.escape ‹_› hesc, rfl⟩
    | case8 c d s hmark hnewline hslash ih =>
      obtain ⟨⟨b, r⟩, hb, heq⟩ := Option.map_eq_some_iff.mp h
      obtain ⟨rfl, rfl⟩ := Prod.mk.inj heq
      obtain ⟨hesc, hs⟩ := ih hb
      exact ⟨.plain hmark hnewline hslash hesc, by rw [hs, List.cons_append]⟩
  · rintro ⟨hesc, rfl⟩
    induction hesc with
    | nil => cases rest <;> simp [escapedBody?]
    | @plain c s hmark hnewline hslash _ ih =>
      -- the scan looks two characters ahead, and the second one is there as the quote is
      obtain ⟨d, t, ht⟩ := List.exists_cons_of_ne_nil (l := s ++ mark :: rest) (by simp)
      rw [ht] at ih
      rw [List.cons_append, ht, escapedBody?, if_neg hmark, if_neg hnewline, if_neg hslash, ih]
      rfl
    | escape hc _ ih =>
      rw [List.cons_append, List.cons_append, escapedBody?, if_neg hm.ne_backslash.symm,
        if_neg (by decide), if_pos rfl, if_neg hc, ih]
      rfl

theorem escapedString?_eq_some_iff {s raw rest : Text} :
    escapedString? s = some (raw, rest)
      ↔ ∃ q, IsQuote q ∧ IsEscaped q raw ∧ s = q :: (raw ++ q :: rest) := by
  cases s with
  | nil => simp [escapedString?]
  | cons c s =>
    rw [escapedString?]
    constructor
    · intro h
      split at h
      · next hc =>
        obtain ⟨hesc, rfl⟩ := (escapedBody?_eq_some_iff hc).mp h
        exact ⟨c, hc, hesc, rfl⟩
      · exact absurd h (by simp)
    · rintro ⟨q, hq, hesc, heq⟩
      obtain ⟨rfl, rfl⟩ := List.cons.inj heq
      rw [if_pos (show c = '"' ∨ c = '\'' from hq)]
      exact (escapedBody?_eq_some_iff hq).mpr ⟨hesc, rfl⟩

/-! ### The name and the equals sign -/

/-- A text starts with a name and its equals sign exactly when it is an assignment to the name and
something that does not start with white space. -/
theorem afterEquals?_eq_some_iff {name s t : Text} :
    afterEquals? name s = some t
      ↔ ∃ head, IsAssignment name head ∧ s = head ++ t ∧ Text.trimLeft t = t := by
  unfold afterEquals?
  constructor
  · intro h
    obtain ⟨s₁, hs₁, h⟩ := Option.bind_eq_some_iff.mp h
    obtain ⟨s₂, hs₂, h⟩ := Option.bind_eq_some_iff.mp h
    obtain rfl := Option.some.inj h
    -- the assignment is the name with the white space that was skipped around the equals sign
    have hequals := Text.eq_append_of_after? hs₂
    refine ⟨name ++ Text.leadingBlanks s₁ ++ '=' :: Text.leadingBlanks s₂,
      ⟨_, _, Text.blank_leadingBlanks s₁, Text.blank_leadingBlanks s₂, rfl⟩, ?_,
      Text.trimLeft_trimLeft s₂⟩
    calc s = name ++ s₁ := Text.eq_append_of_after? hs₁
      _ = name ++ (Text.leadingBlanks s₁ ++ '=' :: s₂) := by
        rw [← List.singleton_append, ← hequals, Text.leadingBlanks_append_trimLeft]
      _ = _ := by
        rw [List.append_assoc, List.append_assoc, List.cons_append,
          Text.leadingBlanks_append_trimLeft]
  · rintro ⟨head, ⟨before, after, hbefore, hafter, rfl⟩, rfl, ht⟩
    rw [List.append_assoc, List.append_assoc, Text.after?_append, Option.bind_eq_bind,
      Option.bind_some, Text.trimLeft_append_of_blank hbefore, List.cons_append,
      Text.trimLeft_cons_of_not_isBlank (by decide), Text.after?_cons_self, Option.bind_some,
      Text.trimLeft_append_of_blank hafter, ht]
    rfl

section Names

variable {name name' s t t' : Text}

theorem IsName.not_isBlank (h : IsName name) {c : Char} (hc : c ∈ name) : isBlank c = false :=
  (h c hc).1

theorem IsName.notMem (h : IsName name) {c : Char} (hc : c ∈ nameDelimiters) : c ∉ name :=
  fun hmem => (h c hmem).2 hc

/-- In an assignment, nothing but the equals sign is a delimiter. -/
theorem IsAssignment.notMem (hn : IsName name) {head : Text} (h : IsAssignment name head)
    {c : Char} (hc : c ∈ nameDelimiters) (hequals : c ≠ '=') (hblank : isBlank c = false) :
    c ∉ head := by
  obtain ⟨before, after, hbefore, hafter, rfl⟩ := h
  simp [hn.notMem hc, hequals, Text.notMem_of_blank hbefore hblank,
    Text.notMem_of_blank hafter hblank]

theorem IsName.isUnbroken (h : IsName name) : IsUnbroken name := by
  intro c hc
  have hne : c ≠ '=' := fun he => (h c hc).2 (he ▸ by decide)
  exact ⟨h.not_isBlank hc, hne⟩

/-- The name of an assignment is the beginning up to white space or the equals sign. -/
theorem takeWhile_of_isAssignment (hn : IsUnbroken name) {head : Text}
    (h : IsAssignment name head) :
    (head ++ t).takeWhile (fun c => !isBlank c && c != '=') = name := by
  obtain ⟨before, after, hbefore, -, rfl⟩ := h
  have hname : ∀ c ∈ name, (!isBlank c && c != '=') = true := by
    intro c hc
    simp [(hn c hc).1, (hn c hc).2]
  rw [List.append_assoc, List.append_assoc, List.takeWhile_append_of_pos hname]
  -- what comes after the name is the equals sign or white space before it
  cases before with
  | nil => simp
  | cons b before =>
    rw [Text.Blank, List.all_cons, Bool.and_eq_true] at hbefore
    rw [List.cons_append, List.takeWhile_cons_of_neg (by simp [hbefore.1]), List.append_nil]

/-- **A text starts with one name at most**, and what follows the equals sign is determined. -/
theorem name_unique (hn : IsUnbroken name) (hn' : IsUnbroken name')
    (h : afterEquals? name s = some t) (h' : afterEquals? name' s = some t') : name = name' := by
  obtain ⟨head, hhead, hs, -⟩ := afterEquals?_eq_some_iff.mp h
  obtain ⟨head', hhead', hs', -⟩ := afterEquals?_eq_some_iff.mp h'
  calc name = s.takeWhile _ := by rw [hs, takeWhile_of_isAssignment hn hhead]
    _ = name' := by rw [hs', takeWhile_of_isAssignment hn' hhead']

end Names

/-! ### Calls -/

/-- White space before a call does not belong to the name of the helper, so of all the ways to skip
some of it only the one that skips all of it counts. -/
theorem findSome?_afterBlanks {α : Type} {f : Text → Option α}
    (h : ∀ c s, isBlank c = true → f (c :: s) = none) (s : Text) :
    (afterBlanks s).findSome? f = f (Text.trimLeft s) := by
  induction s with
  | nil => cases hf : f [] <;> simp [afterBlanks, Text.trimLeft, hf]
  | cons c s ih =>
    rw [afterBlanks, List.findSome?_append]
    by_cases hc : isBlank c = true
    · rw [if_pos hc, ih, Text.trimLeft_cons_of_isBlank hc, List.findSome?_singleton, h c s hc,
        Option.or_none]
    · rw [if_neg hc, Text.trimLeft_cons_of_not_isBlank (by simpa using hc),
        List.findSome?_nil, List.findSome?_singleton, Option.none_or]

theorem callBody?_eq_some_iff {callee call value rest after : Text} :
    callBody? callee call = some (value, rest, after)
      ↔ ∃ w₁ q raw w₂ w₃, Text.Blank w₁ ∧ IsQuote q ∧ IsEscaped q raw ∧ Text.Blank w₂ ∧
        Text.Blank w₃ ∧ unescape raw = value ∧ rest = w₃ ++ '}' :: after ∧
        call = callee ++ '(' :: (w₁ ++ q :: (raw ++ q :: (w₂ ++ ')' :: rest))) := by
  unfold callBody?
  constructor
  · intro h
    obtain ⟨argument, hargument, h⟩ := Option.bind_eq_some_iff.mp h
    obtain ⟨⟨raw, s⟩, hraw, h⟩ := Option.bind_eq_some_iff.mp h
    obtain ⟨r, hr, h⟩ := Option.bind_eq_some_iff.mp h
    obtain ⟨a, ha, h⟩ := Option.bind_eq_some_iff.mp h
    obtain ⟨rfl, hrest⟩ := Prod.mk.inj (Option.some.inj h)
    obtain ⟨rfl, rfl⟩ := Prod.mk.inj hrest
    obtain ⟨q, hq, hesc, htext⟩ := escapedString?_eq_some_iff.mp hraw
    -- the white space of the call is what was skipped before the string and before each bracket
    have hclose := Text.eq_append_of_after? hr
    have hbrace := Text.eq_append_of_after? ha
    refine ⟨Text.leadingBlanks argument, q, raw, Text.leadingBlanks s, Text.leadingBlanks r,
      Text.blank_leadingBlanks _, hq, hesc, Text.blank_leadingBlanks _,
      Text.blank_leadingBlanks _, rfl, ?_, ?_⟩
    · rw [← List.singleton_append, ← hbrace, Text.leadingBlanks_append_trimLeft]
    · rw [Text.eq_append_of_after? hargument, ← List.singleton_append (x := ')'), ← hclose,
        Text.leadingBlanks_append_trimLeft, ← htext, Text.leadingBlanks_append_trimLeft,
        List.append_assoc]
      rfl
  · rintro ⟨w₁, q, raw, w₂, w₃, hw₁, hq, hesc, hw₂, hw₃, rfl, rfl, rfl⟩
    -- read from the left, each step skips white space and takes off what it expects
    have hstring := escapedString?_eq_some_iff.mpr
      ⟨q, hq, hesc, (rfl : q :: (raw ++ q :: (w₂ ++ ')' :: (w₃ ++ '}' :: after))) = _)⟩
    have hopen (t : Text) : Text.after? (callee ++ ['(']) (callee ++ '(' :: t) = some t := by
      simpa using Text.after?_append (callee ++ ['(']) t
    rw [hopen, Option.bind_eq_bind, Option.bind_some,
      Text.trimLeft_append_of_blank hw₁, Text.trimLeft_cons_of_not_isBlank hq.not_isBlank,
      hstring]
    simp only [Option.bind_eq_bind, Option.bind_some]
    rw [Text.trimLeft_append_of_blank hw₂, Text.trimLeft_cons_of_not_isBlank (by decide),
      Text.after?_cons_self]
    simp only [Option.bind_some]
    rw [Text.trimLeft_append_of_blank hw₃, Text.trimLeft_cons_of_not_isBlank (by decide),
      Text.after?_cons_self]
    rfl

/-! ### Matches -/

/-- **What stands after an assignment**, in three pieces: the middle one would be replaced and has
the value. -/
inductive Reads (callee : Text) : LiteralKind → (before replaced after value : Text) → Prop
  | value {q : Char} {value : Text} : IsQuote q → q ∉ value →
      Reads callee .attributeValue [] (q :: (value ++ [q])) [] value
  | call {q : Char} {w₁ w₂ raw w₃ w₄ : Text} : Text.Blank w₁ → Text.Blank w₂ → IsQuote q →
      IsEscaped q raw → Text.Blank w₃ → Text.Blank w₄ →
      Reads callee .helperCall ('{' :: w₁)
        (callee ++ '(' :: (w₂ ++ q :: (raw ++ q :: (w₃ ++ [')'])))) (w₄ ++ ['}']) (unescape raw)

/-- The scanner for a shape after a name. -/
def shapeAt? (callee : Text) : LiteralKind → Text → Text → Option Occurrence
  | .attributeValue => attributeAt?
  | .helperCall => callAt? callee

/-- The scanner for a shape after any of several names. -/
def shape (names : List Text) (callee : Text) (kind : LiteralKind) (s : Text) :
    Option Occurrence :=
  names.findSome? (shapeAt? callee kind s)

/-- Whether a character opens what stands after an assignment: a quote for a value and a brace for a
call. -/
def Opens : LiteralKind → Char → Prop
  | .attributeValue, c => IsQuote c
  | .helperCall, c => c = '{'

/-- The pieces of a text that a scanner accepts. -/
structure Match (names : List Text) (callee : Text) (kind : LiteralKind) where
  /-- The name of the attribute. -/
  name : Text
  /-- The name with its equals sign. -/
  head : Text
  /-- What stands between them and the part to be replaced. -/
  before : Text
  /-- The part to be replaced. -/
  replaced : Text
  /-- What comes after this part. -/
  after : Text
  /-- The class list. -/
  value : Text
  /-- The name is one of the given names. -/
  name_mem : name ∈ names
  /-- The first piece is an assignment to it. -/
  assignment : IsAssignment name head
  /-- The other pieces are those of the shape. -/
  reads : Reads callee kind before replaced after value

namespace Match

variable {names : List Text} {callee : Text} {kind : LiteralKind}

/-- What stands after the assignment. -/
def body (m : Match names callee kind) : Text := m.before ++ (m.replaced ++ m.after)

/-- The pieces together. -/
def text (m : Match names callee kind) : Text := m.head ++ m.body

/-- The pieces, if all names are given. -/
def widen (m : Match names callee kind) {names' : List Text} (h : m.name ∈ names') :
    Match names' callee kind :=
  { m with name_mem := h }

/-- The places of the pieces, which is all that a scanner returns. -/
def occurrence (m : Match names callee kind) : Occurrence where
  start := m.head.length + m.before.length
  stop := m.head.length + m.before.length + m.replaced.length
  length := m.text.length
  value := m.value

/-- The first character after the assignment tells the shape. -/
theorem exists_opens (m : Match names callee kind) : ∃ c t, m.body = c :: t ∧ Opens kind c := by
  obtain ⟨name, head, before, replaced, after, value, hname, hhead, hreads⟩ := m
  cases hreads with
  | @value q value hq _ => exact ⟨q, _, rfl, hq⟩
  | call _ _ _ _ _ _ => exact ⟨'{', _, rfl, rfl⟩

/-- What stands after the assignment in a match for values. -/
theorem exists_value (m : Match names callee .attributeValue) :
    ∃ q value, m.body = q :: (value ++ [q]) ∧ q ∉ value := by
  obtain ⟨name, head, before, replaced, after, value, hname, hhead, hreads⟩ := m
  cases hreads with
  | @value q value _ hmem => exact ⟨q, value, by simp [body], hmem⟩

/-- The pieces of a match for values. -/
theorem exists_value_pieces (m : Match names callee .attributeValue) :
    ∃ q, IsQuote q ∧ q ∉ m.value ∧ m.before = [] ∧ m.replaced = q :: (m.value ++ [q]) := by
  obtain ⟨name, head, before, replaced, after, value, hname, hhead, hreads⟩ := m
  cases hreads with
  | @value q value hq hmem => exact ⟨q, hq, hmem, rfl, rfl⟩

/-- The pieces of a match for calls. -/
theorem exists_call_pieces (m : Match names callee .helperCall) :
    ∃ w₁ w₂ q raw w₃ w₄, Text.Blank w₁ ∧ Text.Blank w₂ ∧ IsQuote q ∧ IsEscaped q raw ∧
      Text.Blank w₃ ∧ Text.Blank w₄ ∧ m.before = '{' :: w₁ ∧
      m.replaced = callee ++ '(' :: (w₂ ++ q :: (raw ++ q :: (w₃ ++ [')']))) ∧
      m.after = w₄ ++ ['}'] ∧ m.value = unescape raw := by
  obtain ⟨name, head, before, replaced, after, value, hname, hhead, hreads⟩ := m
  cases hreads with
  | @call q w₁ w₂ raw w₃ w₄ hw₁ hw₂ hq hesc hw₃ hw₄ =>
    exact ⟨w₁, w₂, q, raw, w₃, w₄, hw₁, hw₂, hq, hesc, hw₃, hw₄, rfl, rfl, rfl, rfl⟩

theorem start_lt_stop (m : Match names callee kind) : m.occurrence.start < m.occurrence.stop := by
  obtain ⟨name, head, before, replaced, after, value, hname, hhead, hreads⟩ := m
  cases hreads with
  | value _ _ => simp [occurrence]
  | call _ _ _ _ _ _ =>
    simp only [occurrence, List.length_append, List.length_cons]
    omega

theorem stop_le_length (m : Match names callee kind) :
    m.occurrence.stop ≤ m.occurrence.length := by
  simp only [occurrence, text, body, List.length_append]
  omega

/-- The last character of a match is not white space. -/
theorem exists_last (m : Match names callee kind) :
    ∃ initial c, m.body = initial ++ [c] ∧ isBlank c = false := by
  obtain ⟨name, head, before, replaced, after, value, hname, hhead, hreads⟩ := m
  cases hreads with
  | @value q value hq _ => exact ⟨q :: value, q, by simp [body], hq.not_isBlank⟩
  | @call q w₁ w₂ raw w₃ w₄ _ _ _ _ _ _ =>
    refine ⟨('{' :: w₁) ++ (callee ++ '(' :: (w₂ ++ q :: (raw ++ q :: (w₃ ++ [')'])))) ++ w₄, '}',
      ?_, by decide⟩
    rw [body, ← List.append_assoc, ← List.append_assoc]

theorem body_length_pos (m : Match names callee kind) : 0 < m.body.length := by
  obtain ⟨c, t, hbody, -⟩ := m.exists_opens
  simp [hbody]

theorem text_ne_nil (m : Match names callee kind) : m.text ≠ [] := by
  obtain ⟨c, t, hbody, -⟩ := m.exists_opens
  simp [text, hbody]

end Match

theorem Opens.kind_unique {kind kind' : LiteralKind} {c : Char} (h : Opens kind c)
    (h' : Opens kind' c) : kind = kind' := by
  cases kind with
  | attributeValue =>
    cases kind' with
    | attributeValue => rfl
    | helperCall => exact absurd h' (IsQuote.ne_brace h)
  | helperCall =>
    cases kind' with
    | attributeValue => exact absurd h (IsQuote.ne_brace h')
    | helperCall => rfl

theorem eq_helperCall_of_opens {kind : LiteralKind} (h : Opens kind '{') : kind = .helperCall :=
  have hcall : Opens .helperCall '{' := rfl
  h.kind_unique hcall

theorem Opens.mem_nameDelimiters {kind : LiteralKind} {c : Char} (h : Opens kind c) :
    c ∈ nameDelimiters := by
  cases kind with
  | attributeValue => rcases h with rfl | rfl <;> decide
  | helperCall => exact (show c = '{' from h) ▸ (by decide)

theorem Opens.ne_equals {kind : LiteralKind} {c : Char} (h : Opens kind c) : c ≠ '=' := by
  cases kind with
  | attributeValue => rcases h with rfl | rfl <;> decide
  | helperCall => exact (show c = '{' from h) ▸ (by decide)

theorem Opens.not_isBlank {kind : LiteralKind} {c : Char} (h : Opens kind c) :
    isBlank c = false := by
  cases kind with
  | attributeValue => exact IsQuote.not_isBlank h
  | helperCall => exact (show c = '{' from h) ▸ (by decide)

/-! ### The scanners accept the matches -/

section Scanners

variable {names : List Text} {callee name name' s : Text} {kind : LiteralKind} {o : Occurrence}

theorem attributeAt?_eq_some_iff :
    attributeAt? s name = some o
      ↔ ∃ (m : Match [name] callee .attributeValue) (rest : Text),
        s = m.text ++ rest ∧ m.occurrence = o := by
  unfold attributeAt?
  constructor
  · intro h
    obtain ⟨literal, hliteral, h⟩ := Option.bind_eq_some_iff.mp h
    obtain ⟨⟨value, rest⟩, hstring, h⟩ := Option.bind_eq_some_iff.mp h
    obtain ⟨head, hhead, rfl, -⟩ := afterEquals?_eq_some_iff.mp hliteral
    obtain ⟨q, hq, hmem, rfl⟩ := plainString?_eq_some_iff.mp hstring
    -- a value is replaced as a whole, so nothing stands around the part to be replaced
    refine ⟨⟨name, head, [], _, [], value, List.mem_singleton_self name, hhead, .value hq hmem⟩,
      rest, ?_, ?_⟩
    · simp [Match.text, Match.body]
    · rw [← Option.some.inj h]
      simp only [Match.occurrence, Match.text, Match.body, List.length_append, List.length_cons,
        List.length_nil, Occurrence.mk.injEq]
      refine ⟨?_, ?_, ?_, trivial⟩ <;> omega
  · rintro ⟨⟨name', head, before, replaced, after, value, hname, hhead, hreads⟩, rest, rfl, rfl⟩
    obtain rfl := List.mem_singleton.mp hname
    cases hreads with
    | @value q value hq hmem =>
      have hliteral : afterEquals? name' (head ++ (q :: (value ++ q :: rest)))
          = some (q :: (value ++ q :: rest)) :=
        afterEquals?_eq_some_iff.mpr
          ⟨head, hhead, rfl, Text.trimLeft_cons_of_not_isBlank hq.not_isBlank _⟩
      have hstring := plainString?_eq_some_iff.mpr
        ⟨q, hq, hmem, (rfl : q :: (value ++ q :: rest) = _)⟩
      simp only [Match.text, Match.body, Match.occurrence, List.nil_append, List.append_nil,
        List.append_assoc, List.cons_append, hliteral, hstring, Option.bind_eq_bind,
        Option.bind_some, Option.pure_def, Option.some.injEq, Occurrence.mk.injEq,
        List.length_append, List.length_cons, List.length_nil]
      refine ⟨?_, ?_, ?_, trivial⟩ <;> omega

/-- White space before the helper is skipped, as its name does not start with white space. -/
theorem callAt?_eq_of_isIdentifier (hc : isIdentifier callee = true) :
    callAt? callee s name
      = (afterEquals? name s).bind fun literal => (Text.after? ['{'] literal).bind fun opened =>
        (callBody? callee (Text.trimLeft opened)).map fun (value, rest, after) =>
          ⟨s.length - (Text.trimLeft opened).length, s.length - rest.length,
            s.length - after.length, value⟩ := by
  -- a call starts with the helper, which does not start with white space
  have hblank (c : Char) (t : Text) (h : isBlank c = true) : callBody? callee (c :: t) = none := by
    obtain ⟨d, ident, hident, hd⟩ := exists_cons_of_isIdentifier hc
    have hne : d ≠ c := fun he => by simp [← he, hd] at h
    rw [callBody?, hident, List.cons_append, Text.after?_cons_of_ne hne]
    rfl
  unfold callAt?
  refine Option.bind_congr fun literal _ => Option.bind_congr fun opened _ => ?_
  rw [findSome?_afterBlanks fun c t hct => by rw [hblank c t hct]; rfl, Option.map_eq_bind]
  rfl

theorem callAt?_eq_some_iff (hc : isIdentifier callee = true) :
    callAt? callee s name = some o
      ↔ ∃ (m : Match [name] callee .helperCall) (rest : Text),
        s = m.text ++ rest ∧ m.occurrence = o := by
  rw [callAt?_eq_of_isIdentifier hc]
  constructor
  · intro h
    obtain ⟨literal, hliteral, h⟩ := Option.bind_eq_some_iff.mp h
    obtain ⟨opened, hopened, h⟩ := Option.bind_eq_some_iff.mp h
    obtain ⟨⟨value, rest, after⟩, hbody, rfl⟩ := Option.map_eq_some_iff.mp h
    obtain ⟨head, hhead, rfl, -⟩ := afterEquals?_eq_some_iff.mp hliteral
    obtain rfl := Text.eq_append_of_after? hopened
    obtain ⟨w₂, q, raw, w₃, w₄, hw₂, hq, hesc, hw₃, hw₄, rfl, rfl, hcall⟩ :=
      callBody?_eq_some_iff.mp hbody
    obtain ⟨w₁, hw₁, hopen⟩ : ∃ w₁, Text.Blank w₁ ∧ opened = w₁ ++ Text.trimLeft opened :=
      ⟨_, Text.blank_leadingBlanks opened, (Text.leadingBlanks_append_trimLeft opened).symm⟩
    rw [hcall] at hopen ⊢
    refine ⟨⟨name, head, _, _, _, unescape raw, List.mem_singleton_self name, hhead,
      .call hw₁ hw₂ hq hesc hw₃ hw₄⟩, after, ?_, ?_⟩
    · rw [hopen]
      simp [Match.text, Match.body]
    · -- the scanner counts from the end of the text, a match from its start
      rw [hopen]
      simp only [Match.occurrence, Match.text, Match.body, List.length_append, List.length_cons,
        List.length_nil, Occurrence.mk.injEq]
      refine ⟨?_, ?_, ?_, trivial⟩ <;> omega
  · rintro ⟨⟨name', head, before, replaced, after, value, hname, hhead, hreads⟩, rest, rfl, rfl⟩
    obtain rfl := List.mem_singleton.mp hname
    cases hreads with
    | @call q w₁ w₂ raw w₃ w₄ hw₁ hw₂ hq hesc hw₃ hw₄ =>
      have hbody := callBody?_eq_some_iff.mpr ⟨w₂, q, raw, w₃, w₄, hw₂, hq, hesc, hw₃, hw₄, rfl,
        (rfl : w₄ ++ '}' :: rest = _),
        (rfl : callee ++ '(' :: (w₂ ++ q :: (raw ++ q :: (w₃ ++ ')' :: (w₄ ++ '}' :: rest)))) = _)⟩
      have hliteral := afterEquals?_eq_some_iff.mpr ⟨head, hhead,
        (rfl : head ++ '{' :: (w₁ ++ (callee ++ '(' ::
          (w₂ ++ q :: (raw ++ q :: (w₃ ++ ')' :: (w₄ ++ '}' :: rest)))))) = _),
        Text.trimLeft_cons_of_not_isBlank (by decide) _⟩
      have htrim (t : Text) : Text.trimLeft (w₁ ++ (callee ++ t)) = callee ++ t := by
        rw [Text.trimLeft_append_of_blank hw₁, Text.trimLeft_append_of_isIdentifier hc]
      simp only [Match.text, Match.body, Match.occurrence, List.nil_append,
        List.append_assoc, List.cons_append, hliteral, Option.bind_some, Text.after?_cons_self,
        htrim, hbody, Option.map_some, Option.some.injEq, Occurrence.mk.injEq,
        List.length_append, List.length_cons, List.length_nil]
      refine ⟨?_, ?_, ?_, trivial⟩ <;> omega

theorem shapeAt?_eq_some_iff (hc : isIdentifier callee = true) :
    shapeAt? callee kind s name = some o
      ↔ ∃ (m : Match [name] callee kind) (rest : Text), s = m.text ++ rest ∧ m.occurrence = o := by
  cases kind with
  | attributeValue => exact attributeAt?_eq_some_iff
  | helperCall => exact callAt?_eq_some_iff hc

theorem Match.afterEquals?_text (m : Match names callee kind) (rest : Text) :
    afterEquals? m.name (m.text ++ rest) = some (m.body ++ rest) := by
  obtain ⟨c, t, hbody, hopens⟩ := m.exists_opens
  refine afterEquals?_eq_some_iff.mpr ⟨m.head, m.assignment, List.append_assoc _ _ _, ?_⟩
  rw [hbody, List.cons_append, Text.trimLeft_cons_of_not_isBlank hopens.not_isBlank]

/-- What stands after the assignment in a match for calls is a call. -/
theorem Match.callBody?_ne_none (hc : isIdentifier callee = true)
    (m : Match names callee .helperCall) {rest opened : Text}
    (h : m.body ++ rest = '{' :: opened) : callBody? callee (Text.trimLeft opened) ≠ none := by
  have hat : callAt? callee (m.text ++ rest) m.name = some m.occurrence :=
    (callAt?_eq_some_iff hc).mpr ⟨m.widen (List.mem_singleton_self m.name), rest, rfl, rfl⟩
  rw [callAt?_eq_of_isIdentifier hc, m.afterEquals?_text, h, Option.bind_some,
    Text.after?_cons_self, Option.bind_some] at hat
  intro hnone
  rw [hnone] at hat
  exact absurd hat (by simp)

theorem ne_nil_of_shape_eq_some (hc : isIdentifier callee = true)
    (h : shape names callee kind s = some o) : s ≠ [] := by
  obtain ⟨name, -, hat⟩ := List.exists_of_findSome?_eq_some h
  obtain ⟨m, rest, rfl, -⟩ := (shapeAt?_eq_some_iff hc).mp hat
  simp [m.text_ne_nil]

/-- Whatever the names are, a text that a scanner accepts starts with the pieces of a match. -/
theorem exists_match_of_shape_eq_some (hc : isIdentifier callee = true)
    (h : shape names callee kind s = some o) :
    ∃ (m : Match names callee kind) (rest : Text), s = m.text ++ rest ∧ m.occurrence = o := by
  obtain ⟨name, hname, hat⟩ := List.exists_of_findSome?_eq_some h
  obtain ⟨m, rest, hs, ho⟩ := (shapeAt?_eq_some_iff hc).mp hat
  exact ⟨m.widen ((List.mem_singleton.mp m.name_mem).symm ▸ hname), rest, hs, ho⟩

/-- **The scanners accept the matches.** A scanner accepts a text exactly when the text starts with
the pieces of a match, and it returns the places of the pieces. -/
theorem shape_eq_some_iff (hn : ∀ name ∈ names, IsName name) (hc : isIdentifier callee = true) :
    shape names callee kind s = some o
      ↔ ∃ (m : Match names callee kind) (rest : Text), s = m.text ++ rest ∧ m.occurrence = o := by
  constructor
  · exact exists_match_of_shape_eq_some hc
  · rintro ⟨m, rest, rfl, rfl⟩
    have hat : shapeAt? callee kind (m.text ++ rest) m.name = some m.occurrence :=
      (shapeAt?_eq_some_iff hc).mpr
        ⟨m.widen (List.mem_singleton_self m.name), rest, rfl, rfl⟩
    -- an earlier name that leads to an occurrence is this name
    cases hfirst : shape names callee kind (m.text ++ rest) with
    | none => exact absurd hat (by simp [List.findSome?_eq_none_iff.mp hfirst m.name m.name_mem])
    | some o =>
      obtain ⟨name, hname, hat'⟩ := List.exists_of_findSome?_eq_some hfirst
      obtain ⟨m', rest', hs, -⟩ := (shapeAt?_eq_some_iff hc).mp hat'
      have hstart := m'.afterEquals?_text rest'
      rw [← hs, List.mem_singleton.mp m'.name_mem] at hstart
      have heq := name_unique (hn name hname).isUnbroken (hn m.name m.name_mem).isUnbroken hstart
        (m.afterEquals?_text rest)
      rw [heq, hat] at hat'
      exact hat'.symm

/-- A text is accepted by the scanner for one shape at most, as its first character after the
assignment tells the shape. -/
theorem kind_unique (hn : ∀ name ∈ names, IsName name) (hc : isIdentifier callee = true)
    {kind' : LiteralKind} {o' : Occurrence} (h : shape names callee kind s = some o)
    (h' : shape names callee kind' s = some o') : kind = kind' := by
  obtain ⟨m, rest, hs, -⟩ := (shape_eq_some_iff hn hc).mp h
  obtain ⟨m', rest', hs', -⟩ := (shape_eq_some_iff hn hc).mp h'
  have hstart := m.afterEquals?_text rest
  have hstart' := m'.afterEquals?_text rest'
  rw [← hs] at hstart
  rw [← hs'] at hstart'
  -- both have the same name, so the same text after it, whose first character is told twice
  have hname := name_unique (hn _ m.name_mem).isUnbroken (hn _ m'.name_mem).isUnbroken hstart
    hstart'
  rw [hname, hstart'] at hstart
  obtain ⟨c, t, hbody, hopens⟩ := m.exists_opens
  obtain ⟨c', t', hbody', hopens'⟩ := m'.exists_opens
  rw [hbody, hbody', Option.some.injEq] at hstart
  obtain rfl := (List.cons.inj hstart).1
  exact hopens.kind_unique hopens'

end Scanners

end ClassGroups.Jsx
