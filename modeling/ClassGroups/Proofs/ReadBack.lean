import ClassGroups.Proofs.Layout
import ClassGroups.Proofs.Scanning
import ClassGroups.Proofs.Tokens

/-!
# Calls and lists can be read back

A grouping that is written as a call of a helper or as a list is a *listing*: strings between two
brackets, separated by commas, each with a comment in front of it or none. `Listing.read?` reads a
listing and knows nothing of categories, headings or indentation. The main statement,
`read?_render`, is that it finds in a rendered grouping one string for each group, with the tokens
of the group and its heading.

The strings are the delicate part. `stringBody?_quoteClass` says that a quoted text is read up to
the quote that closes it and no further, whatever the text holds and whatever comes after it. With
it, a group is read off the front of the lines (`item?_quotedLines`), and the rest is an induction
on the groups (`items?_quotedLines`).
-/

namespace ClassGroups

/-- A string of a listing, with the comment in front of it if there is one. -/
structure ListedString where
  /-- The comment, without the white space around it. -/
  comment : Option Text
  /-- The string, without its escapes. -/
  value : Text
deriving DecidableEq, Repr

namespace Listing

/-! ### The reader -/

/-- A string after its opening quote, up to the quote that closes it, and what follows. A backslash
makes the next character stand for itself. -/
def stringBody? : Text → Option (Text × Text)
  | [] => none
  | '\\' :: c :: s => (stringBody? s).map fun (value, rest) => (c :: value, rest)
  | c :: s =>
    if c = '"' then some ([], s)
    else (stringBody? s).map fun (value, rest) => (c :: value, rest)

/-- A comment at the start of a text, which ends before the next newline, and what follows. -/
def comment? (s : Text) : Option Text × Text :=
  match Text.after? "//" s with
  | some rest => (some (Text.trim (rest.takeWhile (· != '\n'))), rest.dropWhile (· != '\n'))
  | none => (none, s)

/-- A string with the comment in front of it, and what follows. -/
def item? (s : Text) : Option (ListedString × Text) := do
  let (comment, s) := comment? (Text.trimLeft s)
  let s ← Text.after? ['"'] (Text.trimLeft s)
  let (value, rest) ← stringBody? s
  return (⟨comment, value⟩, rest)

theorem length_stringBody?_lt {s value rest : Text} (h : stringBody? s = some (value, rest)) :
    rest.length < s.length := by
  fun_induction stringBody? s generalizing value with
  | case1 => exact absurd h (by simp)
  | case2 c s ih =>
    obtain ⟨⟨v, r⟩, hv, he⟩ := Option.map_eq_some_iff.mp h
    obtain ⟨rfl, rfl⟩ := Prod.mk.inj he
    exact Nat.lt_succ_of_lt (Nat.lt_succ_of_lt (ih hv))
  | case3 s =>
    obtain ⟨rfl, rfl⟩ := Prod.mk.inj (Option.some.inj h)
    exact Nat.lt_succ_self _
  | case4 c s _ _ ih =>
    obtain ⟨⟨v, r⟩, hv, he⟩ := Option.map_eq_some_iff.mp h
    obtain ⟨rfl, rfl⟩ := Prod.mk.inj he
    exact Nat.lt_succ_of_lt (ih hv)

theorem length_comment?_le (s : Text) : (comment? s).2.length ≤ s.length := by
  unfold comment?
  split
  · next rest hrest =>
    rw [Text.eq_append_of_after? hrest, List.length_append]
    exact Nat.le_trans (List.dropWhile_sublist _).length_le (Nat.le_add_left _ _)
  · exact Nat.le_refl _

/-- An item is not empty, so a reader of items comes to an end. -/
theorem length_item?_lt {s rest : Text} {item : ListedString} (h : item? s = some (item, rest)) :
    rest.length < s.length := by
  unfold item? at h
  obtain ⟨s₁, hs₁, h⟩ := Option.bind_eq_some_iff.mp h
  obtain ⟨⟨value, r⟩, hv, h⟩ := Option.bind_eq_some_iff.mp h
  obtain ⟨-, rfl⟩ := Prod.mk.inj (Option.some.inj h)
  have htrim (t : Text) : (Text.trimLeft t).length ≤ t.length :=
    (List.dropWhile_sublist _).length_le
  have hquote := congrArg List.length (Text.eq_append_of_after? hs₁)
  rw [List.length_append] at hquote
  -- only reading the string makes the text shorter for sure
  calc r.length < s₁.length := length_stringBody?_lt hv
    _ ≤ (Text.trimLeft (comment? (Text.trimLeft s)).2).length := hquote ▸ Nat.le_add_left _ _
    _ ≤ (comment? (Text.trimLeft s)).2.length := htrim _
    _ ≤ (Text.trimLeft s).length := length_comment?_le _
    _ ≤ s.length := htrim s

/-- Items separated by commas, and what follows them less the white space before it. -/
def items? (s : Text) : Option (List ListedString × Text) :=
  match h : item? s with
  | none => none
  | some (item, rest) =>
    match h' : Text.trimLeft rest with
    | ',' :: more =>
      have hmore : (',' :: more).length ≤ rest.length :=
        h' ▸ (List.dropWhile_sublist _).length_le
      have : more.length < s.length :=
        Nat.lt_trans (Nat.lt_of_succ_le hmore) (length_item?_lt h)
      (items? more).map fun (items, rest) => (item :: items, rest)
    | rest => some ([item], rest)
termination_by s.length

/-- A listing between two brackets, with nothing but white space around it. Where no item can be
read, the listing has none. -/
def read? (opening closing s : Text) : Option (List ListedString) := do
  let body ← Text.after? opening (Text.trimLeft s)
  let (items, rest) := (items? body).getD ([], Text.trimLeft body)
  let rest ← Text.after? closing rest
  if (Text.trimLeft rest).isEmpty then some items else none

end Listing

/-! ### Reading what was rendered -/

/-- How a group is listed. -/
def Group.listed (style : Style) (g : Group) : ListedString :=
  ⟨if style.comments then some g.category.label else none, g.text⟩

namespace Listing

/-- **The end of a quoted text.** A quoted text is read up to the quote that closes it. -/
theorem stringBody?_quoted (s rest : Text) :
    stringBody? (quotedBody s ++ '"' :: rest) = some (s, rest) := by
  induction s with
  | nil => rfl
  | cons c s ih =>
    rw [quotedBody_cons, List.append_assoc]
    by_cases hc : c = '\\' ∨ c = '"'
    · -- the backslash is read together with the character it stands before
      rw [if_pos hc, List.cons_append, List.cons_append, List.nil_append, stringBody?, ih]
      rfl
    · -- a character that is not escaped is no quote, so the reader goes on
      obtain ⟨hback, hquote⟩ := not_or.mp hc
      rw [if_neg hc, List.cons_append, List.nil_append, stringBody?.eq_3 _ _ (by grind),
        if_neg hquote, ih]
      rfl

theorem stringBody?_quoteClass (s rest : Text) :
    ∃ body, quoteClass s ++ rest = '"' :: body ∧ stringBody? body = some (s, rest) :=
  ⟨_, quoteClass_append s rest, stringBody?_quoted s rest⟩

/-! ### One group -/

/-- A heading is one line, and what it says starts and ends with a letter. -/
theorem label_spec (c : Category) :
    '\n' ∉ c.label ∧ Text.trim (' ' :: c.label) = c.label := by
  cases c <;> decide

theorem comment?_lineComment (c : Category) (rest : Text) :
    comment? (lineComment c.label ++ '\n' :: rest) = (some c.label, '\n' :: rest) := by
  obtain ⟨hline, htrim⟩ := label_spec c
  have hsplit : lineComment c.label ++ '\n' :: rest
      = "//".toList ++ (' ' :: c.label ++ '\n' :: rest) := by
    rw [← List.append_assoc]
    rfl
  have hall : ∀ d ∈ ' ' :: c.label, (d != '\n') = true := by
    intro d hd
    refine bne_iff_ne.mpr ?_
    rintro rfl
    exact (List.mem_cons.mp hd).elim (by decide) hline
  rw [hsplit, comment?, Text.after?_append]
  change (some (Text.trim ((' ' :: c.label ++ '\n' :: rest).takeWhile (· != '\n'))),
    (' ' :: c.label ++ '\n' :: rest).dropWhile (· != '\n')) = _
  rw [List.takeWhile_append_of_pos hall, List.dropWhile_append_of_pos hall]
  simp [htrim]

theorem comment?_of_quote (s : Text) : comment? ('"' :: s) = (none, '"' :: s) := by
  have hno : Text.after? "//" ('"' :: s) = none := Text.after?_cons_of_ne (by decide) ['/'] s
  rw [comment?, hno]

variable (o : Options)

/-- The string of a group, where it is expected after some white space. -/
theorem trimLeft_quoteLine (g : Group) (rest : Text) :
    ∃ body, Text.trimLeft (o.innerLine (quoteClass g.text) ++ rest) = '"' :: body ∧
      stringBody? body = some (g.text, rest) := by
  obtain ⟨body, hbody, hread⟩ := stringBody?_quoteClass g.text rest
  refine ⟨body, ?_, hread⟩
  rw [o.trimLeft_innerLine, hbody, Text.trimLeft_cons_of_not_isBlank (by decide)]

/-- **One group** is read off the front of its lines, with its heading if it has one. -/
theorem item?_group (g : Group) (rest : Text) :
    item? ((g.heading o.toStyle).flatMap o.innerLine
      ++ (o.innerLine (quoteClass g.text) ++ rest)) = some (g.listed o.toStyle, rest) := by
  obtain ⟨body, hbody, hread⟩ := trimLeft_quoteLine o g rest
  unfold item? Group.heading Group.listed
  by_cases hc : o.comments = true
  · -- the comment ends before the newline with which the next line begins
    have hline : Text.trimLeft ([lineComment g.category.label].flatMap o.innerLine
        ++ (o.innerLine (quoteClass g.text) ++ rest))
          = lineComment g.category.label ++ (o.innerLine (quoteClass g.text) ++ rest) := by
      rw [List.flatMap_singleton, o.trimLeft_innerLine]
      exact Text.trimLeft_cons_of_not_isBlank (by decide) _
    have hcomment : comment? (lineComment g.category.label
        ++ (o.innerLine (quoteClass g.text) ++ rest))
          = (some g.category.label, o.innerLine (quoteClass g.text) ++ rest) :=
      comment?_lineComment g.category _
    rw [if_pos hc, if_pos hc, hline, hcomment]
    simp only [hbody, Text.after?_cons_self, Option.bind_eq_bind, Option.bind_some, hread]
    rfl
  · rw [if_neg hc, if_neg hc, List.flatMap_nil, List.nil_append, hbody, comment?_of_quote]
    simp only [Text.trimLeft_cons_of_not_isBlank (show isBlank '"' = false by decide),
      Text.after?_cons_self, Option.bind_eq_bind, Option.bind_some, hread]
    rfl

/-! ### All groups -/

theorem items?_of_comma {s rest more : Text} {item : ListedString}
    (h : item? s = some (item, rest)) (hrest : Text.trimLeft rest = ',' :: more) :
    items? s = (items? more).map fun (items, rest) => (item :: items, rest) := by
  rw [items?]
  split
  · next hnone => exact absurd (hnone.symm.trans h) (by simp)
  · next item' rest' hsome =>
    obtain ⟨rfl, rfl⟩ := Prod.mk.inj (Option.some.inj (hsome.symm.trans h))
    split
    · next more' hmore =>
      obtain ⟨-, rfl⟩ := List.cons.inj (hmore.symm.trans hrest)
      rfl
    · next hne => exact absurd hrest (hne more)

theorem items?_of_end {s rest : Text} {item : ListedString} (h : item? s = some (item, rest))
    (hrest : ∀ more, Text.trimLeft rest ≠ ',' :: more) :
    items? s = some ([item], Text.trimLeft rest) := by
  rw [items?]
  split
  · next hnone => exact absurd (hnone.symm.trans h) (by simp)
  · next item' rest' hsome =>
    obtain ⟨rfl, rfl⟩ := Prod.mk.inj (Option.some.inj (hsome.symm.trans h))
    split
    · next more' hmore => exact absurd hmore (hrest more')
    · rfl

theorem innerLine_append (a b : Text) : o.innerLine (a ++ b) = o.innerLine a ++ b := by
  simp [Style.innerLine]

/-- **All groups** are read off their lines, up to the bracket that closes the listing. -/
theorem items?_quotedLines {c : Char} (hblank : isBlank c = false) (hcomma : c ≠ ',')
    {g : Grouping} (hg : g ≠ []) :
    items? ((g.quotedLines o.toStyle).flatMap o.innerLine ++ (o.lastBreak ++ [c]))
      = some (g.map (·.listed o.toStyle), [c]) := by
  have hend : Text.trimLeft (o.lastBreak ++ [c]) = [c] := by
    rw [o.trimLeft_lastBreak, Text.trimLeft_cons_of_not_isBlank hblank]
  match g, hg with
  | [b], _ =>
    -- after the last group there is no comma but the bracket
    have hitem := item?_group o b (o.lastBreak ++ [c])
    rw [Grouping.quotedLines_singleton, List.flatMap_append, List.flatMap_singleton,
      List.append_assoc, items?_of_end hitem (by rw [hend]; grind), hend]
    rfl
  | b :: d :: rest, _ =>
    -- the comma behind the string of `b` leads to the lines of the other groups
    have ih := items?_quotedLines hblank hcomma (List.cons_ne_nil d rest)
    have hitem := item?_group o b
      (',' :: ((Grouping.quotedLines o.toStyle (d :: rest)).flatMap o.innerLine
        ++ (o.lastBreak ++ [c])))
    have hread := items?_of_comma hitem (Text.trimLeft_cons_of_not_isBlank (by decide) _)
    rw [ih] at hread
    rw [Grouping.quotedLines_cons_cons, List.flatMap_append, List.flatMap_append,
      List.flatMap_singleton, innerLine_append, List.append_assoc, List.append_assoc,
      List.append_assoc]
    exact hread

theorem items?_of_closing {c : Char} (hc : c = ')' ∨ c = ']') : items? [c] = none := by
  have hitem : item? [c] = none := by rcases hc with rfl | rfl <;> decide
  rw [items?]
  split
  · rfl
  · next item rest hsome => exact absurd (hitem.symm.trans hsome) (by simp)

theorem read?_block {d : Char} (hd : isBlank d = false) (name : Text) {c : Char}
    (hc : c = ')' ∨ c = ']') (g : Grouping) :
    read? (d :: name) [c] (block (d :: name) [c] (g.quotedLines o.toStyle) o.toStyle)
      = some (g.map (·.listed o.toStyle)) := by
  have hblank : isBlank c = false := by rcases hc with rfl | rfl <;> decide
  have hcomma : c ≠ ',' := by rcases hc with rfl | rfl <;> decide
  -- whatever stands between the brackets, the reader sees it after the first of them
  have hread (body : Text) (items : List ListedString)
      (hbody : (items? body).getD ([], Text.trimLeft body) = (items, [c])) :
      read? (d :: name) [c] (d :: name ++ body) = some items := by
    rw [read?, List.cons_append, Text.trimLeft_cons_of_not_isBlank hd, ← List.cons_append,
      Text.after?_append]
    simp only [Option.bind_eq_bind, Option.bind_some, hbody, Text.after?_cons_self]
    rfl
  by_cases hg : g = []
  · -- without groups there are no lines, and the brackets are next to each other
    subst hg
    refine hread [c] [] ?_
    rw [items?_of_closing hc, Text.trimLeft_cons_of_not_isBlank hblank]
    rfl
  · rw [block_of_ne_nil _ _ _ (Grouping.quotedLines_ne_nil hg)]
    refine hread _ _ ?_
    rw [items?_quotedLines o hblank hcomma hg]
    rfl

end Listing

/-- **Calls and lists can be read back.** A grouping of a class list, rendered as a call or as a
list, is read as one string for each group. Split at its spaces, the string gives the tokens of the
group, and its comment is the heading of the group, if headings are wanted. -/
theorem read?_render (o : Options) (s : Text) (h : o.format.spliceable = true) :
    ∃ items, Listing.read? o.opening o.closing (render o.toStyle (group s)) = some items ∧
      items.map (·.value.splitOn ' ') = (group s).map (·.tokens) ∧
      items.map (·.comment)
        = (group s).map fun g => if o.comments then some g.category.label else none := by
  refine ⟨(group s).map (·.listed o.toStyle), ?_, ?_, ?_⟩
  · obtain ⟨d, name, hopening, hd⟩ := o.exists_opening
    obtain ⟨c, hclosing, hc⟩ : ∃ c, o.closing = [c] ∧ (c = ')' ∨ c = ']') := by
      unfold Style.closing
      split
      · exact ⟨']', rfl, Or.inr rfl⟩
      · exact ⟨')', rfl, Or.inl rfl⟩
    rw [render_of_spliceable h, hopening, hclosing]
    exact Listing.read?_block o hd name hc (group s)
  · rw [List.map_map]
    exact List.map_congr_left fun g hg => splitOn_text_of_mem_group hg
  · rw [List.map_map]
    rfl

/-- Tokens with quotes, backslashes, commas, brackets and slashes are read back from a list. -/
theorem read?_render_array :
    ({ format := .array } : Options).format.spliceable = true ∧
    ∃ items, Listing.read? "[" "]"
        (render ({ format := .array } : Options).toStyle (group "mt-4 a\"b \\ //c flex d,]"))
          = some items ∧
      items.map (·.value.splitOn ' ')
        = (group "mt-4 a\"b \\ //c flex d,]").map (·.tokens) ∧
      items.map (·.comment)
        = (group "mt-4 a\"b \\ //c flex d,]").map fun g =>
            if ({ format := .array } : Options).comments then some g.category.label else none :=
  ⟨by decide, read?_render { format := .array } "mt-4 a\"b \\ //c flex d,]" (by decide)⟩

end ClassGroups
