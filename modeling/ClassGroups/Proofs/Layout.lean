import ClassGroups.Proofs.Scanning
import ClassGroups.Rendering

/-!
# The lines of a rendered grouping

Rendering joins lines by newlines. For proofs it is handier to think of every line after the first
as a newline, its indentation and its content, so that a rendering is a concatenation that can be
read from left to right:

* `block_of_ne_nil` — the lines between two brackets;
* `quotedLines_cons_cons` — the lines of one group and of the groups after it;
* `newline_mem_render` — a rendering of at least one group spans lines, in all four formats and for
  every indentation.
-/

namespace ClassGroups

namespace Text

/-- Joined texts: each one after the first follows a separator. -/
theorem intercalate_cons (separator first : Text) (rest : List Text) :
    intercalate separator (first :: rest) = first ++ rest.flatMap (separator ++ ·) := by
  induction rest generalizing first with
  | nil => exact List.intercalate_singleton.trans (List.append_nil first).symm
  | cons second rest ih =>
    have h := ih second
    unfold intercalate at h ⊢
    rw [List.intercalate_cons_cons, h, List.flatMap_cons, List.append_assoc, List.append_assoc]

/-- A character of joined texts is one of the separator or of one of the texts. -/
theorem mem_of_mem_intercalate {separator : Text} {l : List Text} {c : Char}
    (h : c ∈ intercalate separator l) : c ∈ separator ∨ ∃ s ∈ l, c ∈ s := by
  cases l with
  | nil => exact absurd h List.not_mem_nil
  | cons first rest =>
    rw [intercalate_cons, List.mem_append, List.mem_flatMap] at h
    rcases h with hfirst | ⟨s, hs, h⟩
    · exact .inr ⟨first, List.mem_cons_self, hfirst⟩
    · rcases List.mem_append.mp h with hseparator | hmem
      · exact .inl hseparator
      · exact .inr ⟨s, List.mem_cons_of_mem first hs, hmem⟩

end Text

/-- A line inside the brackets, with the newline before it. -/
def Style.innerLine (style : Style) (line : Text) : Text :=
  '\n' :: (style.baseIndent ++ style.indent ++ line)

/-- The newline and the indentation before a closing bracket. -/
def Style.lastBreak (style : Style) : Text := '\n' :: style.baseIndent

/-- Indentation is white space, so it does not matter where something is read after it. -/
theorem Options.trimLeft_innerLine (o : Options) (line rest : Text) :
    Text.trimLeft (o.innerLine line ++ rest) = Text.trimLeft (line ++ rest) := by
  have hblank := Text.blank_cons isBlank_newline
    (Text.blank_append o.baseIndent_blank o.indent_blank)
  have hsplit : o.innerLine line ++ rest
      = ('\n' :: (o.baseIndent ++ o.indent)) ++ (line ++ rest) := by
    simp [Style.innerLine]
  rw [hsplit, Text.trimLeft_append_of_blank hblank]

theorem Options.trimLeft_lastBreak (o : Options) (rest : Text) :
    Text.trimLeft (o.lastBreak ++ rest) = Text.trimLeft rest :=
  Text.trimLeft_append_of_blank (Text.blank_cons isBlank_newline o.baseIndent_blank) rest

/-! ### Quoted and escaped texts -/

/-- What stands between the quotes of a quoted text. -/
def quotedBody (s : Text) : Text :=
  s.flatMap fun c => if c = '\\' ∨ c = '"' then ['\\', c] else [c]

theorem quotedBody_cons (c : Char) (s : Text) :
    quotedBody (c :: s) = (if c = '\\' ∨ c = '"' then ['\\', c] else [c]) ++ quotedBody s :=
  List.flatMap_cons

theorem mem_quotedBody {s : Text} {c : Char} (h : c ∈ quotedBody s) : c = '\\' ∨ c ∈ s := by
  obtain ⟨d, hd, hc⟩ := List.mem_flatMap.mp h
  split at hc
  · -- `d` is escaped, so what is found is its backslash or `d`
    rcases List.mem_cons.mp hc with rfl | hc
    · exact Or.inl rfl
    · exact Or.inr (List.mem_singleton.mp hc ▸ hd)
  · exact Or.inr (List.mem_singleton.mp hc ▸ hd)

theorem mem_templateText {s : Text} {c : Char} (h : c ∈ templateText s) : c = '\\' ∨ c ∈ s := by
  fun_induction templateText s with
  | case1 => exact absurd h List.not_mem_nil
  | case2 s ih =>
    simp only [List.mem_cons] at h ⊢
    rcases h with hslash | hdollar | hbrace | hrest
    · exact .inl hslash
    · exact .inr (.inl hdollar)
    · exact .inr (.inr (.inl hbrace))
    · exact (ih hrest).imp_right fun hmem => .inr (.inr hmem)
  | case3 first s _ _ ih =>
    simp only [List.mem_cons] at h ⊢
    rcases h with hslash | hfirst | hrest
    · exact .inl hslash
    · exact .inr (.inl hfirst)
    · exact (ih hrest).imp_right .inr
  | case4 first s _ _ ih =>
    simp only [List.mem_cons] at h ⊢
    rcases h with hfirst | hrest
    · exact .inr (.inl hfirst)
    · exact (ih hrest).imp_right .inr

theorem quotedBody_append (s t : Text) : quotedBody (s ++ t) = quotedBody s ++ quotedBody t :=
  List.flatMap_append

theorem quotedBody_flatMap (f : Text → Text) (l : List Text) :
    quotedBody (l.flatMap f) = l.flatMap fun t => quotedBody (f t) :=
  List.flatMap_assoc

theorem quoteClass_append (s rest : Text) :
    quoteClass s ++ rest = '"' :: (quotedBody s ++ '"' :: rest) := by
  rw [quoteClass, List.cons_append, List.cons_append, List.append_assoc]
  rfl

/-! ### Blocks -/

section Block

variable (opening closing : Text) (style : Style)

theorem block_of_ne_nil {body : List Text} (h : body ≠ []) :
    block opening closing body style
      = opening ++ (body.flatMap style.innerLine ++ (style.lastBreak ++ closing)) := by
  rw [block, if_neg (by simpa using h), List.cons_append, Text.intercalate_cons,
    List.flatMap_append, List.flatMap_map]
  simp only [List.flatMap_cons, List.flatMap_nil, List.append_nil]
  rfl

theorem newline_mem_block {body : List Text} (h : body ≠ []) :
    '\n' ∈ block opening closing body style := by
  rw [block_of_ne_nil opening closing style h]
  simp [Style.lastBreak]

end Block

/-- The bracket that opens a call or a list. -/
def Style.opening (style : Style) : Text :=
  if style.format = .array then "[" else style.callee ++ "("

/-- The bracket that closes a call or a list. -/
def Style.closing (style : Style) : Text := if style.format = .array then "]" else ")"

/-- The bracket that opens a call or a list does not start with white space. -/
theorem Options.exists_opening (o : Options) :
    ∃ d name, o.opening = d :: name ∧ isBlank d = false := by
  unfold Style.opening
  split
  · exact ⟨'[', [], rfl, by decide⟩
  · obtain ⟨d, name, hname, hd⟩ := exists_cons_of_isIdentifier o.callee_identifier
    refine ⟨d, name ++ "(".toList, ?_, hd⟩
    rw [hname]
    rfl

/-- Calls and lists are blocks of the lines with the groups as strings. -/
theorem render_of_spliceable {style : Style} (h : style.format.spliceable = true)
    (g : Grouping) :
    render style g = block style.opening style.closing (g.quotedLines style) style := by
  unfold render Style.opening Style.closing
  cases hf : style.format with
  | clsx => rfl
  | array => rfl
  | template => exact absurd (hf ▸ h) (by decide)
  | mapping => exact absurd (hf ▸ h) (by decide)

/-! ### The lines of the groups -/

namespace Grouping

variable {style : Style}

@[simp] theorem quotedLines_nil : quotedLines style [] = [] := rfl

@[simp] theorem quotedLines_singleton (g : Group) :
    quotedLines style [g] = g.heading style ++ [quoteClass g.text] := rfl

@[simp] theorem quotedLines_cons_cons (g h : Group) (rest : Grouping) :
    quotedLines style (g :: h :: rest)
      = g.heading style ++ [quoteClass g.text ++ ","] ++ quotedLines style (h :: rest) := rfl

theorem quotedLines_ne_nil {g : Grouping} (h : g ≠ []) : quotedLines style g ≠ [] := by
  match g, h with
  | [_], _ => simp
  | _ :: _ :: _, _ => simp

theorem eq_of_mem_heading {b : Group} {line : Text} (h : line ∈ b.heading style) :
    line = lineComment b.category.label := by
  unfold Group.heading at h
  split at h
  · exact List.mem_singleton.mp h
  · exact absurd h List.not_mem_nil

/-- Every line is a heading or the string of a group, with a comma or without. -/
theorem mem_quotedLines {g : Grouping} {line : Text} (h : line ∈ quotedLines style g) :
    ∃ b ∈ g, line = lineComment b.category.label ∨ line = quoteClass b.text ∨
      line = quoteClass b.text ++ "," := by
  induction g with
  | nil => exact absurd h List.not_mem_nil
  | cons b rest ih =>
    cases rest with
    | nil =>
      rw [quotedLines_singleton, List.mem_append, List.mem_singleton] at h
      exact ⟨b, List.mem_cons_self, h.imp eq_of_mem_heading Or.inl⟩
    | cons d rest =>
      rw [quotedLines_cons_cons, List.mem_append, List.mem_append, List.mem_singleton] at h
      rcases h with h | h
      · exact ⟨b, List.mem_cons_self, h.imp eq_of_mem_heading Or.inr⟩
      · obtain ⟨b', hb', hline⟩ := ih h
        exact ⟨b', List.mem_cons_of_mem b hb', hline⟩

theorem templateLines_ne_nil {g : Grouping} (h : g ≠ []) : templateLines style g ≠ [] := by
  obtain ⟨b, rest, rfl⟩ := List.exists_cons_of_ne_nil h
  simp [templateLines]

theorem byCategory_put_ne_nil (entries : List (Category × List Text)) (b : Group) :
    byCategory.put entries b ≠ [] := by
  cases entries with
  | nil => simp [byCategory.put]
  | cons e rest =>
    rw [byCategory.put]
    split <;> exact List.cons_ne_nil _ _

theorem byCategory_ne_nil {g : Grouping} (h : g ≠ []) : g.byCategory ≠ [] := by
  -- the last group is put in last, and after it there is an entry
  rw [← List.dropLast_concat_getLast h, byCategory, List.foldl_append]
  exact byCategory_put_ne_nil _ _

end Grouping

/-! ### A rendering spans lines -/

/-- An object with an entry has lines of its own for its entries, whatever their indentation. -/
theorem newline_mem_pretty_dict (indent : Text) {entries : List (Text × Json)}
    (h : entries ≠ []) : '\n' ∈ (Json.dict entries).pretty indent := by
  obtain ⟨⟨k, v⟩, rest, rfl⟩ := List.exists_cons_of_ne_nil h
  simp [Json.pretty, Json.printAt, Json.printEntries, Json.bracket, Json.lineBreak]

theorem newline_mem_afterNewlines {base s : Text} (h : '\n' ∈ s) :
    '\n' ∈ afterNewlines base s :=
  List.mem_flatMap.mpr ⟨'\n', h, by simp⟩

/-- **A rendering spans lines** as soon as there is a group to render. -/
theorem newline_mem_render (style : Style) {g : Grouping} (h : g ≠ []) :
    '\n' ∈ render style g := by
  unfold render
  split
  · exact newline_mem_block _ _ _ (Grouping.quotedLines_ne_nil h)
  · exact newline_mem_block _ _ _ (Grouping.quotedLines_ne_nil h)
  · exact newline_mem_block _ _ _ (Grouping.templateLines_ne_nil h)
  · refine newline_mem_afterNewlines (newline_mem_pretty_dict _ ?_)
    exact fun he => Grouping.byCategory_ne_nil h (List.map_eq_nil_iff.mp he)

end ClassGroups
