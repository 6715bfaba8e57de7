import ClassGroups.Proofs.Json.Spelling
import ClassGroups.Rendering

/-!
# Printed values are spellings

A value is printed with line breaks between its parts, and a text may be put after each of them
later on. If all indentation is white space for JSON, the result still spells the value
(`spells_afterNewlines_printAt`), since no newline stands inside a string. Hence a printed value is
read back, moved to the right or not: `read?_afterNewlines_pretty`.

Numbers with a point are left out: what is read has their value, but not always their form.
-/

namespace ClassGroups.Json

/-- **An exact value**, in which no number has a point. -/
inductive Exact : Json → Prop where
  | null : Exact .null
  | bool (b : Bool) : Exact (.bool b)
  | int (n : Int) : Exact (.int n)
  | text (s : Text) : Exact (.text s)
  | list {items : List Json} (h : ∀ v ∈ items, Exact v) : Exact (.list items)
  | dict {entries : List (Text × Json)} (h : ∀ e ∈ entries, Exact e.2) : Exact (.dict entries)

/-! ### A text after every newline -/

section AfterNewlines

variable {base s : Text}

theorem afterNewlines_append (base s t : Text) :
    afterNewlines base (s ++ t) = afterNewlines base s ++ afterNewlines base t :=
  List.flatMap_append

theorem afterNewlines_cons_of_ne {c : Char} (h : c ≠ '\n') (s : Text) :
    afterNewlines base (c :: s) = c :: afterNewlines base s := by
  unfold afterNewlines
  rw [List.flatMap_cons, if_neg h, List.singleton_append]

theorem afterNewlines_of_notMem (h : '\n' ∉ s) : afterNewlines base s = s := by
  induction s with
  | nil => rfl
  | cons c s ih =>
    rw [List.mem_cons, not_or] at h
    rw [afterNewlines_cons_of_ne fun hc => h.1 hc.symm, ih h.2]

theorem afterNewlines_nil (s : Text) : afterNewlines [] s = s := by
  induction s with
  | nil => rfl
  | cons c s ih =>
    have hc : (if c = '\n' then c :: [] else [c]) = [c] := ite_self _
    unfold afterNewlines at ih ⊢
    rw [List.flatMap_cons, ih, hc, List.singleton_append]

theorem gap_afterNewlines (hbase : Gap base) (h : Gap s) : Gap (afterNewlines base s) := by
  induction s with
  | nil => exact gap_nil
  | cons c s ih =>
    have hc : isSpace c = true := List.all_eq_true.mp h c List.mem_cons_self
    have hs : Gap s := List.all_eq_true.mpr fun d hd =>
      List.all_eq_true.mp h d (List.mem_cons_of_mem c hd)
    show Gap ((if c = '\n' then c :: base else [c]) ++ afterNewlines base s)
    apply gap_append _ (ih hs)
    split
    · exact gap_cons hc hbase
    · exact gap_cons hc gap_nil

end AfterNewlines

/-! ### Values without line breaks -/

/-- A whole number is printed without control characters. -/
theorem le_toNat_of_mem_ofInt {n : Int} {d : Char} (h : d ∈ Text.ofInt n) : 0x20 ≤ d.toNat := by
  have hdigits {n : Nat} (h : d ∈ Text.ofNat n) : 0x20 ≤ d.toNat := by
    have hdigit : 48 ≤ d.val ∧ d.val ≤ 57 := by
      simpa [Char.isDigit] using (isNumeral_ofNat n).digits d h
    exact Nat.le_trans (by decide) (UInt32.le_iff_toNat_le.mp hdigit.1)
  cases n with
  | ofNat n => exact hdigits h
  | negSucc n =>
    rcases List.mem_cons.mp h with rfl | h
    · decide
    · exact hdigits h

theorem newline_notMem_ofInt (n : Int) : '\n' ∉ Text.ofInt n := fun h =>
  absurd (le_toNat_of_mem_ofInt h) (by decide)

/-! ### Brackets -/

section Brackets

variable {indent : Option Text} {base gap before after : Text} {level : Nat}

theorem printItems_eq_map (indent : Option Text) (level : Nat) (items : List Json) :
    printItems indent level items = items.map (printAt indent level) := by
  induction items with
  | nil => rfl
  | cons v items ih => rw [printItems, ih, List.map_cons]

theorem printEntries_eq_map (indent : Option Text) (level : Nat) (entries : List (Text × Json)) :
    printEntries indent level entries
      = entries.map fun e => printText e.1 ++ ": " ++ printAt indent level e.2 := by
  induction entries with
  | nil => rfl
  | cons e entries ih =>
    obtain ⟨k, v⟩ := e
    rw [printEntries, ih, List.map_cons]

theorem gap_lineBreak (hindent : ∀ s ∈ indent, Gap s) (level : Nat) :
    Gap (lineBreak indent level) := by
  cases indent with
  | none => exact gap_nil
  | some s =>
    show Gap ('\n' :: (List.replicate level s).flatten)
    apply gap_cons rfl
    induction level with
    | zero => exact gap_nil
    | succ level ih =>
      rw [List.replicate_succ, List.flatten_cons]
      exact gap_append (hindent s rfl) ih

/-- What stands behind the comma between two parts. -/
def betweenParts (indent : Option Text) (level : Nat) : Text :=
  if indent.isNone then [' '] else lineBreak indent level

theorem gap_betweenParts (hindent : ∀ s ∈ indent, Gap s) (level : Nat) :
    Gap (betweenParts indent level) := by
  unfold betweenParts
  split
  · rfl
  · exact gap_lineBreak hindent level

theorem afterNewlines_bracket {opening closing : Char} {parts : List Text} (h : parts ≠ [])
    (hopening : opening ≠ '\n') (hclosing : closing ≠ '\n') :
    afterNewlines base (bracket indent level opening closing parts)
      = opening :: (afterNewlines base (lineBreak indent (level + 1))
        ++ (afterNewlines base
            (Text.intercalate (',' :: betweenParts indent (level + 1)) parts)
          ++ (afterNewlines base (lineBreak indent level) ++ [closing]))) := by
  have hnonempty : ¬parts.isEmpty = true := by simpa using h
  have hbracket : bracket indent level opening closing parts
      = opening :: (lineBreak indent (level + 1)
        ++ (Text.intercalate (',' :: betweenParts indent (level + 1)) parts
          ++ (lineBreak indent level ++ [closing]))) := by
    rw [bracket, if_neg hnonempty]
    simp [betweenParts]
  have hlast : afterNewlines base [closing] = [closing] :=
    afterNewlines_of_notMem fun hmem => hclosing (List.mem_singleton.mp hmem).symm
  rw [hbracket, afterNewlines_cons_of_ne hopening, afterNewlines_append, afterNewlines_append,
    afterNewlines_append, hlast]

/-- The comma and the gap behind it stand between the first part and the others. -/
theorem afterNewlines_intercalate_cons (gap part next : Text) (parts : List Text) :
    afterNewlines base (Text.intercalate (',' :: gap) (part :: next :: parts))
      = afterNewlines base part ++ (',' :: (afterNewlines base gap
        ++ afterNewlines base (Text.intercalate (',' :: gap) (next :: parts)))) := by
  have hjoin : Text.intercalate (',' :: gap) (part :: next :: parts)
      = part ++ (',' :: gap) ++ Text.intercalate (',' :: gap) (next :: parts) :=
    List.intercalate_cons_cons
  rw [hjoin, afterNewlines_append, afterNewlines_append, afterNewlines_cons_of_ne (by decide),
    List.append_assoc, List.cons_append]

/-- **Printed items** spell their list if each of them spells its value. -/
theorem spellsItems_intercalate {items : List Json} (hitems : items ≠ [])
    (h : ∀ v ∈ items, Spells v (afterNewlines base (printAt indent level v)))
    (hgap : Gap gap) (hbase : Gap base) (hbefore : Gap before) (hafter : Gap after) :
    SpellsItems items (before
      ++ (afterNewlines base (Text.intercalate (',' :: gap) (items.map (printAt indent level)))
        ++ (after ++ [']']))) := by
  induction items generalizing before with
  | nil => exact absurd rfl hitems
  | cons v items ih =>
    have hv := h v List.mem_cons_self
    -- the gap behind a comma is the one in front of the next item
    cases items with
    | nil =>
      have hsingle : Text.intercalate (',' :: gap) [printAt indent level v]
          = printAt indent level v := List.intercalate_singleton
      rw [List.map_singleton, hsingle]
      exact .last hbefore hv hafter
    | cons w items =>
      have hrest := ih (List.cons_ne_nil w items) (fun u hu => h u (List.mem_cons_of_mem v hu))
        (gap_afterNewlines hbase hgap)
      rw [List.map_cons, List.map_cons, afterNewlines_intercalate_cons, List.append_assoc,
        List.cons_append, List.append_assoc]
      exact .cons hbefore hv gap_nil hrest

/-- **Printed entries** spell their object if each of their values is spelled. -/
theorem spellsEntries_intercalate {entries : List (Text × Json)} (hentries : entries ≠ [])
    (h : ∀ e ∈ entries, Spells e.2 (afterNewlines base (printAt indent level e.2)))
    (hgap : Gap gap) (hbase : Gap base) (hbefore : Gap before) (hafter : Gap after) :
    SpellsEntries entries (before
      ++ (afterNewlines base (Text.intercalate (',' :: gap)
          (entries.map fun e => printText e.1 ++ ": " ++ printAt indent level e.2))
        ++ (after ++ ['}']))) := by
  have hentry (k : Text) (v : Json) :
      afterNewlines base (printText k ++ ": " ++ printAt indent level v)
        = printText k ++ (':' :: ([' '] ++ afterNewlines base (printAt indent level v))) := by
    rw [List.append_assoc, afterNewlines_append, afterNewlines_append,
      afterNewlines_of_notMem (newline_notMem_printText k),
      afterNewlines_of_notMem (by decide : '\n' ∉ ": ".toList)]
    rfl
  induction entries generalizing before with
  | nil => exact absurd rfl hentries
  | cons e entries ih =>
    obtain ⟨k, v⟩ := e
    -- a key holds no newline, so nothing is put into it
    have hv : Spells v (afterNewlines base (printAt indent level v)) := h (k, v) List.mem_cons_self
    have hspace : Gap [' '] := rfl
    cases entries with
    | nil =>
      have hsingle : Text.intercalate (',' :: gap) [printText k ++ ": " ++ printAt indent level v]
          = printText k ++ ": " ++ printAt indent level v := List.intercalate_singleton
      rw [List.map_singleton, hsingle, hentry]
      simpa only [List.append_assoc, List.cons_append] using
        SpellsEntries.last (k := k) hbefore hspace hv hafter
    | cons e entries =>
      have hrest := ih (List.cons_ne_nil e entries) (fun u hu => h u (List.mem_cons_of_mem _ hu))
        (gap_afterNewlines hbase hgap)
      have hcons := SpellsEntries.cons (k := k) hbefore hspace hv gap_nil hrest
      rw [List.map_cons, List.map_cons, afterNewlines_intercalate_cons, hentry]
      simpa only [List.map_cons, List.append_assoc, List.cons_append, List.nil_append] using hcons

end Brackets

/-! ### All values -/

section Printing

variable {indent : Option Text} {base : Text} {v : Json}

/-- **A printed value** spells the value, at any level and with any white space put after its line
breaks. -/
theorem spells_afterNewlines_printAt (hv : Exact v) (hindent : ∀ s ∈ indent, Gap s)
    (hbase : Gap base) (level : Nat) :
    Spells v (afterNewlines base (printAt indent level v)) := by
  induction hv generalizing level with
  | null => exact .null
  | bool b => cases b <;> exact .bool _
  | int n =>
    rw [printAt, afterNewlines_of_notMem (newline_notMem_ofInt n)]
    exact .int n
  | text s =>
    rw [printAt, afterNewlines_of_notMem (newline_notMem_printText s)]
    exact .text s
  | @list items _ ih =>
    rw [printAt, printItems_eq_map]
    by_cases hitems : items = []
    · -- a list without items stays on its line
      subst hitems
      exact .noItems gap_nil
    · rw [afterNewlines_bracket (by simpa using hitems) (by decide) (by decide)]
      exact .list (spellsItems_intercalate hitems (fun v hv => ih v hv (level + 1))
        (gap_betweenParts hindent _) hbase (gap_afterNewlines hbase (gap_lineBreak hindent _))
        (gap_afterNewlines hbase (gap_lineBreak hindent _)))
  | @dict entries _ ih =>
    rw [printAt, printEntries_eq_map]
    by_cases hentries : entries = []
    · subst hentries
      exact .noEntries gap_nil
    · rw [afterNewlines_bracket (by simpa using hentries) (by decide) (by decide)]
      exact .dict (spellsEntries_intercalate hentries (fun e he => ih e he (level + 1))
        (gap_betweenParts hindent _) hbase (gap_afterNewlines hbase (gap_lineBreak hindent _))
        (gap_afterNewlines hbase (gap_lineBreak hindent _)))

/-- **A value printed on several lines** is read back, also after its lines were moved to the right
and with white space behind it. -/
theorem read?_afterNewlines_pretty {indent after : Text} (hv : Exact v) (hindent : Gap indent)
    (hbase : Gap base) (hafter : Gap after) :
    read? (afterNewlines base (pretty indent v) ++ after) = some v := by
  have hspells : Spells v (afterNewlines base (pretty indent v)) := by
    apply spells_afterNewlines_printAt hv _ hbase
    intro s hs
    exact Option.some.inj hs ▸ hindent
  exact read?_of_spells gap_nil hspells hafter

end Printing

end ClassGroups.Json
