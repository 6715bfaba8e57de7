import ClassGroups.Proofs.Jsx.Quotes
import ClassGroups.Proofs.Jsx.Reported
import ClassGroups.Proofs.Lines

/-!
# From a position back to its place

A report shows a finding by its line and its column, which are counted independently of each other:
the newlines before a place, and the characters since the last one of them. A position leads back to
a place (`LeadsBack`) if the column is one of a character of the line, and if the earlier lines with
their newlines and the column together come to the place.

What stands before a place is some lines with their newlines and the beginning of one more
(`exists_earlier`). These are the earlier lines of the source, so the line tells their number and
the beginning tells the column, whatever stands in them and however many of them are empty. From
this it also follows that of two places the one behind has the greater position
(`position_lt`): its line is not smaller, and if the lines are the same, then the columns are
told apart by the places.
-/

namespace ClassGroups.Jsx

/-- **A position leads back to a place** of a source, where a character stands that is on its
line. -/
structure LeadsBack (source : Text) (line column place : Nat) : Prop where
  /-- Lines are counted from one. -/
  line_pos : 1 ≤ line
  /-- There are that many lines. -/
  line_le : line ≤ (Text.lines source).length
  /-- Columns are counted from one. -/
  column_pos : 1 ≤ column
  /-- The line has that many characters, and the last of these is the one at the place. -/
  character : ∃ text c, (Text.lines source)[line - 1]? = some text ∧
    text[column - 1]? = some c ∧ source[place]? = some c
  /-- The earlier lines, each with its newline, and the column come to the place. -/
  place_eq : (((Text.lines source).take (line - 1)).map (·.length + 1)).sum + (column - 1) = place

/-! ### The position of a place -/

section Position

variable {source : Text} {place place' : Nat} {c : Char}

/-- What stands before a place: earlier lines, and the beginning of the line of the place. -/
theorem exists_earlier (source : Text) (place : Nat) :
    ∃ earlier, (∀ text ∈ earlier, '\n' ∉ text) ∧
      source.take place = Text.unlines earlier ++ lineHead source place := by
  obtain hnil | ⟨earlier, head, hlines⟩ := List.eq_nil_or_concat (Text.lines (source.take place))
  · exact absurd hnil (lines_ne_nil _)
  rw [List.concat_eq_append] at hlines
  have hnone {text : Text} (hmem : text ∈ earlier ++ [head]) : '\n' ∉ text :=
    newline_notMem_of_mem_lines (hlines ▸ hmem)
  have htake : source.take place = Text.unlines earlier ++ head := by
    have hall := unlines_lines (source.take place)
    rw [hlines, unlines_append] at hall
    have hlast : Text.unlines [head] = head ++ Text.newline := List.flatten_singleton
    rw [hlast, ← List.append_assoc] at hall
    exact (List.append_cancel_right hall).symm
  -- going back from the place, the first newline is the one before `head`
  have hhead : lineHead source place = head := by
    have hpass : ∀ d ∈ head.reverse, (d != '\n') = true := by
      intro d hd
      rw [bne_iff_ne]
      rintro rfl
      exact hnone (List.mem_append_right _ List.mem_cons_self) (List.mem_reverse.mp hd)
    rw [lineHead, htake, List.reverse_append, List.takeWhile_append_of_pos hpass,
      takeWhile_reverse_unlines, List.append_nil, List.reverse_reverse]
  refine ⟨earlier, fun text hmem => hnone (List.mem_append_left _ hmem), ?_⟩
  rw [hhead, htake]

/-- **The earlier lines** tell the line, begin the lines of the source, and come to the place
together with the beginning of the line. -/
theorem exists_earlier_lines (h : place ≤ source.length) :
    ∃ earlier text rest, Text.lines source = earlier ++ (lineHead source place ++ text) :: rest ∧
      Text.lines (source.drop place) = text :: rest ∧
      line source place = earlier.length + 1 ∧
      (earlier.map (·.length + 1)).sum + (lineHead source place).length = place := by
  obtain ⟨earlier, hnone, htake⟩ := exists_earlier source place
  obtain ⟨text, rest, hdrop⟩ := List.exists_cons_of_ne_nil (lines_ne_nil (source.drop place))
  have hhead := newline_notMem_lineHead source place
  refine ⟨earlier, text, rest, ?_, hdrop, ?_, ?_⟩
  · calc Text.lines source
        = Text.lines (Text.unlines earlier ++ (lineHead source place ++ source.drop place)) := by
          rw [← List.append_assoc, ← htake, List.take_append_drop]
      _ = earlier ++ (lineHead source place ++ text) :: rest := by
          rw [lines_unlines_append hnone, lines_append_of_notMem hhead hdrop]
  · have hcount : Text.occurrences '\n' (source.take place) = earlier.length := by
      rw [htake]
      unfold Text.occurrences
      rw [List.count_append, List.count_eq_zero_of_not_mem hhead, Nat.add_zero]
      exact occurrences_unlines hnone
    rw [line, hcount]
  · have hlength := congrArg List.length htake
    rw [List.length_take_of_le h, List.length_append, length_unlines] at hlength
    exact hlength.symm

/-- **The position of a place** leads back to it if no newline stands there. -/
theorem leadsBack (hc : source[place]? = some c) (hne : c ≠ '\n') :
    LeadsBack source (line source place) (column source place) place := by
  obtain ⟨hlt, hget⟩ := List.getElem?_eq_some_iff.mp hc
  obtain ⟨earlier, text, rest, hlines, hdrop, hline, hplace⟩ :=
    exists_earlier_lines (Nat.le_of_lt hlt)
  -- what is left of the line starts with the character
  obtain ⟨text', rfl⟩ : ∃ text', text = c :: text' := by
    rw [List.drop_eq_getElem_cons hlt, hget] at hdrop
    obtain ⟨first, rest', hnext⟩ :=
      List.exists_cons_of_ne_nil (lines_ne_nil (source.drop (place + 1)))
    have hsingle : '\n' ∉ [c] := by simpa using Ne.symm hne
    have hcons := lines_append_of_notMem hsingle hnext
    exact ⟨first, (List.cons.inj (hdrop.symm.trans hcons)).1⟩
  have hindex : line source place - 1 = earlier.length := by rw [hline, Nat.add_sub_cancel]
  have hcolumn : column source place - 1 = (lineHead source place).length := by
    rw [column, Nat.add_sub_cancel]
  refine ⟨Nat.le_add_left 1 _, ?_, Nat.le_add_left 1 _, ?_, ?_⟩
  · rw [hlines, hline, List.length_append, List.length_cons]
    omega
  · refine ⟨lineHead source place ++ c :: text', c, ?_, ?_, hc⟩
    · rw [hindex, hlines]
      simp
    · rw [hcolumn]
      simp
  · rw [hindex, hcolumn, hlines, List.take_left, hplace]

/-- **Of two places** the one behind has the greater position, by lines first and then by
columns. -/
theorem position_lt (hlt : place < place') (h : place' ≤ source.length) :
    line source place < line source place' ∨
      line source place = line source place' ∧ column source place < column source place' := by
  have hle : line source place ≤ line source place' := by
    have hinitial : source.take place <+: source.take place' :=
      List.take_prefix_take_left (Nat.le_of_lt hlt)
    exact Nat.succ_le_succ (hinitial.sublist.count_le '\n')
  rcases Nat.lt_or_eq_of_le hle with hbefore | hsame
  · exact .inl hbefore
  refine .inr ⟨hsame, ?_⟩
  obtain ⟨earlier, text, rest, hlines, -, hline, hplace⟩ :=
    exists_earlier_lines (Nat.le_trans (Nat.le_of_lt hlt) h)
  obtain ⟨earlier', text', rest', hlines', -, hline', hplace'⟩ := exists_earlier_lines h
  -- on one line the same lines stand before both places
  have hearlier : earlier = earlier' := by
    have hlength : earlier.length = earlier'.length := by omega
    exact (List.append_inj (hlines.symm.trans hlines') hlength).1
  subst hearlier
  unfold column
  omega

end Position

/-! ### The positions of findings -/

section Findings

variable {attributes : List Text} {callee source : Text}

/-- A class list starts with a quote or with a character of the helper, so not with a newline. -/
theorem exists_character_of_mem_literals (hc : isIdentifier callee = true) {l : ClassLiteral}
    (hl : l ∈ literals attributes callee source) :
    ∃ c, source[l.start]? = some c ∧ c ≠ '\n' := by
  obtain ⟨x, hreported, rfl⟩ := mem_literals_iff_reported.mp hl
  have hscanned := (mem_reported_iff.mp hreported).1
  cases hkind : x.kind with
  | attributeValue =>
    obtain ⟨q, hq, hopen, -⟩ := exists_quote_of_value hc hscanned hkind
    exact ⟨q, hopen, hq.ne_newline⟩
  | helperCall =>
    obtain ⟨e, he, hopen⟩ := exists_mem_callee_of_call hc hscanned hkind
    refine ⟨e, hopen, ?_⟩
    rintro rfl
    exact absurd isBlank_newline (by simp [not_isBlank_of_isIdentifier hc he])

end Findings

/-- **Reported positions lead back** to the class lists: under options whose format can stand in a
source, the findings come in the order of their positions, and the position of each leads back to
where a class list of the source starts. -/
theorem positions_lead_back {o : Options} (ho : o.format.spliceable = true)
    (attributes : List Text) (source : Text) :
    ∃ fs, lint o attributes source = .ok fs ∧
      (fs.Pairwise fun f g => f.line < g.line ∨ f.line = g.line ∧ f.column < g.column) ∧
      ∀ f ∈ fs, LeadsBack source f.line f.column f.start ∧
        ∃ l ∈ literals attributes o.callee source, l.start = f.start ∧ l.stop = f.stop := by
  refine ⟨_, lint_eq ho, ?_, ?_⟩
  · unfold findings
    rw [List.pairwise_map]
    refine ((pairwise_start_lt o.callee_identifier).filter _).imp_of_mem ?_
    rintro l l' - hl' hlt
    have hplaces := start_lt_stop_of_mem_literals o.callee_identifier (List.mem_filter.mp hl').1
    exact position_lt hlt (by omega)
  · intro f hf
    obtain ⟨l, hl, rfl⟩ := List.mem_map.mp hf
    have hmem := (List.mem_filter.mp hl).1
    obtain ⟨c, hc, hne⟩ := exists_character_of_mem_literals o.callee_identifier hmem
    exact ⟨leadsBack hc hne, l, hmem, rfl, rfl⟩

/-- A tag over several lines, of which two are empty. A carriage return and a line separator end no
line. -/
def spreadTag : Text :=
  "\r\n\n<a\u2028class='mt-4 flex p-2 text-sm'\n\n  className=\x7bclsx('p-4 flex m-1 w-2')\x7d>"

theorem positions_lead_back_spreadTag :
    ({} : Options).format.spliceable = true ∧
    ∃ fs, lint {} defaultAttributes spreadTag = .ok fs ∧
      fs.map (fun f => (f.line, f.column, f.start)) = [(3, 10, 12), (5, 14, 50)] ∧
      (fs.Pairwise fun f g => f.line < g.line ∨ f.line = g.line ∧ f.column < g.column) ∧
      ∀ f ∈ fs, LeadsBack spreadTag f.line f.column f.start := by
  have ho : ({} : Options).format.spliceable = true := rfl
  have hreported :
      (reported (namesTried defaultAttributes) ({} : Options).callee spreadTag).map (·.literal)
        = [⟨.attributeValue, 12, 35, "mt-4 flex p-2 text-sm"⟩,
          ⟨.helperCall, 50, 74, "p-4 flex m-1 w-2"⟩] := by decide +kernel
  have hliterals : literals defaultAttributes ({} : Options).callee spreadTag = _ :=
    literals_eq_of_pairwise (by rw [hreported]; decide)
  -- both class lists pass the gate
  have hfindings : findings {} defaultAttributes spreadTag
      = [findingFor {} spreadTag ⟨.attributeValue, 12, 35, "mt-4 flex p-2 text-sm"⟩,
        findingFor {} spreadTag ⟨.helperCall, 50, 74, "p-4 flex m-1 w-2"⟩] := by
    rw [findings, hliterals, hreported, List.filter_eq_self.mpr (by decide +kernel)]
    rfl
  obtain ⟨fs, hlint, hordered, hback⟩ := positions_lead_back ho defaultAttributes spreadTag
  obtain rfl := Except.ok.inj ((lint_eq ho).symm.trans hlint)
  refine ⟨ho, _, hlint, ?_, hordered, fun f hf => (hback f hf).1⟩
  rw [hfindings]
  decide +kernel

end ClassGroups.Jsx
