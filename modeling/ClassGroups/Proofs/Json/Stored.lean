import ClassGroups.Proofs.Encoding
import ClassGroups.Proofs.Json.Printed
import ClassGroups.Proofs.Layout

/-!
# A printed value in a file

A file is read with its line ends made alike, so a text comes back from a file only if it has no
carriage returns. A printed value has none (`return_notMem_pretty`): what stands in its strings is
escaped, and its lines end with newlines. So a value that was printed, put into a file and read from
there is the value itself (`read?_ofFile_pretty`).
-/

namespace ClassGroups.Json

section Characters

variable {indent : Option Text} {level : Nat} {v : Json} {d : Char}

/-- **A character of printed text** is none of the control characters, unless it belongs to a line
break or to an indentation. -/
def IsPrinted (indent : Option Text) (d : Char) : Prop :=
  0x20 ≤ d.toNat ∨ d = '\n' ∨ ∃ s ∈ indent, d ∈ s

theorem isPrinted_of_mem_lineBreak (h : d ∈ lineBreak indent level) : IsPrinted indent d := by
  cases indent with
  | none => exact absurd h List.not_mem_nil
  | some s =>
    rcases List.mem_cons.mp h with rfl | h
    · exact .inr (.inl rfl)
    · obtain ⟨s', hs', hd⟩ := List.mem_flatten.mp h
      obtain rfl := (List.mem_replicate.mp hs').2
      exact .inr (.inr ⟨s', rfl, hd⟩)

/-- Brackets, commas and line breaks are put around the parts, and nothing else. -/
theorem isPrinted_of_mem_bracket {opening closing : Char} {parts : List Text}
    (hopening : 0x20 ≤ opening.toNat) (hclosing : 0x20 ≤ closing.toNat)
    (hparts : ∀ part ∈ parts, ∀ d ∈ part, IsPrinted indent d)
    (h : d ∈ bracket indent level opening closing parts) : IsPrinted indent d := by
  unfold bracket at h
  cases parts with
  | nil =>
    rcases List.mem_pair.mp h with rfl | rfl
    · exact .inl hopening
    · exact .inl hclosing
  | cons part parts =>
    rw [if_neg (by simp), Text.intercalate_cons] at h
    have hgap : d ∈ (if indent.isNone then [' '] else lineBreak indent (level + 1)) →
        IsPrinted indent d := by
      split
      · intro hspace
        rw [List.mem_singleton.mp hspace]
        exact .inl (by decide)
      · exact isPrinted_of_mem_lineBreak
    simp only [List.cons_append, List.mem_cons, List.mem_append, List.mem_flatMap,
      List.not_mem_nil, or_false] at h
    rcases h with rfl | ((hbreak | hfirst | ⟨next, hnext, rfl | hspace | hmem⟩) | hbreak) | rfl
    · exact .inl hopening
    · exact isPrinted_of_mem_lineBreak hbreak
    · exact hparts part List.mem_cons_self d hfirst
    · exact .inl (by decide)
    · exact hgap hspace
    · exact hparts next (List.mem_cons_of_mem part hnext) d hmem
    · exact isPrinted_of_mem_lineBreak hbreak
    · exact .inl hclosing

/-- **All characters of a printed value.** -/
theorem isPrinted_of_mem_printAt (hv : Exact v) (h : d ∈ printAt indent level v) :
    IsPrinted indent d := by
  have hword (word : Text) (hall : word.all (0x20 ≤ ·.toNat) = true) {c : Char} (hc : c ∈ word) :
      0x20 ≤ c.toNat := of_decide_eq_true (List.all_eq_true.mp hall c hc)
  induction hv generalizing level d with
  | null => exact .inl (hword "null" (by decide) h)
  | bool b =>
    cases b with
    | true => exact .inl (hword "true" (by decide) h)
    | false => exact .inl (hword "false" (by decide) h)
  | int n => exact .inl (le_toNat_of_mem_ofInt h)
  | text s => exact .inl (le_toNat_of_mem_printText h)
  | @list items _ ih =>
    rw [printAt, printItems_eq_map] at h
    refine isPrinted_of_mem_bracket (by decide) (by decide) ?_ h
    intro part hpart d hd
    obtain ⟨v, hv, rfl⟩ := List.mem_map.mp hpart
    exact ih v hv hd
  | @dict entries _ ih =>
    rw [printAt, printEntries_eq_map] at h
    refine isPrinted_of_mem_bracket (by decide) (by decide) ?_ h
    intro part hpart d hd
    obtain ⟨e, he, rfl⟩ := List.mem_map.mp hpart
    rw [List.append_assoc, List.mem_append, List.mem_append] at hd
    rcases hd with hd | hd | hd
    · exact .inl (le_toNat_of_mem_printText hd)
    · exact .inl (hword ": " (by decide) hd)
    · exact ih e he hd

end Characters

section Files

variable {indent : Text} {v : Json}

theorem return_notMem_pretty (hv : Exact v) (hindent : '\r' ∉ indent) :
    '\r' ∉ v.pretty indent := by
  intro h
  rcases isPrinted_of_mem_printAt hv h with hle | hnewline | ⟨s, hs, hmem⟩
  · exact absurd hle (by decide)
  · exact absurd hnewline (by decide)
  · exact hindent (Option.some.inj hs ▸ hmem)

/-- **A value that was printed into a file** is read from there. -/
theorem read?_ofFile_pretty (hv : Exact v) (hgap : Gap indent) (hindent : '\r' ∉ indent) :
    read? (Text.ofFile (Text.encode (v.pretty indent))) = some v := by
  have hread : read? (afterNewlines [] (v.pretty indent) ++ []) = some v :=
    read?_afterNewlines_pretty hv hgap gap_nil gap_nil
  rw [afterNewlines_nil, List.append_nil] at hread
  rw [Text.ofFile, Text.decode_encode,
    Text.normalizeNewlines_of_notMem (return_notMem_pretty hv hindent), hread]

end Files

end ClassGroups.Json
