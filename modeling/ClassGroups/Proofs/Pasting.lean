import ClassGroups.Interactive
import ClassGroups.Proofs.Layout
import ClassGroups.Proofs.Tokens

/-!
# What a pasted stream comes to

The interactive mode reads line by line, with a buffer and a count of blank lines. Here a stream is
looked at as a whole. A block is a maximal stretch of lines without two blank neighbours that begins
and ends with a written line (`IsBlock`), and it is completed if two blank lines follow it
(`IsCompleted`). The main statement, `transcript_eq_sections`, says that exactly the completed
blocks are answered, each once and in their order.

The invariant, `Reading`, tells where the reader is after some of the lines. Either nothing is
pending, and then no written line is near enough for the next one to belong to it, or the pending
lines are those of a stretch that cannot be continued to the left and that at most one blank line
follows. Each line keeps the invariant (`Reading.written`, `Reading.blank`), and a blank line after
a blank line, with something pending, is what completes a block (`Reading.isCompleted`).
-/

namespace ClassGroups

/-! ### The lines of a stream -/

/-- **A stream has lines**: each is followed by a newline, which is the only one in it, except that
the last one may do without if there is something in it. -/
structure Lined (stream : Text) (lines : List Text) : Prop where
  newline_notMem : ∀ line ∈ lines, '\n' ∉ line
  eq : stream = Text.unlines lines ∨
    ∃ last, lines.getLast? = some last ∧ last ≠ [] ∧ stream ++ Text.newline = Text.unlines lines

theorem lined_streamLines (stream : Text) : Lined stream (Text.streamLines stream) := by
  have hall := unlines_lines stream
  have hnone {line : Text} : line ∈ Text.lines stream → '\n' ∉ line :=
    newline_notMem_of_mem_lines
  unfold Text.streamLines
  by_cases hlast : (Text.lines stream).getLast? = some []
  · -- behind the last newline nothing is left, which is no line
    dsimp only
    rw [if_pos hlast]
    refine ⟨fun line hline => hnone (List.dropLast_subset _ hline), .inl ?_⟩
    rw [← List.dropLast_append_getLast? _ hlast, unlines_append] at hall
    exact (List.append_cancel_right hall).symm
  · dsimp only
    rw [if_neg hlast]
    refine ⟨fun line => hnone, .inr ?_⟩
    have hsome := List.getLast?_eq_getLast_of_ne_nil (lines_ne_nil stream)
    refine ⟨_, hsome, ?_, hall.symm⟩
    intro hnil
    exact hlast (hsome.trans (congrArg some hnil))

/-! ### Blocks -/

/-- **A blank line** stands at a place. -/
def BlankAt (lines : List Text) (k : Nat) : Prop :=
  ∃ line, lines[k]? = some line ∧ Text.Blank line

/-- **A written line** stands at a place: one that is not blank. -/
def WrittenAt (lines : List Text) (k : Nat) : Prop :=
  ∃ line, lines[k]? = some line ∧ ¬Text.Blank line

/-- **A stretch** of lines begins and ends with a written line, and between neighbouring written
lines of it there is at most one blank line. -/
structure IsStretch (lines : List Text) (first last : Nat) : Prop where
  le : first ≤ last
  first_written : WrittenAt lines first
  last_written : WrittenAt lines last
  dense : ∀ k, first ≤ k → k < last → ¬(BlankAt lines k ∧ BlankAt lines (k + 1))

/-- **A block** is a stretch that is part of no longer one. -/
structure IsBlock (lines : List Text) (first last : Nat) : Prop where
  stretch : IsStretch lines first last
  maximal : ∀ first' last', IsStretch lines first' last' → first' ≤ first → last ≤ last' →
    first' = first ∧ last' = last

/-- **A completed block** is followed by two blank lines. -/
structure IsCompleted (lines : List Text) (first last : Nat) : Prop where
  block : IsBlock lines first last
  blank_next : BlankAt lines (last + 1)
  blank_second : BlankAt lines (last + 2)

/-- The written lines from one place up to another one. -/
def writtenLines (lines : List Text) (first last : Nat) : List Text :=
  ((lines.drop first).take (last + 1 - first)).filter fun line => !line.all isBlank

/-- The class list that the written lines up to a place make. -/
def pastedList (lines : List Text) (first last : Nat) : Text :=
  Text.trim (Text.intercalate " " (writtenLines lines first last))

section Blocks

variable {lines : List Text} {first last k : Nat}

theorem WrittenAt.not_blankAt (h : WrittenAt lines k) : ¬BlankAt lines k := by
  obtain ⟨line, hline, hwritten⟩ := h
  rintro ⟨line', hline', hblank⟩
  rw [hline] at hline'
  obtain rfl := Option.some.inj hline'
  exact hwritten hblank

theorem WrittenAt.ne_of_blankAt {j : Nat} (h : WrittenAt lines k) (hj : BlankAt lines j) :
    k ≠ j := by
  rintro rfl
  exact h.not_blankAt hj

/-- **Two blank lines** belong to no stretch. -/
theorem IsStretch.lt_or_lt (h : IsStretch lines first last) (hk : BlankAt lines k)
    (hk' : BlankAt lines (k + 1)) : last < k ∨ k + 1 < first := by
  have hfirst := h.first_written.ne_of_blankAt hk
  have hfirst' := h.first_written.ne_of_blankAt hk'
  have hlast := h.last_written.ne_of_blankAt hk
  have hlast' := h.last_written.ne_of_blankAt hk'
  by_contra hnot
  exact h.dense k (by omega) (by omega) ⟨hk, hk'⟩

/-- Blocks with the same end are the same. -/
theorem IsBlock.first_eq {first' : Nat} (h : IsBlock lines first last)
    (h' : IsBlock lines first' last) : first' = first := by
  rcases Nat.le_total first' first with hle | hle
  · exact (h.maximal first' last h'.stretch hle (Nat.le_refl last)).1
  · exact (h'.maximal first last h.stretch hle (Nat.le_refl last)).1.symm

theorem filter_singleton_of_written {line : Text} (h : ¬Text.Blank line) :
    [line].filter (fun line => !line.all isBlank) = [line] := by
  rw [List.filter_cons_of_pos, List.filter_nil]
  rw [Bool.not_eq_true', ← Bool.not_eq_true]
  exact h

/-- One line more is taken if it is written. -/
theorem writtenLines_succ (h : first ≤ last + 1) :
    writtenLines lines first (last + 1)
      = writtenLines lines first last
        ++ (lines[last + 1]?.toList.filter fun line => !line.all isBlank) := by
  have hcount : last + 1 + 1 - first = last + 1 - first + 1 := by omega
  have hplace : first + (last + 1 - first) = last + 1 := by omega
  unfold writtenLines
  rw [hcount, List.take_add_one, List.filter_append, List.getElem?_drop, hplace]

theorem writtenLines_succ_of_blank (h : first ≤ last + 1) (hblank : BlankAt lines (last + 1)) :
    writtenLines lines first (last + 1) = writtenLines lines first last := by
  obtain ⟨line, hline, hblank⟩ := hblank
  rw [writtenLines_succ h, hline]
  simp [hblank]

theorem writtenLines_succ_of_written {line : Text} (h : first ≤ last + 1)
    (hline : lines[last + 1]? = some line) (hwritten : ¬Text.Blank line) :
    writtenLines lines first (last + 1) = writtenLines lines first last ++ [line] := by
  rw [writtenLines_succ h, hline, Option.toList_some, filter_singleton_of_written hwritten]

theorem writtenLines_self {line : Text} (hline : lines[k]? = some line)
    (hwritten : ¬Text.Blank line) : writtenLines lines k k = [line] := by
  have hcount : k + 1 - k = 0 + 1 := by omega
  unfold writtenLines
  rw [hcount, List.take_add_one, List.getElem?_drop, Nat.add_zero, hline]
  exact filter_singleton_of_written hwritten

theorem IsStretch.writtenLines_ne_nil (h : IsStretch lines first last) :
    writtenLines lines first last ≠ [] := by
  obtain ⟨line, hline, hwritten⟩ := h.first_written
  have hmem : line ∈ writtenLines lines first last := by
    refine List.mem_filter.mpr ⟨List.mem_iff_getElem?.mpr ⟨0, ?_⟩, by simpa using hwritten⟩
    have hle := h.le
    rw [List.getElem?_take_of_lt (by omega), List.getElem?_drop]
    exact hline
  exact List.ne_nil_of_mem hmem

end Blocks

/-! ### Where the reader is -/

/-- **A place is separated** from the lines before it: these are all blank, or the last two of them
are. -/
def Separated (lines : List Text) (n : Nat) : Prop :=
  (∀ k < n, BlankAt lines k) ∨ ∃ k, n = k + 2 ∧ BlankAt lines k ∧ BlankAt lines (k + 1)

/-- **Where the reader is** after the lines before a place, with some lines pending and some blank
lines counted. -/
inductive Reading (lines : List Text) (n : Nat) : List Text → Nat → Prop where
  /-- Nothing is pending, and the next written line begins a block. -/
  | idle (blanks : Nat) (separated : Separated lines n) : Reading lines n [] blanks
  /-- A stretch is pending that begins a block. Since its end, at most one line was read. -/
  | pending {first last blanks : Nat} (separated : Separated lines first)
      (stretch : IsStretch lines first last) (few : blanks ≤ 1) (place : n = last + 1 + blanks)
      (trailing : ∀ k, last < k → k < n → BlankAt lines k) :
      Reading lines n (writtenLines lines first last) blanks

section Step

variable {lines pending : List Text} {n blanks first last : Nat} {line : Text}

theorem Separated.succ (h : Separated lines n) (hblank : BlankAt lines n) :
    Separated lines (n + 1) := by
  rcases h with hall | ⟨k, rfl, -, hk⟩
  · refine .inl fun k hk => ?_
    rcases Nat.lt_succ_iff_lt_or_eq.mp hk with hk | rfl
    · exact hall k hk
    · exact hblank
  · exact .inr ⟨k + 1, rfl, hk, hblank⟩

/-- No stretch reaches over the lines that separate a place. -/
theorem Separated.le_first (h : Separated lines n) (hstretch : IsStretch lines first last)
    (hle : n ≤ last) : n ≤ first := by
  rcases h with hall | ⟨k, rfl, hk, hk'⟩
  · by_contra hlt
    exact hstretch.first_written.not_blankAt (hall first (by omega))
  · have := hstretch.lt_or_lt hk hk'
    omega

/-- **What two blank lines complete.** A stretch that is separated from the lines before it is a
whole block once two blank lines follow it. -/
theorem Separated.isCompleted (h : Separated lines first) (hstretch : IsStretch lines first last)
    (hnext : BlankAt lines (last + 1)) (hsecond : BlankAt lines (last + 2)) :
    IsCompleted lines first last := by
  refine ⟨⟨hstretch, fun first' last' hlonger hfirst hlast => ?_⟩, hnext, hsecond⟩
  have hle := hstretch.le
  have hleft := h.le_first hlonger (by omega)
  have hright := hlonger.lt_or_lt hnext hsecond
  omega

/-- **A written line** continues what is pending, or begins a block. -/
theorem Reading.written (h : Reading lines n pending blanks) (hline : lines[n]? = some line)
    (hwritten : ¬Text.Blank line) : Reading lines (n + 1) (pending ++ [line]) 0 := by
  have hn : WrittenAt lines n := ⟨line, hline, hwritten⟩
  cases h with
  | idle _ separated =>
    rw [List.nil_append, ← writtenLines_self hline hwritten]
    refine .pending separated ⟨Nat.le_refl n, hn, hn, fun k hk hk' => ?_⟩ (Nat.zero_le 1) rfl ?_
    · exact absurd hk (by omega)
    · intro k hk hk'
      exact absurd hk (by omega)
  | @pending first last _ separated stretch few place trailing =>
    have hle := stretch.le
    have hlines : writtenLines lines first n = writtenLines lines first last ++ [line] := by
      -- at most one blank line stands between the last line and this one
      obtain rfl | rfl : blanks = 0 ∨ blanks = 1 := by omega
      · obtain rfl : n = last + 1 := place
        exact writtenLines_succ_of_written (by omega) hline hwritten
      · obtain rfl : n = last + 1 + 1 := place
        rw [writtenLines_succ_of_written (by omega) hline hwritten,
          writtenLines_succ_of_blank (by omega) (trailing _ (by omega) (by omega))]
    rw [← hlines]
    refine .pending separated ⟨by omega, stretch.first_written, hn, ?_⟩ (Nat.zero_le 1) rfl ?_
    · rintro k hk hk' ⟨hblank, hblank'⟩
      have hlast := stretch.last_written.ne_of_blankAt hblank
      have hnext := hn.ne_of_blankAt hblank'
      exact stretch.dense k hk (by omega) ⟨hblank, hblank'⟩
    · intro k hk hk'
      exact absurd hk (by omega)

/-- **A first blank line** leaves pending what is pending. -/
theorem Reading.blank (h : Reading lines n pending 0) (hblank : BlankAt lines n) :
    Reading lines (n + 1) pending 1 := by
  cases h with
  | idle _ separated => exact .idle 1 (separated.succ hblank)
  | pending separated stretch few place trailing =>
    refine .pending separated stretch (Nat.le_refl 1) (by omega) fun k hk hk' => ?_
    obtain rfl : k = n := by omega
    exact hblank

theorem Reading.separated (h : Reading lines n [] blanks) : Separated lines n := by
  generalize hnil : ([] : List Text) = pending at h
  cases h with
  | idle _ separated => exact separated
  | pending _ stretch => exact absurd hnil.symm stretch.writtenLines_ne_nil

/-- **A second blank line** completes the block that is pending. -/
theorem Reading.isCompleted (h : Reading lines n pending blanks) (hne : pending ≠ [])
    (hblanks : blanks ≠ 0) (hblank : BlankAt lines n) :
    ∃ first last, IsCompleted lines first last ∧ n = last + 2 ∧
      pending = writtenLines lines first last := by
  cases h with
  | idle => exact absurd rfl hne
  | @pending first last _ separated stretch few place trailing =>
    obtain rfl : n = last + 2 := by omega
    refine ⟨first, last, ?_, rfl, rfl⟩
    exact separated.isCompleted stretch (trailing _ (by omega) (by omega)) hblank

/-- A block that is completed at a place was pending there, after one blank line. -/
theorem Reading.of_isCompleted (h : Reading lines n pending blanks)
    (hblock : IsCompleted lines first last) (hn : n = last + 2) : pending ≠ [] ∧ blanks ≠ 0 := by
  have hlast := hblock.block.stretch.last_written
  cases h with
  | idle _ separated =>
    exfalso
    rcases separated with hall | ⟨k, hk, hblank, -⟩
    · exact hlast.not_blankAt (hall last (by omega))
    · obtain rfl : k = last := by omega
      exact hlast.not_blankAt hblank
  | pending _ stretch few place trailing =>
    refine ⟨stretch.writtenLines_ne_nil, ?_⟩
    rintro rfl
    exact stretch.last_written.ne_of_blankAt hblock.blank_next (by omega)

end Step

/-! ### The whole stream -/

/-- **The blocks that are completed** from a place on, in their order. -/
structure CompletedFrom (lines : List Text) (n : Nat) (blocks : List (Nat × Nat)) : Prop where
  ordered : blocks.Pairwise fun a b => a.2 < b.1
  exact_blocks : ∀ first last,
    (first, last) ∈ blocks ↔ IsCompleted lines first last ∧ n ≤ last + 2

section Run

variable {lines pending rest : List Text} {n blanks first last : Nat} {blocks : List (Nat × Nat)}

theorem CompletedFrom.of_succ (h : CompletedFrom lines (n + 1) blocks)
    (hno : ∀ first last, IsCompleted lines first last → n ≠ last + 2) :
    CompletedFrom lines n blocks := by
  refine ⟨h.ordered, fun first last => (h.exact_blocks first last).trans ?_⟩
  refine and_congr_right fun hblock => ?_
  have := hno first last hblock
  omega

theorem CompletedFrom.cons (h : CompletedFrom lines (n + 1) blocks)
    (hblock : IsCompleted lines first last) (hn : n = last + 2) :
    CompletedFrom lines n ((first, last) :: blocks) := by
  subst hn
  constructor
  · refine List.pairwise_cons.mpr ⟨?_, h.ordered⟩
    rintro ⟨first', last'⟩ hmem
    -- no block reaches over the two blank lines
    obtain ⟨hlater, hplace⟩ := (h.exact_blocks first' last').mp hmem
    have := hlater.block.stretch.lt_or_lt hblock.blank_next hblock.blank_second
    show last < first'
    omega
  · intro first' last'
    rw [List.mem_cons, h.exact_blocks, Prod.mk.injEq]
    constructor
    · rintro (⟨rfl, rfl⟩ | ⟨hlater, hplace⟩)
      · exact ⟨hblock, Nat.le_refl _⟩
      · exact ⟨hlater, by omega⟩
    · rintro ⟨hlater, hplace⟩
      by_cases hlast : last' = last
      · subst hlast
        exact .inl ⟨hblock.block.first_eq hlater.block, rfl⟩
      · exact .inr ⟨hlater, by omega⟩

/-- **The run** answers the blocks that are completed from its place on. -/
theorem completedBlocks_eq (h : Reading lines n pending blanks) (hrest : lines.drop n = rest) :
    ∃ blocks, CompletedFrom lines n blocks ∧
      completedBlocks pending blanks rest = blocks.map fun b => writtenLines lines b.1 b.2 := by
  induction rest generalizing n pending blanks with
  | nil =>
    refine ⟨[], ⟨.nil, fun first last => ?_⟩, rfl⟩
    refine iff_of_false List.not_mem_nil ?_
    -- two blank lines behind a block would still have to be read
    rintro ⟨hblock, hplace⟩
    obtain ⟨line, hline, -⟩ := hblock.blank_second
    have hlt := (List.getElem?_eq_some_iff.mp hline).1
    have hend := List.drop_eq_nil_iff.mp hrest
    omega
  | cons line rest ih =>
    have hline : lines[n]? = some line := by
      rw [← Nat.add_zero n, ← List.getElem?_drop, hrest]
      rfl
    have hrest' : lines.drop (n + 1) = rest := by
      rw [← List.drop_drop, hrest]
      rfl
    rw [completedBlocks]
    by_cases hblank : line.all isBlank = true
    · have hn : BlankAt lines n := ⟨line, hline, hblank⟩
      rw [if_pos hblank]
      by_cases hfirst : blanks = 0
      · subst hfirst
        rw [if_pos rfl]
        obtain ⟨blocks, hblocks, heq⟩ := ih (h.blank hn) hrest'
        refine ⟨blocks, hblocks.of_succ fun first last hblock hplace => ?_, heq⟩
        exact (h.of_isCompleted hblock hplace).2 rfl
      · rw [if_neg hfirst]
        by_cases hnil : pending = []
        · subst hnil
          obtain ⟨blocks, hblocks, heq⟩ := ih (.idle 0 (h.separated.succ hn)) hrest'
          refine ⟨blocks, hblocks.of_succ fun first last hblock hplace => ?_, heq⟩
          exact (h.of_isCompleted hblock hplace).1 rfl
        · -- this line completes what is pending
          obtain ⟨first, last, hblock, hplace, rfl⟩ := h.isCompleted hnil hfirst hn
          have hseparated : Separated lines (n + 1) :=
            .inr ⟨last + 1, by omega, hblock.blank_next, hblock.blank_second⟩
          obtain ⟨blocks, hblocks, heq⟩ := ih (.idle 0 hseparated) hrest'
          refine ⟨(first, last) :: blocks, hblocks.cons hblock hplace, ?_⟩
          rw [if_neg (by simpa using hnil), heq]
          rfl
    · rw [if_neg hblank]
      obtain ⟨blocks, hblocks, heq⟩ := ih (h.written hline hblank) hrest'
      refine ⟨blocks, hblocks.of_succ fun first last hblock hplace => ?_, heq⟩
      subst hplace
      exact WrittenAt.not_blankAt ⟨line, hline, hblank⟩ hblock.blank_second

end Run

/-- A class list on one line is not kept for its lines. -/
theorem reason?_ne_multiline {o : Options} {s : Text} (h : '\n' ∉ s) :
    (format o s).reason? ≠ some .multiline := by
  have hgate : gate o.minTokens s ≠ some .multiline := by
    unfold gate
    rw [if_neg h]
    split
    · nofun
    · split <;> nofun
  unfold format
  split
  · next reason hreason => exact fun heq => hgate (hreason.trans heq)
  · nofun

theorem newline_notMem_pastedList {lines : List Text} (h : ∀ line ∈ lines, '\n' ∉ line)
    (first last : Nat) : '\n' ∉ pastedList lines first last := by
  have hwritten : ∀ line ∈ writtenLines lines first last, '\n' ∉ line := fun line hline =>
    h line (List.mem_of_mem_drop (List.mem_of_mem_take (List.mem_of_mem_filter hline)))
  unfold pastedList
  intro hmem
  rcases Text.mem_of_mem_intercalate (Text.mem_of_mem_trim hmem) with hspace | ⟨line, hline, hmem⟩
  · exact absurd hspace (by decide)
  · exact hwritten line hline hmem

/-! ### What is shown -/

/-- **A section** in full: what was formatted stands between two fixed texts. -/
theorem resultSection_eq (f : Formatted) :
    resultSection f
      = "\nFormatted Output:\n----------------\n" ++ f.text
        ++ "\n\n\nPaste more classes or press Ctrl+D to exit:\n\n" := by
  have hheader : Text.unlines ["", "Formatted Output:", "----------------"]
      = "\nFormatted Output:\n----------------\n" := by decide
  have hfooter : Text.newline ++ Text.unlines ["", "",
        "Paste more classes or press Ctrl+D to exit:", ""]
      = "\n\n\nPaste more classes or press Ctrl+D to exit:\n\n" := by decide
  calc resultSection f
      = Text.unlines ["", "Formatted Output:", "----------------"] ++ (f.text ++ Text.newline
          ++ Text.unlines ["", "", "Paste more classes or press Ctrl+D to exit:", ""]) :=
        unlines_append ["", "Formatted Output:", "----------------"] _
    _ = Text.unlines ["", "Formatted Output:", "----------------"] ++ f.text ++ (Text.newline
          ++ Text.unlines ["", "", "Paste more classes or press Ctrl+D to exit:", ""]) := by
        rw [List.append_assoc, List.append_assoc]
    _ = _ := by rw [hheader, hfooter]

/-- **The transcript** of a stream shows, after the banner, what becomes of each completed block as
one class list, with a header and a footer, and nothing else. -/
theorem transcript_eq_sections (o : Options) (stream : Text) :
    ∃ (lines : List Text) (blocks : List (Nat × Nat)),
      Lined stream lines ∧
      blocks.Pairwise (fun a b => a.2 < b.1) ∧
      (∀ first last, (first, last) ∈ blocks ↔ IsCompleted lines first last) ∧
      transcript o stream
        = "Tailwind Class Formatter\n========================\n"
          ++ "Paste your Tailwind classes and press Enter twice:\n\n"
          ++ (blocks.map fun b =>
            "\nFormatted Output:\n----------------\n"
              ++ (format o (pastedList lines b.1 b.2)).text
              ++ "\n\n\nPaste more classes or press Ctrl+D to exit:\n\n").flatten ∧
      ∀ b ∈ blocks, (format o (pastedList lines b.1 b.2)).reason? ≠ some .multiline := by
  have hlined := lined_streamLines stream
  have hstart : Reading (Text.streamLines stream) 0 [] 0 :=
    .idle 0 (.inl fun k hk => absurd hk (Nat.not_lt_zero k))
  have hbanner : banner = "Tailwind Class Formatter\n========================\n"
      ++ "Paste your Tailwind classes and press Enter twice:\n\n" := by decide
  obtain ⟨blocks, hblocks, heq⟩ := completedBlocks_eq hstart List.drop_zero
  refine ⟨_, blocks, hlined, hblocks.ordered, fun first last => ?_, ?_, fun b _ => ?_⟩
  · rw [hblocks.exact_blocks]
    exact and_iff_left (Nat.zero_le _)
  · unfold transcript pasted pastedClasses
    rw [heq, hbanner, List.map_map, List.map_map, List.map_map]
    congr 2
    exact List.map_congr_left fun b _ => resultSection_eq _
  · exact reason?_ne_multiline (newline_notMem_pastedList hlined.newline_notMem b.1 b.2)

end ClassGroups
