import ClassGroups.Proofs.Choices
import ClassGroups.Proofs.CommandLine
import ClassGroups.Proofs.Definitions
import ClassGroups.Proofs.Encoding
import ClassGroups.Proofs.Settled
import ClassGroups.Proofs.Tokens
import ClassGroups.Proofs.Trimming

/-!
# Formatting as a filter

Without class lists among its arguments, the command `format` reads one from its input and writes
what has become of it. Run a second time on what it has written, it writes the same again
(`run_on_output`). Three things have to be known of the text in between:

* it is not changed once more, whether it was regrouped or kept (`format_text_format`);
* it comes through the stream, as it is trimmed and holds no carriage return (`isTrimmed_filtered`,
  `return_notMem_filtered`);
* no more than the inner indentation is chosen by the caller. The indentation of the surroundings
  could bring a carriage return in as well, but neither a variable nor an argument sets it
  (`baseIndent_of_optionsOf`).
-/

namespace ClassGroups

/-! ### What comes through the stream -/

/-- A formatted text is not changed once more: it is kept because it was kept before, or because it
spans lines. -/
theorem format_text_format (o : Options) (s : Text) :
    (format o (format o s).text).text = (format o s).text := by
  by_cases hchanged : (format o s).changed = true
  · exact text_of_not_changed (settled_of_changed hchanged o)
  · have hkept : (format o s).text = s := text_of_not_changed (by simpa using hchanged)
    rw [hkept, hkept]

/-- No token of a grouping holds a carriage return, which is white space. -/
theorem return_notMem_of_mem_group {s t : Text} {b : Group} (hb : b ∈ group s)
    (ht : t ∈ b.tokens) : '\r' ∉ t := by
  intro hmem
  have hblank := isBlank_of_mem_token (mem_tokenize_of_mem_group hb ht) hmem
  exact absurd hblank (by decide)

namespace Command

open Arguments

/-- What the filter makes of an input, apart from the newline behind it. -/
def filtered (o : Options) (input : Text) : Text :=
  (format o (Text.trim (Text.normalizeNewlines input))).text

section Filtered

variable {o : Options}

theorem isTrimmed_filtered (o : Options) (input : Text) : (filtered o input).IsTrimmed := by
  unfold filtered format
  split
  · exact Text.isTrimmed_trim _
  · exact isTrimmed_render o _

theorem return_notMem_filtered (hindent : '\r' ∉ o.indent) (hbase : o.baseIndent = [])
    (input : Text) : '\r' ∉ filtered o input := by
  unfold filtered format
  split
  · -- a text that is kept has lost its carriage returns when it was read
    intro hmem
    exact Text.return_notMem_normalizeNewlines input (Text.mem_of_mem_trim hmem)
  · have hnone : '\r' ∉ o.baseIndent := by
      rw [hbase]
      exact List.not_mem_nil
    refine return_notMem_render hindent hnone ?_
    intro b hb t ht
    exact return_notMem_of_mem_group hb ht

/-- **What the filter has written is filtered to itself.** -/
theorem filtered_filtered (hindent : '\r' ∉ o.indent) (hbase : o.baseIndent = [])
    (input : Text) : filtered o (filtered o input ++ Text.newline) = filtered o input := by
  have hreturn : '\r' ∉ filtered o input ++ Text.newline := by
    rw [List.mem_append, not_or]
    exact ⟨return_notMem_filtered hindent hbase input, by decide⟩
  have hnewline : Text.Blank Text.newline := rfl
  have hread : Text.trim (Text.normalizeNewlines (filtered o input ++ Text.newline))
      = filtered o input := by
    rw [Text.normalizeNewlines_of_notMem hreturn]
    exact (isTrimmed_filtered o input).trim_append hnewline
  calc filtered o (filtered o input ++ Text.newline)
      = (format o (filtered o input)).text := congrArg (fun s => (format o s).text) hread
    _ = filtered o input := format_text_format o _

end Filtered

/-! ### Runs of the filter -/

section Runs

variable {arguments : List Text} {env : Environment} {definitions : Text} {o : Options}

/-- **The command line asks for a filter**: it names the command and gives no class lists, it does
not ask for a check, and the options that it and the environment describe are admissible. -/
def AsksForFilter (arguments : List Text) (env : Environment) (definitions : Text) (o : Options) :
    Prop :=
  ∃ env' p, env.withDefinitions definitions = .ok env' ∧
    parseLine arguments = .ok (.format, p) ∧ p.operands.getD [] = [] ∧
    p.has "--check" = false ∧ optionsOf env' p renderFields = .ok o

theorem AsksForFilter.baseIndent (h : AsksForFilter arguments env definitions o) :
    o.baseIndent = [] := by
  obtain ⟨env', p, -, -, -, -, hoptions⟩ := h
  exact baseIndent_of_optionsOf hoptions

theorem AsksForFilter.run (h : AsksForFilter arguments env definitions o) (input : Text) :
    (run arguments env definitions input).output = filtered o input ++ Text.newline ∧
    (run arguments env definitions input).status = 0 ∧
    (run arguments env definitions input).fault? = none := by
  obtain ⟨env', p, henv, hline, hoperands, hcheck, hoptions⟩ := h
  have hsource : classSource p (Text.normalizeNewlines input)
      = Text.trim (Text.normalizeNewlines input) := by
    rw [classSource, hoperands]
  rw [run_format henv hline hoptions, runFormat, hcheck, hsource]
  exact ⟨rfl, rfl, rfl⟩

/-- **The filter is a projection**: it ends well on every input, and on what it has written it
writes the same again. Only the inner indentation must not bring a carriage return in. -/
theorem run_on_output (h : AsksForFilter arguments env definitions o) (hindent : '\r' ∉ o.indent)
    (input : Text) :
    ((run arguments env definitions input).status = 0 ∧
      (run arguments env definitions input).fault? = none) ∧
    (run arguments env definitions (run arguments env definitions input).output).output
      = (run arguments env definitions input).output ∧
    (run arguments env definitions (run arguments env definitions input).output).status = 0 ∧
    (run arguments env definitions (run arguments env definitions input).output).fault? = none := by
  obtain ⟨houtput, hstatus, hfault⟩ := h.run input
  -- the second run reads what the first one has written
  obtain ⟨houtput', hstatus', hfault'⟩ := h.run (filtered o input ++ Text.newline)
  rw [houtput]
  refine ⟨⟨hstatus, hfault⟩, ?_, hstatus', hfault'⟩
  rw [houtput', filtered_filtered hindent h.baseIndent]

/-- Variables that choose template literals and tabs. -/
def tabbedTemplates : Environment := [("TW_GROUP_FORMAT", "template"), ("TW_GROUP_INDENT", "\t")]

theorem asksForFilter_tabbedTemplates :
    AsksForFilter ["format", "--no-comments"] tabbedTemplates []
      { format := .template, comments := false, indent := "\t" } := by
  have htop : programGrammar.readAll ["--no-comments"] = .ok [("--no-comments", .unknown)] := rfl
  have hbelow : formatGrammar.parseKnown ["--no-comments"]
      = .ok { values := [("--no-comments", .given)], operands := some [] } := by
    have hread : formatGrammar.readAll ["--no-comments"]
        = .ok [("--no-comments", .option ⟨"--no-comments", .flag⟩ none)] := rfl
    refine parseKnown_eq hread ?_ rfl
    rw [act_cons_of_flag, Grammar.act]
    rfl
  have hline : parseLine ["format", "--no-comments"]
      = .ok (.format, { values := [("--no-comments", .given)], operands := some [] }) :=
    parseLine_eq (by decide) htop hbelow rfl
  exact ⟨tabbedTemplates, _, Environment.withDefinitions_nil _, hline, rfl, rfl, rfl⟩

/-- White space of several kinds around the class list, and a line end of two characters. -/
theorem run_on_output_tabbedTemplates :
    (AsksForFilter ["format", "--no-comments"] tabbedTemplates []
      { format := .template, comments := false, indent := "\t" } ∧ '\r' ∉ "\t".toList) ∧
    (run ["format", "--no-comments"] tabbedTemplates [] "  mt-4 flex\tp-2 text-sm \r\n").output
      = "`\n\tmt-4 p-2\n\tflex\n\ttext-sm\n`\n".toList ∧
    (run ["format", "--no-comments"] tabbedTemplates []
      "`\n\tmt-4 p-2\n\tflex\n\ttext-sm\n`\n").output
      = "`\n\tmt-4 p-2\n\tflex\n\ttext-sm\n`\n".toList ∧
    (run ["format", "--no-comments"] tabbedTemplates []
      "`\n\tmt-4 p-2\n\tflex\n\ttext-sm\n`\n").status = 0 := by
  have hasks := asksForFilter_tabbedTemplates
  have hindent : '\r' ∉ "\t".toList := by decide
  have hfirst := (hasks.run "  mt-4 flex\tp-2 text-sm \r\n").1.trans
    (by decide +kernel : _ = "`\n\tmt-4 p-2\n\tflex\n\ttext-sm\n`\n".toList)
  obtain ⟨-, houtput, hstatus, -⟩ :=
    run_on_output hasks hindent "  mt-4 flex\tp-2 text-sm \r\n"
  rw [hfirst] at houtput hstatus
  exact ⟨⟨hasks, hindent⟩, hfirst, houtput, hstatus⟩

end Runs

end Command

end ClassGroups
