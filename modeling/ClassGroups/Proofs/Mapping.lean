import ClassGroups.Proofs.CommandLine
import ClassGroups.Proofs.Definitions
import ClassGroups.Proofs.Json.Printed
import ClassGroups.Proofs.Partition

/-!
# Groupings written as JSON

A grouping is written as JSON by rendering it as a mapping and by the command `group`. In both cases
the text, read as JSON, is an object with an entry for each group, in their order: the name of its
category with the list of its tokens (`HoldsGrouping`). The main statement is
`holdsGrouping_mapping`.

The object is built by category, so that one with two groups would be written once only. This does
not happen (`Grouping.toJson_eq`), since the groups of a class list have distinct categories.
-/

namespace ClassGroups

/-- **A text holds a grouping**: it is JSON for an object that has an entry for each group, and no
name twice. -/
structure HoldsGrouping (t : Text) (g : Grouping) : Prop where
  /-- What is read, entry by entry. -/
  read : Json.read? t = some (.dict (g.map fun b => (b.category.name, .list (b.tokens.map .text))))
  /-- No name has two entries. -/
  distinct : (g.map (·.category.name)).Nodup

/-! ### Groups with distinct categories -/

theorem Category.name_injective : Function.Injective Category.name := by
  intro c d
  cases c <;> cases d <;> decide

namespace Grouping

variable {g : Grouping} {b : Group}

theorem byCategory_put_of_notMem {entries : List (Category × List Text)}
    (h : b.category ∉ entries.map (·.1)) :
    byCategory.put entries b = entries ++ [(b.category, b.tokens)] := by
  induction entries with
  | nil => rfl
  | cons e entries ih =>
    rw [List.map_cons, List.mem_cons, not_or] at h
    rw [byCategory.put, if_neg fun heq => h.1 heq.symm, ih h.2, List.cons_append]

/-- Groups with distinct categories are entries of their own, in the same order. -/
theorem foldl_byCategory_put {entries : List (Category × List Text)}
    (h : (entries.map (·.1) ++ g.map (·.category)).Nodup) :
    g.foldl byCategory.put entries = entries ++ g.map fun b => (b.category, b.tokens) := by
  induction g generalizing entries with
  | nil => exact (List.append_nil entries).symm
  | cons b g ih =>
    -- the category of `b` has no entry so far, so `b` gets one behind the others
    have hnew : b.category ∉ entries.map (·.1) := fun hmem =>
      (List.nodup_append.mp h).2.2 _ hmem _ List.mem_cons_self rfl
    rw [List.foldl_cons, byCategory_put_of_notMem hnew, ih, List.append_assoc]
    · rfl
    · rwa [List.map_append, List.append_assoc]

theorem toJson_eq (h : (g.map (·.category)).Nodup) :
    g.toJson = .dict (g.map fun b => (b.category.name, .list (b.tokens.map .text))) := by
  have hentries : g.byCategory = g.map fun b => (b.category, b.tokens) :=
    foldl_byCategory_put h
  rw [toJson, hentries, List.map_map]
  rfl

/-- A grouping as an object has no numbers at all. -/
theorem exact_toJson (g : Grouping) : Json.Exact g.toJson := by
  refine .dict fun e he => ?_
  obtain ⟨⟨c, tokens⟩, -, rfl⟩ := List.mem_map.mp he
  refine .list fun v hv => ?_
  obtain ⟨t, -, rfl⟩ := List.mem_map.mp hv
  exact .text t

end Grouping

section Printed

open Json

variable {base indent after : Text}

/-- **The groups of a class list**, printed and moved to the right, are held by the text. -/
theorem holdsGrouping_pretty (s : Text) (hindent : Gap indent) (hbase : Gap base)
    (hafter : Gap after) :
    HoldsGrouping (afterNewlines base ((group s).toJson.pretty indent) ++ after) (group s) := by
  have hdistinct : ((group s).map (·.category)).Nodup :=
    (isPartition_groupTokens (tokenize s)).distinct
  constructor
  · rw [read?_afterNewlines_pretty (group s).exact_toJson hindent hbase hafter,
      Grouping.toJson_eq hdistinct]
  · have hnames := hdistinct.map Category.name_injective
    rwa [List.map_map] at hnames

end Printed

/-! ### The command -/

namespace Command

open Arguments

/-- **A command line asks for the groups** of some classes. -/
def AsksForGroups (arguments classes : List Text) : Prop :=
  ∃ p, parseLine arguments = .ok (.group, p) ∧ p.operands = some classes

section Group

variable {arguments classes : List Text} {top rest : List (Text × Reading)}

/-- Arguments of the command that are all operands are its classes, without the first separator. -/
theorem asksForGroups_of_operands (htop : programGrammar.readAll arguments = .ok top)
    (hrest : groupGrammar.readAll arguments = .ok rest) (hall : ∀ a ∈ rest, isOperand a = true)
    (hsome : rest.any (·.2 == .operand) = true) :
    AsksForGroups ("group".toList :: arguments) (operandsOf arguments) := by
  have hparse : groupGrammar.parseKnown arguments
      = .ok { operands := some (operandsOf arguments) } := by
    cases rest with
    | nil => exact absurd hsome (by simp)
    | cons first rest =>
      have hact := act_cons_of_row (g := groupGrammar) (hall first List.mem_cons_self)
        (fun a ha => hall a (List.mem_cons_of_mem first ha)) hsome (by nofun)
      rw [map_fst_readAll hrest] at hact
      exact parseKnown_eq hrest hact rfl
  exact ⟨{ operands := some (operandsOf arguments) }, parseLine_eq (by decide) htop hparse rfl, rfl⟩

/-- **Any classes** can be asked for behind the separator. -/
theorem asksForGroups_separator (h : classes ≠ []) :
    AsksForGroups ("group".toList :: "--".toList :: classes) classes := by
  -- only the first separator goes away, so a class may be a separator itself
  have hclasses : operandsOf ("--".toList :: classes) = classes := List.erase_cons_head ..
  have hasks := asksForGroups_of_operands (readAll_separator programGrammar classes)
    (readAll_separator groupGrammar classes) (by simp [isOperand])
    (by simpa using List.exists_mem_of_ne_nil classes h)
  rwa [hclasses] at hasks

/-- Classes that do not start with a hyphen need no separator. -/
theorem asksForGroups_plain (h : classes ≠ []) (hplain : ∀ c ∈ classes, c.head? ≠ some '-') :
    AsksForGroups ("group".toList :: classes) classes := by
  have hne : ∀ c ∈ classes, c ≠ "--".toList := by
    rintro c hc rfl
    exact hplain _ hc rfl
  have hclasses : operandsOf classes = classes :=
    List.erase_of_not_mem fun hmem => hne _ hmem rfl
  have hasks := asksForGroups_of_operands (readAll_of_plain programGrammar hplain)
    (readAll_of_plain groupGrammar hplain) (by simp [isOperand])
    (by simpa using List.exists_mem_of_ne_nil classes h)
  rwa [hclasses] at hasks

/-- Accepted arguments of the command have classes among them. -/
theorem exists_asksForGroups {p : Parsed} (h : parseLine arguments = .ok (.group, p)) :
    ∃ classes, AsksForGroups arguments classes := by
  -- without operands the classes would be missing
  suffices hmissing : groupGrammar.missing p = [] by
    cases hoperands : p.operands with
    | some classes => exact ⟨classes, p, h, hoperands⟩
    | none =>
      have hclasses : groupGrammar.missing p = ["classes".toList] := by
        unfold Grammar.missing
        rw [hoperands]
        rfl
      exact absurd (hclasses.symm.trans hmissing) (by simp)
  unfold parseLine at h
  obtain ⟨top, -, h⟩ := exists_of_bind_eq_ok h
  split at h
  · next name rest _ =>
    obtain ⟨q, hq, h⟩ := exists_of_bind_eq_ok h
    obtain ⟨-, -, h⟩ := exists_of_bind_eq_ok h
    obtain ⟨hgroup, rfl⟩ := Prod.mk.inj (Except.ok.inj h)
    rw [hgroup] at hq
    exact missing_of_parseKnown hq
  · exact absurd h (by nofun)

end Group

section Run

variable {arguments classes : List Text} {env env' : Environment} {definitions : Text}

theorem run_group (h : AsksForGroups arguments classes)
    (henv : env.withDefinitions definitions = .ok env') (input : Text) :
    run arguments env definitions input
      = (runGroup classes).afterWarnings (env.warnings definitions) := by
  obtain ⟨p, hline, hoperands⟩ := h
  unfold run
  rw [henv, hline]
  show (runGroup (p.operands.getD [])).afterWarnings _ = _
  rw [hoperands]
  rfl

end Run

end Command

/-! ### Both texts -/

open Json Command in
/-- **JSON output holds the grouping.** A class list rendered as a mapping under indentations that
JSON admits, and what the command `group` prints for a list of classes, are JSON for the groups. The
command has classes whenever its arguments are accepted, and it takes any. -/
theorem holdsGrouping_mapping :
    (∀ (o : Options) (s : Text), o.format = .mapping → Gap o.indent → Gap o.baseIndent →
      HoldsGrouping (render o.toStyle (group s)) (group s)) ∧
    (∀ arguments classes env env' definitions input, AsksForGroups arguments classes →
      Environment.withDefinitions env definitions = .ok env' →
        (run arguments env definitions input).status = 0 ∧
        (run arguments env definitions input).fault? = none ∧
        HoldsGrouping (run arguments env definitions input).output
          (group (Text.intercalate " " classes))) ∧
    (∀ arguments p, parseLine arguments = .ok (.group, p) →
      ∃ classes, AsksForGroups arguments classes) ∧
    (∀ classes, classes ≠ [] →
      AsksForGroups ("group".toList :: "--".toList :: classes) classes) ∧
    ∀ classes, classes ≠ [] → (∀ c ∈ classes, c.head? ≠ some '-') →
      AsksForGroups ("group".toList :: classes) classes := by
  refine ⟨?_, ?_, ?_, ?_, ?_⟩
  · intro o s hformat hindent hbase
    have hrender : render o.toStyle (group s)
        = afterNewlines o.baseIndent ((group s).toJson.pretty o.indent) := by
      rw [render, hformat]
    have hholds := holdsGrouping_pretty s hindent hbase gap_nil
    rwa [List.append_nil, ← hrender] at hholds
  · intro arguments classes env env' definitions input hasks henv
    rw [run_group hasks henv]
    refine ⟨rfl, rfl, ?_⟩
    -- the lines are not moved, and a newline follows the last one
    have hholds : HoldsGrouping (afterNewlines []
        ((group (Text.intercalate " " classes)).toJson.pretty "  ") ++ Text.newline)
        (group (Text.intercalate " " classes)) := holdsGrouping_pretty _ rfl gap_nil rfl
    rwa [afterNewlines_nil] at hholds
  · intro arguments p h
    exact exists_asksForGroups h
  · intro classes h
    exact asksForGroups_separator h
  · intro classes h hplain
    exact asksForGroups_plain h hplain

/-- Tokens with quotes, backslashes and a control character, under indentations by tabs. -/
theorem holdsGrouping_mapping_escapes :
    HoldsGrouping (render { format := .mapping, indent := "\t", baseIndent := " \t" }
      (group "mt-4 content-['\"'] \\flex p\x01")) (group "mt-4 content-['\"'] \\flex p\x01") ∧
    (Command.run ["group", "--", "-mt-4", "\"p-2\""] [] [] []).status = 0 ∧
    HoldsGrouping (Command.run ["group", "--", "-mt-4", "\"p-2\""] [] [] []).output
      (group "-mt-4 \"p-2\"") := by
  obtain ⟨hrender, hrun, -, hasks, -⟩ := holdsGrouping_mapping
  have henv : Environment.withDefinitions [] [] = .ok [] := Environment.withDefinitions_nil []
  obtain ⟨hstatus, -, hholds⟩ :=
    hrun _ _ _ _ [] [] (hasks ["-mt-4".toList, "\"p-2\"".toList] (by simp)) henv
  exact ⟨hrender { format := .mapping, indent := "\t", baseIndent := " \t" } _ rfl rfl rfl,
    hstatus, hholds⟩

end ClassGroups
