import ClassGroups.Command.Line
import ClassGroups.Proofs.Arguments

/-!
# Command lines

The program itself knows no options. It sees the name of a command and leaves what is behind it to
the command (`parseKnown_program`), so a command line is read as its command reads the rest
(`parseLine_cons`, and `parseLine_eq` where nothing is unknown). Only an argument of which the
program cannot even tell whether it is an option is refused before (`parseLine_of_error`). A run of
`format` is then a matter of the options (`run_format`).
-/

namespace ClassGroups.Command

open Arguments

variable {name : Text} {arguments : List Text} {top : List (Text × Reading)} {p : Parsed}

theorem plain_of_mem_commandNames (hname : name ∈ commandNames) :
    name ≠ "--".toList ∧ name.head? ≠ some '-' := by
  have hall : ∀ n ∈ commandNames, n ≠ "--".toList ∧ n.head? ≠ some '-' := by decide
  exact hall name hname

theorem read_commandName (hname : name ∈ commandNames) :
    programGrammar.read name = .ok .operand :=
  if_pos (.inl (plain_of_mem_commandNames hname).2)

theorem readAll_program (hname : name ∈ commandNames)
    (htop : programGrammar.readAll arguments = .ok top) :
    programGrammar.readAll (name :: arguments) = .ok ((name, .operand) :: top) := by
  rw [readAll_cons (plain_of_mem_commandNames hname).1 (read_commandName hname), htop]
  rfl

/-- Whatever is behind the name of a command is left to the command. -/
theorem parseKnown_program (hname : name ∈ commandNames)
    (htop : programGrammar.readAll arguments = .ok top) :
    programGrammar.parseKnown (name :: arguments)
      = .ok { operands := some (name :: arguments) } := by
  have hact : programGrammar.act true ((name, .operand) :: top)
      = .ok { operands := some (name :: arguments) } := by
    rw [act_cons_of_command rfl hname, map_fst_readAll htop]
  exact parseKnown_eq (readAll_program hname htop) hact rfl

/-- **A command line is read by its command**, and what this does not know is refused. -/
theorem parseLine_cons (hname : name ∈ commandNames)
    (htop : programGrammar.readAll arguments = .ok top) :
    parseLine (name :: arguments)
      = ((Chosen.ofName name).grammar.parseKnown arguments).bind fun p =>
          (programGrammar.refuseUnknown p.unknown).map fun _ => (Chosen.ofName name, p) := by
  unfold parseLine
  rw [parseKnown_program hname htop]
  rfl

/-- A command line is read as its command reads it, if this knows all that is behind its name. -/
theorem parseLine_eq (hname : name ∈ commandNames)
    (htop : programGrammar.readAll arguments = .ok top)
    (hbelow : (Chosen.ofName name).grammar.parseKnown arguments = .ok p)
    (hknown : p.unknown = []) :
    parseLine (name :: arguments) = .ok (Chosen.ofName name, p) := by
  rw [parseLine_cons hname htop, hbelow]
  show (programGrammar.refuseUnknown p.unknown).map _ = _
  rw [hknown]
  rfl

/-- An argument that the program cannot read is refused whatever the command makes of it. -/
theorem parseLine_of_error {e : UsageError} (hname : name ∈ commandNames)
    (htop : programGrammar.readAll arguments = .error e) :
    parseLine (name :: arguments) = .error (.usage programGrammar.program e) := by
  have hread : programGrammar.readAll (name :: arguments) = .error e := by
    rw [readAll_cons (plain_of_mem_commandNames hname).1 (read_commandName hname), htop]
    rfl
  unfold parseLine
  rw [parseKnown_eq_bind, hread]
  rfl

/-- **A run of `format`** under the options that the environment and the command line describe. -/
theorem run_format {env env' : Environment} {definitions : Text} {o : Options}
    (henv : env.withDefinitions definitions = .ok env')
    (hline : parseLine arguments = .ok (.format, p))
    (hoptions : optionsOf env' p renderFields = .ok o) (input : Text) :
    run arguments env definitions input
      = (runFormat o p (Text.normalizeNewlines input)).afterWarnings
          (env.warnings definitions) := by
  simp only [run, henv, hline, Chosen.run, hoptions]

end ClassGroups.Command
