import ClassGroups.Proofs.Choices
import ClassGroups.Proofs.CommandLine

/-!
# Runs with an option or with its variable

A field of the options is set by an option on the command line or by a variable of the environment.
For the threshold, the indentation and the headings it does not matter by which: `flag_or_variable`.

The two ways part early. A text behind an option is an error of usage if it will not do, found when
the arguments are read and before anything else is known; the text of a variable is read long after
that. So a run is followed from both ends. The argument in front is read on its own (`Gives`) and
leaves the rest of the command line as it is, the variable leaves everything alone that a file of
definitions adds, and what is left to compare are the options that both come to (`StandsFor`).
Wherever a run stops without any, it leaves the same status and has printed nothing
(`finish_alike`).
-/

namespace ClassGroups.Command

open Arguments

/-! ### Outcomes that differ in the report -/

/-- **Outcomes are alike** if they differ in what was reported, if at all. -/
structure Outcome.Alike (a b : Outcome) : Prop where
  /-- The exit status is the same. -/
  status_eq : a.status = b.status
  /-- The same was printed. -/
  output_eq : a.output = b.output
  /-- The same fault broke both off, or none. -/
  fault?_eq : a.fault? = b.fault?

namespace Outcome

variable {a b c : Outcome}

theorem Alike.refl (a : Outcome) : a.Alike a := ⟨rfl, rfl, rfl⟩

theorem Alike.symm (h : a.Alike b) : b.Alike a :=
  ⟨h.status_eq.symm, h.output_eq.symm, h.fault?_eq.symm⟩

theorem Alike.trans (h : a.Alike b) (h' : b.Alike c) : a.Alike c :=
  ⟨h.status_eq.trans h'.status_eq, h.output_eq.trans h'.output_eq,
    h.fault?_eq.trans h'.fault?_eq⟩

theorem afterWarnings_alike (a : Outcome) (warnings : List Text) :
    (a.afterWarnings warnings).Alike a := ⟨rfl, rfl, rfl⟩

/-- Two refusals are alike, whether it is the arguments or the options that are refused. -/
def refusal : Outcome := { status := 2 }

theorem ofUsage_alike (program : Text) (e : UsageError) :
    (ofStop (.usage program e)).Alike refusal := ⟨rfl, rfl, rfl⟩

theorem ofSettingsError_alike (e : SettingsError) : (ofSettingsError e).Alike refusal :=
  ⟨rfl, rfl, rfl⟩

end Outcome

/-! ### Arguments that leave an option open -/

/-- **Arguments leave an option open** if they neither give it nor ask for help. -/
def LeavesOpen (option : Text) (arguments : List Text) : Prop :=
  (∀ program, formatGrammar.parseKnown arguments ≠ .error (.help program)) ∧
    ∀ p, formatGrammar.parseKnown arguments = .ok p → p.has option = false

section Open

variable {option : Text} {arguments : List Text} {readings : List (Text × Reading)}

theorem leavesOpen_of_noOption (hread : formatGrammar.readAll arguments = .ok readings)
    (h : ∀ a ∈ readings, a.2.isOption = false) : LeavesOpen option arguments := by
  obtain ⟨p, hact, hvalues⟩ := exists_act_of_noOption (g := formatGrammar) nofun h true
  have hparse : formatGrammar.parseKnown arguments = .ok p := parseKnown_eq hread hact rfl
  unfold LeavesOpen
  rw [hparse]
  constructor
  · nofun
  · intro q hq
    obtain rfl := Except.ok.inj hq
    unfold Parsed.has Parsed.value?
    rw [hvalues]
    rfl

/-- Class lists that do not start with a hyphen leave every option open. -/
theorem leavesOpen_of_plain (hplain : ∀ a ∈ arguments, a.head? ≠ some '-') :
    LeavesOpen option arguments := by
  apply leavesOpen_of_noOption (readAll_of_plain formatGrammar hplain)
  intro a ha
  obtain ⟨_, -, rfl⟩ := List.mem_map.mp ha
  rfl

/-- Behind the separator, class lists may look like options. -/
theorem leavesOpen_separator (option : Text) (arguments : List Text) :
    LeavesOpen option ("--".toList :: arguments) := by
  apply leavesOpen_of_noOption (readAll_separator formatGrammar arguments)
  intro a ha
  rcases List.mem_cons.mp ha with rfl | ha
  · rfl
  · obtain ⟨_, -, rfl⟩ := List.mem_map.mp ha
    rfl

end Open

/-! ### An argument that gives an option its value -/

/-- **An argument gives an option a value**, or one that will not do: it is read as the option
whatever follows it, and uses nothing of that up. -/
structure Gives (argument option : Text) (value : Except UsageError Value) : Prop where
  /-- The argument is not the separator. -/
  ne_separator : argument ≠ "--".toList
  /-- The program leaves it to the command. -/
  passed : ∃ reading, programGrammar.read argument = .ok reading
  /-- The command reads it. -/
  read : ∃ spec attached, spec.name = option ∧
    formatGrammar.read argument = .ok (.option spec attached) ∧
    ∀ rest, formatGrammar.valueOf spec attached rest = formatGrammar.require (value.map (·, 0))

section Gives

variable {argument option : Text} {v : Value} {e : UsageError}

theorem Gives.parseKnown_cons (h : Gives argument option (.ok v)) (rest : List Text) :
    formatGrammar.parseKnown (argument :: rest)
      = (formatGrammar.parseKnown rest).map (·.put option v) := by
  obtain ⟨spec, attached, rfl, hread, hvalue⟩ := h.read
  exact parseKnown_cons_of_option h.ne_separator hread hvalue List.not_mem_nil rest

theorem Gives.exists_parseKnown_cons (h : Gives argument option (.error e)) (rest : List Text) :
    ∃ e', formatGrammar.parseKnown (argument :: rest)
      = .error (.usage formatGrammar.program e') := by
  obtain ⟨spec, attached, -, hread, hvalue⟩ := h.read
  exact parseKnown_cons_of_error h.ne_separator hread hvalue rest

end Gives

/-! ### Both runs -/

section Run

variable {env env' full full' : Environment} {p : Parsed} {definitions input : Text}
  {name text argument option : Text} {value : Except UsageError Value} {v : Value}
  {rest : List Text}

/-- What a run does once the arguments are read. -/
def finish (line : Except Stop (Chosen × Parsed)) (env : Environment) (input : Text) : Outcome :=
  match line with
  | .error stop => .ofStop stop
  | .ok (chosen, p) => chosen.run p env input

theorem run_alike_finish (henv : env.withDefinitions definitions = .ok full)
    (arguments : List Text) (input : Text) :
    (run arguments env definitions input).Alike
      (finish (parseLine arguments) full (Text.normalizeNewlines input)) := by
  unfold run
  rw [henv]
  cases parseLine arguments with
  | error stop => exact .refl _
  | ok line => exact Outcome.afterWarnings_alike _ _

/-- An option that is neither of the two that `format` itself looks at changes nothing of what it
does under given options. -/
theorem runFormat_put (hcheck : "--check".toList ≠ option) (hverbose : "--verbose".toList ≠ option)
    (o : Options) : runFormat o (p.put option v) input = runFormat o p input := by
  unfold runFormat formatLog
  rw [p.has_put_of_ne hcheck, p.has_put_of_ne hverbose]
  rfl

/-- Where there are no options, `format` is refused. -/
theorem format_refused (h : ∀ o, optionsOf env p renderFields ≠ .ok o) (input : Text) :
    (Chosen.format.run p env input).Alike .refusal := by
  cases hoptions : optionsOf env p renderFields with
  | error e =>
    have hrun : Chosen.format.run p env input = .ofSettingsError e := by
      simp only [Chosen.run, hoptions]
    rw [hrun]
    exact Outcome.ofSettingsError_alike e
  | ok o => exact absurd hoptions (h o)

theorem format_run_eq {o : Options} (h : optionsOf env p renderFields = .ok o) (input : Text) :
    Chosen.format.run p env input = runFormat o p input := by
  simp only [Chosen.run, h]

/-- **Two runs of `format`** that come to the same options are alike. -/
theorem format_alike (hcheck : "--check".toList ≠ option) (hverbose : "--verbose".toList ≠ option)
    (h : ∀ o, optionsOf env' p renderFields = .ok o
      ↔ optionsOf env (p.put option v) renderFields = .ok o) (input : Text) :
    (Chosen.format.run (p.put option v) env input).Alike (Chosen.format.run p env' input) := by
  cases hoptions : optionsOf env' p renderFields with
  | error e =>
    -- the reasons may differ, but they are only reported
    have hnone (o : Options) : optionsOf env' p renderFields ≠ .ok o := by
      rw [hoptions]
      nofun
    have hnone' (o : Options) : optionsOf env (p.put option v) renderFields ≠ .ok o :=
      fun heq => hnone o ((h o).mpr heq)
    exact (format_refused hnone' input).trans (format_refused hnone input).symm
  | ok o =>
    rw [format_run_eq hoptions, format_run_eq ((h o).mp hoptions), runFormat_put hcheck hverbose]
    exact .refl _

/-- A command line on which no help is asked for and that comes to no options is refused. -/
theorem finish_refused {top : List (Text × Reading)} (htop : programGrammar.readAll rest = .ok top)
    (hopen : LeavesOpen option rest)
    (h : ∀ p, formatGrammar.parseKnown rest = .ok p → ∀ o, optionsOf env p renderFields ≠ .ok o) :
    (finish (parseLine ("format".toList :: rest)) env input).Alike .refusal := by
  rw [parseLine_cons (by decide) htop]
  show (finish ((formatGrammar.parseKnown rest).bind _) env input).Alike .refusal
  cases hparse : formatGrammar.parseKnown rest with
  | error stop =>
    cases stop with
    | help program => exact absurd hparse (hopen.1 program)
    | usage program e => exact Outcome.ofUsage_alike program e
  | ok p =>
    show (finish ((programGrammar.refuseUnknown p.unknown).map _) env input).Alike .refusal
    unfold Grammar.refuseUnknown
    cases p.unknown with
    | nil => exact format_refused (h p hparse) input
    | cons a unknown => exact Outcome.ofUsage_alike _ _

/-- **Arguments with an option in front**, and without it under the variable: what is done with them
is alike. -/
theorem finish_alike (hgives : Gives argument option value)
    (hstands : StandsFor name text option value)
    (hcheck : "--check".toList ≠ option) (hverbose : "--verbose".toList ≠ option)
    (hopen : LeavesOpen option rest) (hsets : Environment.Sets name text env env')
    (input : Text) :
    (finish (parseLine ("format".toList :: argument :: rest)) env input).Alike
      (finish (parseLine ("format".toList :: rest)) env' input) := by
  obtain ⟨reading, hreading⟩ := hgives.passed
  have hprogram : programGrammar.readAll (argument :: rest)
      = (programGrammar.readAll rest).map ((argument, reading) :: ·) :=
    readAll_cons hgives.ne_separator hreading
  cases htop : programGrammar.readAll rest with
  | error e =>
    -- the program itself refuses both
    rw [htop] at hprogram
    rw [parseLine_of_error (by decide) hprogram, parseLine_of_error (by decide) htop]
    exact .refl _
  | ok top =>
    rw [htop] at hprogram
    rw [parseLine_cons (by decide) hprogram]
    show (finish ((formatGrammar.parseKnown (argument :: rest)).bind _) env input).Alike _
    cases value with
    | error e =>
      -- the value of the option is refused, and the variable leads to no options
      obtain ⟨e', hparse⟩ := hgives.exists_parseKnown_cons rest
      rw [hparse]
      refine (Outcome.ofUsage_alike _ e').trans (Outcome.Alike.symm ?_)
      apply finish_refused htop hopen
      intro p hp o hoptions
      obtain ⟨v, hv, -⟩ := (hstands env env' p o hsets (hopen.2 p hp)).mp hoptions
      cases hv
    | ok v =>
      rw [hgives.parseKnown_cons, parseLine_cons (by decide) htop]
      show (finish (((formatGrammar.parseKnown rest).map _).bind _) env input).Alike
        (finish ((formatGrammar.parseKnown rest).bind _) env' input)
      cases hparse : formatGrammar.parseKnown rest with
      | error stop => exact .refl _
      | ok p =>
        -- the same arguments are unknown with the option and without it
        show (finish ((programGrammar.refuseUnknown p.unknown).map _) env input).Alike
          (finish ((programGrammar.refuseUnknown p.unknown).map _) env' input)
        cases programGrammar.refuseUnknown p.unknown with
        | error stop => exact .refl _
        | ok _ =>
          apply format_alike hcheck hverbose
          intro o
          have hiff := hstands env env' p o hsets (hopen.2 p hparse)
          simpa using hiff

end Run

/-! ### The main result -/

/-- **An argument and a variable make the same choice**: the argument gives the option its value,
and the variable has the text. -/
inductive SameChoice : (argument option name text : Text) → Prop where
  /-- The threshold is a text. -/
  | threshold (t : Text) :
    SameChoice ("--min-tokens=".toList ++ t) "--min-tokens" "TW_GROUP_MIN_TOKENS" t
  /-- The indentation is a text. -/
  | indent (t : Text) : SameChoice ("--indent=".toList ++ t) "--indent" "TW_GROUP_INDENT" t
  /-- There are no headings. -/
  | comments :
    SameChoice "--no-comments" "--no-comments" "TW_GROUP_INCLUDE_COMMENTS" "false"

section Choice

variable {argument option name text : Text}

theorem SameChoice.exists_value (h : SameChoice argument option name text) :
    ∃ value, Gives argument option value ∧ StandsFor name text option value := by
  cases h with
  | threshold =>
    have hread : formatGrammar.read ("--min-tokens=".toList ++ text)
        = .ok (.option ⟨"--min-tokens", .value .integer⟩ (some text)) := rfl
    exact ⟨ValueKind.integer.convert "--min-tokens" text,
      ⟨by rintro ⟨⟩, ⟨_, rfl⟩, _, _, rfl, hread, fun _ => rfl⟩, standsFor_threshold text⟩
  | indent =>
    have hread : formatGrammar.read ("--indent=".toList ++ text)
        = .ok (.option ⟨"--indent", .value .text⟩ (some text)) := rfl
    exact ⟨ValueKind.text.convert "--indent" text,
      ⟨by rintro ⟨⟩, ⟨_, rfl⟩, _, _, rfl, hread, fun _ => rfl⟩, standsFor_indent text⟩
  | comments =>
    have hread : formatGrammar.read "--no-comments"
        = .ok (.option ⟨"--no-comments", .flag⟩ none) := rfl
    exact ⟨.ok .given, ⟨by decide, ⟨_, rfl⟩, _, _, rfl, hread, fun _ => rfl⟩, standsFor_comments⟩

/-- None of the options is one that `format` looks at by itself, and none of the variables decides
about the file of definitions. -/
theorem SameChoice.apart (h : SameChoice argument option name text) :
    "--check".toList ≠ option ∧ "--verbose".toList ≠ option ∧
      name ≠ "PYTHON_DOTENV_DISABLED".toList := by
  cases h <;> decide

end Choice

/-- **A flag and its variable are interchangeable.** Let an environment lack a variable that stands
for an option, and another one set it to a text and agree otherwise. Then `format` with the option
in front and without the variable leaves the same exit status, the same output and the same fault as
without the option and with the variable, whatever the text is and whatever else is on the command
line, in the environment, in the file of definitions and in the input.

It is supposed that the rest of the command line leaves the option open, as class lists do: help
that is asked for would be given in place of a complaint about the variable, and an option that is
given again would hide it. And it is supposed that the file of definitions leaves the variable
alone, as an empty one does, for otherwise the environment that lacks it would not lack it for
long. -/
theorem flag_or_variable :
    (∀ option classes, (∀ c ∈ classes, c.head? ≠ some '-') → LeavesOpen option classes) ∧
    (∀ option classes, LeavesOpen option ("--".toList :: classes)) ∧
    (∀ option arguments readings, formatGrammar.readAll arguments = .ok readings →
      (∀ a ∈ readings, a.2.isOption = false) → LeavesOpen option arguments) ∧
    (∀ name, LeavesAlone name []) ∧
    ∀ argument option name text, SameChoice argument option name text →
      ∀ env env' definitions rest, Environment.Sets name text env env' →
        LeavesAlone name (env.allowed definitions) → LeavesOpen option rest → ∀ input,
          (run ("format".toList :: argument :: rest) env definitions input).Alike
            (run ("format".toList :: rest) env' definitions input) := by
  refine ⟨?_, ?_, ?_, ?_, ?_⟩
  · intro option classes hplain
    exact leavesOpen_of_plain hplain
  · intro option classes
    exact leavesOpen_separator option classes
  · intro option arguments readings hread hnone
    exact leavesOpen_of_noOption hread hnone
  · intro name
    exact leavesAlone_nil name
  · intro argument option name text hchoice env env' definitions rest hsets halone hopen input
    obtain ⟨value, hgives, hstands⟩ := hchoice.exists_value
    obtain ⟨hcheck, hverbose, hname⟩ := hchoice.apart
    rcases hsets.withDefinitions hname halone with
      ⟨e, hfile, hfile'⟩ | ⟨full, full', hfile, hfile', hfull⟩
    · -- a variable of the file cannot be set, and both runs break off
      unfold run
      rw [hfile, hfile']
      exact ⟨rfl, rfl, rfl⟩
    · have hfront := run_alike_finish hfile ("format".toList :: argument :: rest) input
      have hrest := run_alike_finish hfile' ("format".toList :: rest) input
      have hboth := finish_alike hgives hstands hcheck hverbose hopen hfull
        (Text.normalizeNewlines input)
      exact (hfront.trans hboth).trans hrest.symm

/-- An environment that chooses a format and rules files of definitions out. -/
def arrayEnvironment : Environment :=
  [("PYTHON_DOTENV_DISABLED", "Yes"), ("TW_GROUP_FORMAT", "array")]

/-- A signed numeral of another script between blanks, for class lists one of which starts with a
hyphen; the file that would define the variable is ruled out. -/
theorem flag_or_variable_arabicNumeral :
    SameChoice "--min-tokens= +١_٢\t" "--min-tokens" "TW_GROUP_MIN_TOKENS" " +١_٢\t" ∧
    Environment.Sets "TW_GROUP_MIN_TOKENS" " +١_٢\t" arrayEnvironment
      (("TW_GROUP_MIN_TOKENS", " +١_٢\t") :: arrayEnvironment) ∧
    LeavesAlone "TW_GROUP_MIN_TOKENS" (arrayEnvironment.allowed "TW_GROUP_MIN_TOKENS=many") ∧
    LeavesOpen "--min-tokens" ["--", "-mt-4 flex", "p-2"] ∧
    (run ["format", "--min-tokens= +١_٢\t", "--", "-mt-4 flex", "p-2"] arrayEnvironment
        "TW_GROUP_MIN_TOKENS=many" []).Alike
      (run ["format", "--", "-mt-4 flex", "p-2"]
        (("TW_GROUP_MIN_TOKENS", " +١_٢\t") :: arrayEnvironment) "TW_GROUP_MIN_TOKENS=many" []) := by
  obtain ⟨-, hseparator, -, hempty, hrun⟩ := flag_or_variable
  have hchoice :
      SameChoice "--min-tokens= +١_٢\t" "--min-tokens" "TW_GROUP_MIN_TOKENS" " +١_٢\t" :=
    .threshold " +١_٢\t"
  have hsets : Environment.Sets "TW_GROUP_MIN_TOKENS" " +١_٢\t" arrayEnvironment
      (("TW_GROUP_MIN_TOKENS", " +١_٢\t") :: arrayEnvironment) :=
    Environment.sets_cons rfl " +١_٢\t"
  have hfile : arrayEnvironment.allowed "TW_GROUP_MIN_TOKENS=many" = [] := rfl
  have halone : LeavesAlone "TW_GROUP_MIN_TOKENS"
      (arrayEnvironment.allowed "TW_GROUP_MIN_TOKENS=many") := by
    rw [hfile]
    exact hempty _
  have hopen := hseparator "--min-tokens" ["-mt-4 flex".toList, "p-2".toList]
  exact ⟨hchoice, hsets, halone, hopen, hrun _ _ _ _ hchoice _ _ _ _ hsets halone hopen []⟩

end ClassGroups.Command
