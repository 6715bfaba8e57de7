import ClassGroups.Arguments.Parser
import ClassGroups.Proofs.Results
import Mathlib.Data.List.TakeWhile

/-!
# Options in front of a command line

What a command line with an option in front asks for is what the rest of it asks for, with the
option put in: `parse_cons_of_flag` for a flag, which is an option without a value, and
`parseKnown_cons_of_option` for any option that brings its value along. For this the option is read
as itself whatever follows it, acts before everything else without using an argument up, and changes
no other option (`value?_put_of_ne`). If its value will not do, the arguments are refused whatever
follows (`parseKnown_cons_of_error`). A single option with its value behind it is read by
`parse_option_value`.

Of the values of options only some matter at a time. `value?_eq_of_filter_eq` and the lemmas after
it say that two command lines which agree on a selection of options answer every question about an
option of the selection alike.
-/

namespace ClassGroups.Arguments

/-! ### One option more -/

/-- The arguments with an option and its value put before all others. -/
def Parsed.put (p : Parsed) (option : Text) (v : Value) : Parsed :=
  { p with values := (option, v) :: p.values }

/-- The arguments with a flag given before all others. -/
def Parsed.give (p : Parsed) (flag : Text) : Parsed :=
  { p with values := (flag, .given) :: p.values }

namespace Parsed

variable (p : Parsed) {option flag name : Text} {v : Value}

/-- An option put in front has its value, unless it has another one. -/
theorem value?_put_self : (p.put option v).value? option = (p.value? option).or (some v) := by
  unfold value? put
  rw [List.reverse_cons, List.lookup_append]
  congr 1
  exact List.lookup_cons_self

theorem value?_put_of_ne (h : name ≠ option) : (p.put option v).value? name = p.value? name := by
  unfold value? put
  have hsingle : [(option, v)].lookup name = none := by
    rw [List.lookup_eq_none_iff]
    intro entry hentry
    obtain rfl := List.mem_singleton.mp hentry
    simpa using h
  rw [List.reverse_cons, List.lookup_append, hsingle, Option.or_none]

theorem has_put_of_ne (h : name ≠ option) : (p.put option v).has name = p.has name := by
  unfold has
  rw [value?_put_of_ne p h]

theorem has_put_self : (p.put option v).has option = true := by
  unfold has
  rw [value?_put_self]
  cases p.value? option <;> rfl

theorem has_give_self : (p.give flag).has flag = true := p.has_put_self

theorem has_give_of_ne (h : name ≠ flag) : (p.give flag).has name = p.has name :=
  p.has_put_of_ne h

end Parsed

/-! ### Reading and acting -/

section Act

variable {g : Grammar} {vacant : Bool} {flag : Text} {rest : List (Text × Reading)}

theorem valueOf_flag (g : Grammar) (flag : Text) (rest : List (Text × Reading)) :
    g.valueOf ⟨flag, .flag⟩ none rest = .ok (.given, 0) := rfl

/-- An option that uses no further argument up acts before what follows it. -/
theorem act_cons_of_option {argument : Text} {spec : OptionSpec} {attached : Option Text}
    {v : Value} (hvalue : g.valueOf spec attached rest = .ok (v, 0)) (vacant : Bool) :
    g.act vacant ((argument, .option spec attached) :: rest)
      = (g.act vacant rest).map (·.put spec.name v) := by
  rw [Grammar.act, hvalue]
  change (g.act vacant rest).bind _ = _
  cases g.act vacant rest with
  | error stop => rfl
  | ok p => rfl

/-- A flag acts before what follows it. -/
theorem act_cons_of_flag (g : Grammar) (vacant : Bool) (flag : Text)
    (rest : List (Text × Reading)) :
    g.act vacant ((flag, .option ⟨flag, .flag⟩ none) :: rest)
      = (g.act vacant rest).map (·.give flag) :=
  act_cons_of_option (valueOf_flag g flag rest) vacant

/-- The first row of operands is taken as a whole, without its first separator, if it fits and names
no command. -/
theorem act_cons_of_row {first : Text × Reading} (hfirst : isOperand first = true)
    (hall : ∀ a ∈ rest, isOperand a = true) (hfits : g.operands.fits (first :: rest) = true)
    (hcommand : ∀ name commands, g.operands ≠ .command name commands) :
    g.act true (first :: rest)
      = .ok { operands := some (operandsOf ((first :: rest).map (·.1))) } := by
  have htake : rest.takeWhile isOperand = rest := List.takeWhile_eq_self_iff.mpr hall
  -- `first` is neither unknown nor an option
  rw [Grammar.act.eq_5 _ _ _ _ (by rintro _ rfl; simp [isOperand] at hfirst)
    (by rintro _ _ _ rfl; simp [isOperand] at hfirst)
    (by rintro _ _ _ rfl; simp [isOperand] at hfirst), htake, Bool.true_and, if_pos hfits]
  split
  · next name commands heq => exact absurd heq (hcommand name commands)
  · rw [List.drop_length, Grammar.act]
    rfl

/-- Where a command is expected, the first operand names it and takes all other arguments. -/
theorem act_cons_of_command {name first : Text} {commands : List Text}
    (hcommand : g.operands = .command name commands) (hfirst : first ∈ commands) :
    g.act true ((first, .operand) :: rest)
      = .ok { operands := some (first :: rest.map (·.1)) } := by
  have hfits :
      (true && g.operands.fits ((first, .operand) :: rest.takeWhile isOperand)) = true := by
    rw [hcommand]
    rfl
  rw [Grammar.act.eq_5 _ _ _ _ (by rintro _ ⟨⟩) (by rintro _ _ _ ⟨⟩) (by rintro _ _ _ ⟨⟩),
    if_pos hfits, hcommand]
  exact if_pos hfirst

theorem readAll_cons {argument : Text} {reading : Reading} {arguments : List Text}
    (hne : argument ≠ "--".toList) (hread : g.read argument = .ok reading) :
    g.readAll (argument :: arguments)
      = (g.readAll arguments).map ((argument, reading) :: ·) := by
  rw [Grammar.readAll, if_neg hne, hread]
  change (g.readAll arguments).bind _ = _
  cases g.readAll arguments with
  | error e => rfl
  | ok readings => rfl

/-- Arguments that do not start with a hyphen are operands for every grammar. -/
theorem readAll_of_plain (g : Grammar) {arguments : List Text}
    (hplain : ∀ a ∈ arguments, a.head? ≠ some '-') :
    g.readAll arguments = .ok (arguments.map (·, .operand)) := by
  induction arguments with
  | nil => rfl
  | cons argument arguments ih =>
    have hhead : argument.head? ≠ some '-' := hplain argument List.mem_cons_self
    have hne : argument ≠ "--".toList := by
      rintro rfl
      exact hhead rfl
    have hread : g.read argument = .ok .operand := if_pos (.inl hhead)
    rw [readAll_cons hne hread, ih fun a ha => hplain a (List.mem_cons_of_mem argument ha)]
    rfl

/-- Behind the separator everything is an operand for every grammar. -/
theorem readAll_separator (g : Grammar) (arguments : List Text) :
    g.readAll ("--".toList :: arguments)
      = .ok (("--".toList, .separator) :: arguments.map (·, .operand)) := by
  rw [Grammar.readAll, if_pos rfl]

/-- Reading keeps every argument in its place. -/
theorem map_fst_readAll {arguments : List Text} {readings : List (Text × Reading)}
    (h : g.readAll arguments = .ok readings) : readings.map (·.1) = arguments := by
  induction arguments generalizing readings with
  | nil =>
    obtain rfl := Except.ok.inj h
    rfl
  | cons argument arguments ih =>
    by_cases hseparator : argument = "--".toList
    · -- behind the separator everything is an operand
      rw [Grammar.readAll, if_pos hseparator] at h
      obtain rfl := Except.ok.inj h
      rw [List.map_cons, List.map_map]
      exact congrArg (argument :: ·) (List.map_id arguments)
    · rw [Grammar.readAll, if_neg hseparator] at h
      obtain ⟨reading, -, h⟩ := exists_of_bind_eq_ok h
      obtain ⟨rest, hrest, h⟩ := exists_of_bind_eq_ok h
      obtain rfl := Except.ok.inj h
      rw [List.map_cons, ih hrest]

theorem parseKnown_eq {arguments : List Text} {p : Parsed}
    (hread : g.readAll arguments = .ok rest) (hact : g.act true rest = .ok p)
    (hmissing : g.missing p = []) : g.parseKnown arguments = .ok p := by
  unfold Grammar.parseKnown
  simp only [hread, Grammar.require, hact, hmissing, bind, Except.bind, pure, Except.pure]

theorem missing_of_parseKnown {arguments : List Text} {p : Parsed}
    (h : g.parseKnown arguments = .ok p) : g.missing p = [] := by
  obtain ⟨readings, -, h⟩ := exists_of_bind_eq_ok h
  obtain ⟨q, -, h⟩ := exists_of_bind_eq_ok h
  split at h
  · next hmissing =>
    obtain rfl := Except.ok.inj h
    exact hmissing
  · exact absurd h (by nofun)

end Act

/-! ### An option in front -/

section Front

variable {g : Grammar} {option argument : Text} {v : Value}

theorem missing_put (h : option ∉ g.required) (p : Parsed) :
    g.missing (p.put option v) = g.missing p := by
  unfold Grammar.missing
  have hfilter : g.required.filter (!(p.put option v).has ·) = g.required.filter (!p.has ·) := by
    refine List.filter_congr fun name hname => ?_
    -- a required option is another one than the one in front
    rw [p.has_put_of_ne]
    rintro rfl
    exact h hname
  rw [hfilter]
  rfl

/-- What is made of arguments once they have acted: nothing may be missing. -/
def Grammar.complete (g : Grammar) (p : Parsed) : Except Stop Parsed :=
  match g.missing p with
  | [] => .ok p
  | names => g.require (.error (.missing names))

theorem parseKnown_eq_bind (g : Grammar) (arguments : List Text) :
    g.parseKnown arguments
      = ((g.require (g.readAll arguments)).bind (g.act true)).bind g.complete := by
  unfold Grammar.parseKnown
  cases g.require (g.readAll arguments) with
  | error stop => rfl
  | ok readings =>
    show (g.act true readings).bind _ = (g.act true readings).bind _
    cases g.act true readings with
    | error stop => rfl
    | ok p => rfl

theorem complete_put (h : option ∉ g.required) (p : Parsed) :
    g.complete (p.put option v) = (g.complete p).map (·.put option v) := by
  unfold Grammar.complete
  rw [missing_put h]
  cases g.missing p with
  | nil => rfl
  | cons name names => rfl

variable {spec : OptionSpec} {attached : Option Text}

/-- **An option in front** that brings its value along is put in, and changes nothing else. -/
theorem parseKnown_cons_of_option (hne : argument ≠ "--".toList)
    (hread : g.read argument = .ok (.option spec attached))
    (hvalue : ∀ rest, g.valueOf spec attached rest = .ok (v, 0))
    (hrequired : spec.name ∉ g.required) (arguments : List Text) :
    g.parseKnown (argument :: arguments)
      = (g.parseKnown arguments).map (·.put spec.name v) := by
  rw [parseKnown_eq_bind, parseKnown_eq_bind, readAll_cons hne hread]
  cases g.readAll arguments with
  | error e => rfl
  | ok readings =>
    show (g.act true ((argument, .option spec attached) :: readings)).bind g.complete
      = ((g.act true readings).bind g.complete).map _
    rw [act_cons_of_option (hvalue readings)]
    cases g.act true readings with
    | error stop => rfl
    | ok p => exact complete_put hrequired p

/-- A value that will not do is found before anything acts that follows it. -/
theorem parseKnown_cons_of_error {e : UsageError} (hne : argument ≠ "--".toList)
    (hread : g.read argument = .ok (.option spec attached))
    (hvalue : ∀ rest, g.valueOf spec attached rest = .error (.usage g.program e))
    (arguments : List Text) :
    ∃ e', g.parseKnown (argument :: arguments) = .error (.usage g.program e') := by
  rw [parseKnown_eq_bind, readAll_cons hne hread]
  cases g.readAll arguments with
  | error e' => exact ⟨e', rfl⟩
  | ok readings =>
    refine ⟨e, ?_⟩
    show (g.act true ((argument, .option spec attached) :: readings)).bind g.complete = _
    rw [Grammar.act, hvalue]
    rfl

end Front

/-! ### A flag in front -/

section Flag

variable {g : Grammar} {flag : Text} {arguments : List Text}

/-- **A flag of a grammar**: it is read as itself, and nobody has to give it. -/
structure Grammar.HasFlag (g : Grammar) (flag : Text) : Prop where
  /-- It is not the separator. -/
  ne_separator : flag ≠ "--".toList
  /-- It is read as an option that takes nothing. -/
  read_eq : g.read flag = .ok (.option ⟨flag, .flag⟩ none)
  /-- It may be left out. -/
  notMem_required : flag ∉ g.required

/-- **A flag in front** of a command line is given, and changes nothing else. -/
theorem parse_cons_of_flag (h : g.HasFlag flag) :
    g.parse (flag :: arguments) = (g.parse arguments).map (·.give flag) := by
  have hfront := parseKnown_cons_of_option h.ne_separator h.read_eq (valueOf_flag g flag)
    h.notMem_required arguments
  unfold Grammar.parse
  rw [hfront]
  cases g.parseKnown arguments with
  | error stop => rfl
  | ok p =>
    -- the same arguments are unknown with the flag and without it
    show (g.refuseUnknown p.unknown).bind _ = ((g.refuseUnknown p.unknown).bind _).map _
    cases g.refuseUnknown p.unknown with
    | error stop => rfl
    | ok _ => rfl

end Flag

/-! ### An option with its value -/

/-- What is made of arguments once they have acted: nothing may be missing or unknown. -/
def Grammar.settle (g : Grammar) (p : Parsed) : Except Stop Parsed :=
  match g.missing p with
  | [] => (g.refuseUnknown p.unknown).map fun _ => p
  | names => g.require (.error (.missing names))

theorem parse_eq (g : Grammar) (arguments : List Text) :
    g.parse arguments = ((g.require (g.readAll arguments)).bind (g.act true)).bind g.settle := by
  unfold Grammar.parse
  rw [parseKnown_eq_bind]
  cases (g.require (g.readAll arguments)).bind (g.act true) with
  | error stop => rfl
  | ok p =>
    -- both sides look at what is missing, and only then at what is unknown
    show (g.complete p).bind _ = g.settle p
    unfold Grammar.complete Grammar.settle
    cases g.missing p with
    | nil => rfl
    | cons name names => rfl

/-- **An option and its value** alone are read as given, for a command that need not have
operands. -/
theorem parse_option_value {g : Grammar} {name value : Text} (hoperands : g.operands ≠ .many)
    (hname : name ≠ "--".toList)
    (hread : g.read name = .ok (.option ⟨name, .value .text⟩ none))
    (hvalue : value.head? ≠ some '-') :
    g.parse [name, value] = g.settle { values := [(name, .text value)] } := by
  have hne : value ≠ "--".toList := by
    rintro rfl
    exact hvalue rfl
  have hoperand : g.read value = .ok .operand := if_pos (.inl hvalue)
  have hreadings : g.readAll [name, value]
      = .ok [(name, .option ⟨name, .value .text⟩ none), (value, .operand)] := by
    rw [readAll_cons hname hread, readAll_cons hne hoperand]
    rfl
  have hvalueOf : g.valueOf ⟨name, .value .text⟩ none [(value, .operand)]
      = .ok (.text value, 1) := by
    show g.require (((ValueKind.text).convert name value).map (·, 1)) = _
    rw [ValueKind.convert, if_neg hne]
    rfl
  have hnothing : g.act true [] = .ok {} := by
    rw [Grammar.act, Bool.true_and, if_neg (by simpa using hoperands)]
  have hact : g.act true [(name, .option ⟨name, .value .text⟩ none), (value, .operand)]
      = .ok { values := [(name, .text value)] } := by
    rw [Grammar.act, hvalueOf]
    -- the value is used up
    show (g.act true []).bind _ = _
    rw [hnothing]
    rfl
  rw [parse_eq, hreadings]
  show (g.act true _).bind g.settle = _
  rw [hact]
  rfl

/-! ### Arguments without options -/

/-- Whether an argument is read as an option. -/
def Reading.isOption : Reading → Bool
  | option .. | cluster .. => true
  | _ => false

/-- **Without an option** among them, arguments act without a fault and give nothing a value. The
name of a command is excepted, which might be wrong. -/
theorem exists_act_of_noOption {g : Grammar}
    (hcommand : ∀ name commands, g.operands ≠ .command name commands)
    {readings : List (Text × Reading)} (h : ∀ a ∈ readings, a.2.isOption = false)
    (vacant : Bool) : ∃ p, g.act vacant readings = .ok p ∧ p.values = [] := by
  fun_induction Grammar.act g vacant readings
  case case1 => exact ⟨_, rfl, rfl⟩
  case case2 ih =>
    obtain ⟨p, hp, hvalues⟩ := ih fun a ha => h a (List.mem_cons_of_mem _ ha)
    rw [hp]
    exact ⟨_, rfl, hvalues⟩
  -- options are ruled out, and so are commands
  case case3 | case4 => exact absurd (h _ List.mem_cons_self) nofun
  case case5 | case6 => exact absurd ‹g.operands = _› (hcommand _ _)
  -- a row of operands is taken or left over, and what is behind it acts
  case case7 ih | case8 ih =>
    obtain ⟨p, hp, hvalues⟩ := ih fun a ha =>
      h a (List.mem_cons_of_mem _ (List.mem_of_mem_drop ha))
    rw [hp]
    exact ⟨_, rfl, hvalues⟩

/-! ### Options that matter -/

section Selection

variable {p q : Parsed} {matters : Text → Bool} {name : Text}

/-- A selection of the entries of a list of options keeps what the selected ones have as values. -/
theorem lookup_filter_of_pos {l : List (Text × Value)} (h : matters name = true) :
    (l.filter (matters ·.1)).lookup name = l.lookup name := by
  induction l with
  | nil => rfl
  | cons entry l ih =>
    obtain ⟨given, v⟩ := entry
    by_cases hgiven : matters given = true
    · rw [List.filter_cons, if_pos hgiven, List.lookup_cons, List.lookup_cons, ih]
    · -- an option that does not matter is another one than `name`
      have hne : (name == given) = false := by
        rw [beq_eq_false_iff_ne]
        rintro rfl
        exact hgiven h
      rw [List.filter_cons, if_neg hgiven, List.lookup_cons, hne, ih]

variable (heq : p.values.filter (matters ·.1) = q.values.filter (matters ·.1))
  (h : matters name = true)

include heq h

theorem value?_eq_of_filter_eq : p.value? name = q.value? name := by
  unfold Parsed.value?
  have hselect (r : Parsed) :
      r.values.reverse.lookup name = (r.values.filter (matters ·.1)).reverse.lookup name := by
    rw [← List.filter_reverse, lookup_filter_of_pos h]
  rw [hselect, hselect, heq]

theorem text?_eq_of_filter_eq : p.text? name = q.text? name := by
  unfold Parsed.text?
  rw [value?_eq_of_filter_eq heq h]

theorem has_eq_of_filter_eq : p.has name = q.has name := by
  unfold Parsed.has
  rw [value?_eq_of_filter_eq heq h]

theorem lacks_eq_of_filter_eq : p.lacks name = q.lacks name := by
  have hmem (r : Parsed) :
      r.lacks name = (r.values.filter (matters ·.1)).contains (name, .dropped) := by
    unfold Parsed.lacks
    rw [Bool.eq_iff_iff, List.contains_iff_mem, List.contains_iff_mem, List.mem_filter]
    exact ⟨fun hmem => ⟨hmem, h⟩, fun hmem => hmem.1⟩
  rw [hmem, hmem, heq]

theorem texts_eq_of_filter_eq : p.texts name = q.texts name := by
  have hselect (r : Parsed) :
      r.texts name = ({ r with values := r.values.filter (matters ·.1) } : Parsed).texts name := by
    unfold Parsed.texts
    rw [List.filterMap_filter]
    congr 1
    funext ⟨given, v⟩
    by_cases hgiven : matters given = true
    · exact (if_pos hgiven).symm
    · -- an option that does not matter is another one than `name`, so it adds no text
      have hne : given ≠ name := by
        rintro rfl
        exact hgiven h
      cases v <;> simp [hgiven, hne]
  rw [hselect p, hselect q, heq]
  rfl

end Selection

end ClassGroups.Arguments
