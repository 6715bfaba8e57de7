import ClassGroups.Arguments.Basic

/-!
# Reading a command line

The arguments are first read one by one: each is an option, an operand or the separator `--`, after
which everything is an operand. An option may be abbreviated as long as it fits no other one, and
may bring its value along after an equals sign. An argument that looks like a negative number, or
holds a space and fits no option, is an operand. Then the options act from left to right, and the
first row of operands that fits is taken as a whole; whatever is left over is unknown to the
command.
-/

namespace ClassGroups.Arguments

/-- What an argument is by itself. -/
inductive Reading where
  /-- An operand or the value of an option. -/
  | operand
  /-- The separator. -/
  | separator
  /-- An option in one of its spellings, with the value after its equals sign. -/
  | option (spec : OptionSpec) (value : Option Text)
  /-- A short option with further characters behind its letter. -/
  | cluster (spec : OptionSpec) (further : Text)
  /-- An option that the command does not have. -/
  | unknown
deriving DecidableEq, Repr

/-- Whether a text is a negative number: a hyphen and digits, with at most one point that has a
digit after it. A newline may follow. -/
def isNegativeNumber : Text → Bool
  | '-' :: s =>
    let s := if s.getLast? = some '\n' then s.dropLast else s
    let whole := s.takeWhile isDecimalDigit
    match s.drop whole.length with
    | [] => !whole.isEmpty
    | '.' :: fraction => !fraction.isEmpty && fraction.all isDecimalDigit
    | _ => false
  | _ => false

/-- The options that an argument may abbreviate: the part before an equals sign counts, and what
follows is the value. -/
def Grammar.abbreviated (g : Grammar) (argument : Text) : List (OptionSpec × Option Text) :=
  let (beginning, value) : Text × Option Text :=
    match Text.cutAt? '=' argument with
    | some (beginning, value) => (beginning, some value)
    | none => (argument, none)
  (g.spellings.filter (beginning.isPrefixOf ·.name)).map (·, value)

/-- What an argument may be that spells no option in full: after two hyphens an abbreviation, and
after a single one the letter of a short option. -/
def Grammar.guesses (g : Grammar) (argument : Text) : List Reading :=
  if "--".toList.isPrefixOf argument then
    (g.abbreviated argument).map fun (spec, value) => .option spec value
  else
    (g.spellings.filter (·.name == argument.take 2)).map (.cluster · (argument.drop 2))

/-- The option of a reading. -/
def Reading.name : Reading → Text
  | .option spec _ | .cluster spec _ => spec.name
  | _ => []

/-- The option that an argument spells in full, with the value after its equals sign. -/
def Grammar.spelled? (g : Grammar) (argument : Text) : Option (OptionSpec × Option Text) :=
  match g.spellings.find? (·.name == argument) with
  | some spec => some (spec, none)
  | none => do
    let (name, value) ← Text.cutAt? '=' argument
    let spec ← g.spellings.find? (·.name == name)
    return (spec, some value)

/-- What an argument before the separator is. -/
def Grammar.read (g : Grammar) (argument : Text) : Except UsageError Reading :=
  if argument.head? ≠ some '-' ∨ argument = ['-'] then .ok .operand
  else
    match g.spelled? argument with
    | some (spec, value) => .ok (.option spec value)
    | none =>
      match g.guesses argument with
      | [reading] => .ok reading
      | [] =>
        .ok (if isNegativeNumber argument ∨ ' ' ∈ argument then .operand else .unknown)
      | several => .error (.ambiguous argument (several.map (·.name)))

/-- What each argument is. -/
def Grammar.readAll (g : Grammar) : List Text → Except UsageError (List (Text × Reading))
  | [] => .ok []
  | argument :: rest =>
    if argument = "--".toList then
      .ok ((argument, .separator) :: rest.map (·, .operand))
    else do
      let reading ← g.read argument
      let readings ← g.readAll rest
      return (argument, reading) :: readings

/-- The value of an option as its kind wants it. The separator is taken away before anything is made
of it. -/
def ValueKind.convert (kind : ValueKind) (option raw : Text) : Except UsageError Value :=
  if raw = "--".toList then .ok .dropped
  else match kind with
  | .text => .ok (.text raw)
  | .integer =>
    match Text.toInt? raw with
    | some n => .ok (.integer n)
    | none => .error (.notInteger option raw)
  | .choice choices =>
    if raw ∈ choices then .ok (.text raw) else .error (.notChoice option raw choices)

/-- The names of an option in messages. -/
def OptionSpec.shownName (spec : OptionSpec) : Text :=
  match spec.kind with
  | .help => Text.intercalate "/" helpNames
  | _ => spec.name

/-- Why the option that asks for help stops the command when something is attached to it. To the
short one its letter may be attached again, any number of times. -/
def Grammar.stopAtHelp (g : Grammar) (spec : OptionSpec) (attached : Text) : Stop :=
  let letter := if "--".toList.isPrefixOf spec.name then [] else spec.name.drop 1
  let further := attached.dropWhile (· ∈ letter)
  if further.isEmpty && !attached.isEmpty then .help g.program
  else .usage g.program (.valueIgnored spec.shownName further)

/-- Whether an argument belongs to a row of operands. -/
def isOperand : Text × Reading → Bool
  | (_, .operand) | (_, .separator) => true
  | _ => false

/-- The operands of a row, from which the first separator is taken out. -/
def operandsOf (row : List Text) : List Text := row.erase "--".toList

/-- Whether a row of operands, of which the rest of the arguments is the continuation, fits. -/
def OperandKind.fits (kind : OperandKind) (row : List (Text × Reading)) : Bool :=
  match kind with
  | .absent => false
  | .many => true
  | .some _ | .command .. => row.any (·.2 == .operand)

/-- Lifts a fault to the end of the command. -/
def Grammar.require {α : Type} (g : Grammar) : Except UsageError α → Except Stop α
  | .ok a => .ok a
  | .error e => .error (.usage g.program e)

/-- The value of an option, which may have been attached to it, and the number of arguments after it
that it uses up. -/
def Grammar.valueOf (g : Grammar) (spec : OptionSpec) (attached : Option Text)
    (rest : List (Text × Reading)) : Except Stop (Value × Nat) :=
  match spec.kind, attached with
  | .help, none => .error (.help g.program)
  | .help, some raw => .error (g.stopAtHelp spec raw)
  | .flag, some raw => g.require (.error (.valueIgnored spec.shownName raw))
  | .flag, none => .ok (.given, 0)
  | .value kind, some raw => g.require ((kind.convert spec.name raw).map (·, 0))
  | .value kind, none =>
    match rest with
    | (raw, .operand) :: _ => g.require ((kind.convert spec.name raw).map (·, 1))
    | _ => g.require (.error (.valueMissing spec.name))

/-- Lets the arguments act from left to right. Operands are taken while `vacant`, that is until a
first row of them has been taken. -/
def Grammar.act (g : Grammar) (vacant : Bool) :
    List (Text × Reading) → Except Stop Parsed
  | [] => .ok { operands := if vacant && g.operands == .many then some [] else none }
  | (argument, .unknown) :: rest => do
    let p ← g.act vacant rest
    return { p with unknown := argument :: p.unknown }
  | (_, .cluster spec further) :: _ => .error (g.stopAtHelp spec further)
  | (_, .option spec attached) :: rest => do
    let (v, used) ← g.valueOf spec attached rest
    let p ← g.act vacant (rest.drop used)
    return { p with values := (spec.name, v) :: p.values }
  | first :: rest =>
    let tail := rest.takeWhile isOperand
    let row := first :: tail
    if vacant && g.operands.fits row then
      match g.operands with
      | .command name commands =>
        if first.1 ∈ commands then .ok { operands := some (first.1 :: rest.map (·.1)) }
        else g.require (.error (.notChoice name first.1 commands))
      | _ => do
        let p ← g.act false (rest.drop tail.length)
        return { p with operands := some (operandsOf (row.map (·.1))) }
    else do
      let p ← g.act vacant (rest.drop tail.length)
      return { p with unknown := row.map (·.1) ++ p.unknown }
termination_by l => l.length

/-- What the command needs and was not given. -/
def Grammar.missing (g : Grammar) (p : Parsed) : List Text :=
  g.required.filter (!p.has ·)
    ++ match g.operands, p.operands with
      | .some name, none | .command name _, none => [name]
      | _, _ => []

/-- What the arguments of a command are. Unknown arguments are listed and not yet refused. -/
def Grammar.parseKnown (g : Grammar) (arguments : List Text) : Except Stop Parsed := do
  let readings ← g.require (g.readAll arguments)
  let p ← g.act true readings
  match g.missing p with
  | [] => return p
  | names => g.require (.error (.missing names))

/-- Refuses unknown arguments. -/
def Grammar.refuseUnknown (g : Grammar) (unknown : List Text) : Except Stop Unit :=
  match unknown with
  | [] => .ok ()
  | arguments => g.require (.error (.unrecognized arguments))

/-- What the arguments of a command are, none of which may be unknown. -/
def Grammar.parse (g : Grammar) (arguments : List Text) : Except Stop Parsed := do
  let p ← g.parseKnown arguments
  g.refuseUnknown p.unknown
  return p

end ClassGroups.Arguments
