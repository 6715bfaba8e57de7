import ClassGroups.Options.Environment

/-!
# Files of definitions

A file of definitions fills in the variables that the environment leaves open. It is a list of
statements, most of them one line long:

* `NAME=value`, where the value ends with the line or before a comment, or stands in quotes and may
  then span lines; the word `export` may go before the name;
* `NAME` alone, which takes an earlier definition back;
* a comment, which starts with a number sign.

`statements` reads a file. What is no statement is passed over with a warning up to the end of its
line. In a value, the name of a variable between a dollar sign with a brace and a brace stands for
its value. Lines end with a newline, a carriage return or both, and a quoted value keeps the ends of
its lines. `Environment.withDefinitions` puts the definitions to use.
-/

namespace ClassGroups

/-- What a part of a file says. -/
inductive Statement where
  /-- Nothing: it is a comment or the white space at the end. -/
  | comment
  /-- A variable has a value, or has none. -/
  | definition (name : Text) (value : Option Text)
  /-- It cannot be read. -/
  | unreadable
deriving DecidableEq, Repr

namespace Statement

/-! ### Parts of a statement

Each reader takes the text that is left and returns what it read with the rest. One that fails
returns the text at which it did. -/

/-- Whether a character ends a line. -/
def isLineEnd (c : Char) : Bool := c == '\n' || c == '\r'

/-- The part of a text that stands on its first line. -/
def firstLine (s : Text) : Text := s.takeWhile (!isLineEnd ·)

/-- The text from the end of its first line on. -/
def fromLineEnd (s : Text) : Text := s.dropWhile (!isLineEnd ·)

/-- Whether a character separates the parts of a statement. -/
def isSeparator (c : Char) : Bool := isBlank c && !isLineEnd c

/-- The text after the separators at its start. -/
def skipSeparators (s : Text) : Text := s.dropWhile isSeparator

/-- The text after the word `export` and separators, if it starts with them. -/
def skipExport (s : Text) : Text :=
  match "export".toList.isPrefixOf? s with
  | some (c :: rest) => if isSeparator c then skipSeparators rest else s
  | _ => s

/-- Whether a character can stand in a name without quotes. -/
def isNameChar (c : Char) : Bool := c != '=' && c != '#' && !isBlank c

/-- The name at the start of a statement, if it is none of a comment. -/
def readName (s : Text) : Except Text (Option Text × Text) :=
  match s with
  | '#' :: _ => .ok (none, s)
  | '\'' :: t =>
    match Text.cutAt? '\'' t with
    | some (c :: name, rest) => .ok (some (c :: name), rest)
    | _ => .error s
  | _ =>
    match s.takeWhile isNameChar with
    | [] => .error s
    | name => .ok (some name, s.dropWhile isNameChar)

/-- The text before a closing quote and the text after it. A backslash goes together with the
character after it, which then closes nothing. -/
def quotedBody? (mark : Char) : Text → Option (Text × Text)
  | [] => none
  | [c] => if c = mark then some ([], []) else none
  | c :: d :: s =>
    if c = mark then some ([], d :: s)
    else if c = '\\' then (quotedBody? mark s).map fun (body, rest) => (c :: d :: body, rest)
    else (quotedBody? mark (d :: s)).map fun (body, rest) => (c :: body, rest)

/-- The characters that a backslash may precede between single quotes, with their meaning. -/
def singleEscapes : List (Char × Char) := [('\\', '\\'), ('\'', '\'')]

/-- The characters that a backslash may precede between double quotes, with their meaning. -/
def doubleEscapes : List (Char × Char) :=
  singleEscapes ++ [('"', '"'), ('a', '\x07'), ('b', '\x08'), ('f', '\x0c'), ('n', '\n'),
    ('r', '\r'), ('t', '\t'), ('v', '\x0b')]

/-- The text with its escapes replaced by what they mean. -/
def unescape (escapes : List (Char × Char)) : Text → Text
  | [] => []
  | [c] => [c]
  | c :: d :: s =>
    match if c = '\\' then escapes.lookup d else none with
    | some e => e :: unescape escapes s
    | none => c :: unescape escapes (d :: s)

/-- A value in quotes. -/
def readQuoted (mark : Char) (escapes : List (Char × Char)) (s : Text) :
    Except Text (Text × Text) :=
  match quotedBody? mark (s.drop 1) with
  | some (body, rest) => .ok (unescape escapes body, rest)
  | none => .error s

/-- The text before a number sign that follows white space. -/
def beforeComment : Text → Text
  | [] => []
  | c :: s =>
    if isBlank c ∧ (Text.trimLeft s).head? = some '#' then [] else c :: beforeComment s

/-- The value after an equals sign. Without quotes it is the rest of the line, without a comment and
the white space around it. -/
def readValue (s : Text) : Except Text (Text × Text) :=
  let t := skipSeparators s
  match t.head? with
  | some '\'' => readQuoted '\'' singleEscapes t
  | some '"' => readQuoted '"' doubleEscapes t
  | _ => .ok (Text.trim (beforeComment (firstLine s)), fromLineEnd s)

/-- The rest of a line that holds nothing but a comment, up to the next line. -/
def readEnd (s : Text) : Except Text Text :=
  let t := skipSeparators s
  let t := if t.head? = some '#' then fromLineEnd t else t
  match t with
  | [] => .ok []
  | '\r' :: '\n' :: rest => .ok rest
  | c :: rest => if isLineEnd c then .ok rest else .error t

/-- The statement at the start of a text, and what follows it. -/
def readWell (s : Text) : Except Text (Statement × Text) := do
  let (name, s) ← readName (skipExport s)
  let s := skipSeparators s
  let (value, s) ←
    match s with
    | '=' :: s => do
      let (value, s) ← readValue s
      pure (some value, s)
    | _ => pure (none, s)
  let rest ← readEnd s
  return (name.elim .comment (.definition · value), rest)

/-- What a text starts with and what follows it. White space before it belongs to it. What cannot be
read goes up to the end of its line, of which one character belongs to it. -/
def read (s : Text) : Statement × Text :=
  match Text.trimLeft s with
  | [] => (.comment, [])
  | t =>
    match readWell t with
    | .ok result => result
    | .error failed => (.unreadable, (fromLineEnd failed).drop 1)

end Statement

/-! ### Files -/

/-- The number of lines that end in a text. -/
def lineCount (s : Text) : Nat := Text.occurrences '\n' (Text.normalizeNewlines s)

/-- The statements from a line on, each with the line where the one before it ends. -/
def statementsFrom (line : Nat) (s : Text) : List (Nat × Statement) :=
  let (statement, rest) := Statement.read s
  let ended := line + lineCount (s.take (s.length - rest.length))
  (line, statement) :: if rest.length < s.length then statementsFrom ended rest else []
termination_by s.length

/-- The statements of a file. A mark of the byte order at its start is no part of them. -/
def statements (file : Text) : List (Nat × Statement) :=
  match file with
  | '\ufeff' :: s => statementsFrom 1 s
  | s => statementsFrom 1 s

/-- The warnings about a file: one for each part that cannot be read. -/
def definitionWarnings (file : Text) : List Text :=
  (statements file).filterMap fun (line, statement) =>
    if statement = .unreadable then
      some ("python-dotenv could not parse statement starting at line " ++ Text.ofNat line)
    else none

/-! ### Variables in values -/

/-- A variable in a value. -/
structure Placeholder where
  /-- Its name. -/
  name : Text
  /-- What stands for it if it has no value. -/
  fallback : Text := []
  /-- The number of characters that it takes up. -/
  length : Nat
deriving DecidableEq, Repr

/-- The variable after a dollar sign: its name in braces, behind which a default may stand after a
colon and a hyphen. -/
def placeholder? : Text → Option Placeholder
  | '{' :: s =>
    let name := s.takeWhile fun c => c != '}' && c != ':'
    match s.drop name.length with
    | '}' :: _ => some { name, length := name.length + 2 }
    | ':' :: '-' :: t =>
      (Text.cutAt? '}' t).map fun (fallback, _) =>
        { name, fallback, length := name.length + fallback.length + 4 }
    | _ => none
  | _ => none

/-- A value with what stands for its variables. -/
def expand (resolve : Placeholder → Text) : Text → Text
  | [] => []
  | c :: s =>
    match if c = '$' then placeholder? s else none with
    | some p => resolve p ++ expand resolve (s.drop p.length)
    | none => c :: expand resolve s
termination_by s => s.length

/-- The value of a variable: that of the environment, or else that of the last definition before it.
-/
def valueOf (env : Environment) (known : List (Text × Option Text)) (p : Placeholder) : Text :=
  match env.lookup p.name, known.lookup p.name with
  | some value, _ => value
  | none, some value => value.getD []
  | none, none => p.fallback

/-- The definitions of a list of statements, the last one first. -/
def definitionsOf (env : Environment) (l : List Statement) : List (Text × Option Text) :=
  l.foldl (fun known statement =>
    match statement with
    | .definition name value => (name, value.map (expand (valueOf env known))) :: known
    | _ => known) []

/-! ### Use -/

/-- Why a variable cannot be set. -/
inductive VariableError where
  /-- Its name holds an equals sign. -/
  | equalsSign
  /-- Its name or its value holds the character zero. -/
  | zeroCharacter
deriving DecidableEq, Repr

/-- The reason in words. -/
def VariableError.message : VariableError → Text
  | equalsSign => "illegal environment variable name"
  | zeroCharacter => "embedded null byte"

/-- A variable with its value, provided that it can be set. -/
def settable (v : Text × Text) : Except VariableError (Text × Text) :=
  if '\x00' ∈ v.1 ∨ '\x00' ∈ v.2 then .error .zeroCharacter
  else if '=' ∈ v.1 then .error .equalsSign
  else .ok v

/-- Whether the environment rules out a file of definitions, which a variable of its own does. -/
def Environment.forbidsDefinitions (env : Environment) : Bool :=
  match env.lookup "PYTHON_DOTENV_DISABLED".toList with
  | some value => ["1", "true", "t", "yes", "y"].any (·.toList == Text.lower value)
  | none => false

/-- The file of definitions, or an empty one if the environment rules it out. -/
def Environment.allowed (env : Environment) (file : Text) : Text :=
  if env.forbidsDefinitions then [] else file

/-- The variables that a file of definitions adds to an environment, in the order of their first
definitions. The last definition of a variable counts, and variables that the environment has keep
their values. -/
def Environment.additions (env : Environment) (file : Text) : List (Text × Text) :=
  let known := definitionsOf env ((statements file).map (·.2))
  let names := ((known.map (·.1)).reverse.eraseDups).filter fun name => (env.lookup name).isNone
  names.filterMap fun name => ((known.lookup name).getD none).map (name, ·)

/-- The environment with the variables that a file of definitions adds, each of which must be one
that can be set. -/
def Environment.withDefinitions (env : Environment) (file : Text) :
    Except VariableError Environment := do
  let added ← (env.additions (env.allowed file)).mapM settable
  return env ++ added

/-- The warnings about a file of definitions that is read in an environment. -/
def Environment.warnings (env : Environment) (file : Text) : List Text :=
  definitionWarnings (env.allowed file)

end ClassGroups
