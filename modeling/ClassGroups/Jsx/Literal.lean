import ClassGroups.Jsx.Tag
import ClassGroups.Category.Matcher

/-!
# Class lists in a source

A class list stands in a JSX attribute in one of two shapes:

* as the value of the attribute, `class="mt-4 flex"`, where nothing is escaped and the value may
  span lines;
* as the only argument of a class helper, `class={clsx("mt-4 flex")}`, where a backslash makes the
  next character stand for itself.

`literals` finds both in the order of the source. A helper with several arguments is not found, so
the output of a fix is not taken for its input.
-/

namespace ClassGroups.Jsx

/-- The shape in which a class list stands. -/
inductive LiteralKind where
  /-- The value of an attribute. -/
  | attributeValue
  /-- The only argument of a class helper. -/
  | helperCall
deriving DecidableEq, Repr

/-- A class list in a source. -/
structure ClassLiteral where
  /-- The shape. -/
  kind : LiteralKind
  /-- The place where the part to be replaced starts. -/
  start : Nat
  /-- The place where the part to be replaced ends. -/
  stop : Nat
  /-- The class list. -/
  value : Text
deriving DecidableEq, Repr

/-- A class list that was found after the name of an attribute. All places count from the name. -/
structure Occurrence where
  /-- The place where the part to be replaced starts. -/
  start : Nat
  /-- The place where the part to be replaced ends. -/
  stop : Nat
  /-- The length of everything that belongs to the shape. -/
  length : Nat
  /-- The class list. -/
  value : Text
deriving DecidableEq, Repr

/-- The text after the name of an attribute, its equals sign and white space around it. -/
def afterEquals? (name s : Text) : Option Text := do
  let s ← Text.after? name s
  let s ← Text.after? ['='] (Text.trimLeft s)
  return Text.trimLeft s

/-- A string without escapes at the start of a text, and what follows it. -/
def plainString? : Text → Option (Text × Text)
  | [] => none
  | c :: s => if c = '"' ∨ c = '\'' then Text.cutAt? c s else none

/-- The content of a string up to its closing quote, and what follows it. The content keeps its
escapes and holds no newline. -/
def escapedBody? (mark : Char) : Text → Option (Text × Text)
  | [] => none
  | [c] => if c = mark then some ([], []) else none
  | c :: d :: s =>
    if c = mark then some ([], d :: s)
    else if c = '\n' then none
    else if c = '\\' then
      if d = '\n' then none else (escapedBody? mark s).map fun (b, r) => (c :: d :: b, r)
    else (escapedBody? mark (d :: s)).map fun (b, r) => (c :: b, r)

/-- A string with escapes at the start of a text, and what follows it. -/
def escapedString? : Text → Option (Text × Text)
  | [] => none
  | c :: s => if c = '"' ∨ c = '\'' then escapedBody? c s else none

/-- The text without its backslashes, each of which makes the character after it stand for itself.
A backslash before a newline or at the end is kept. -/
def unescape : Text → Text
  | [] => []
  | [c] => [c]
  | c :: d :: s =>
    if c = '\\' ∧ d ≠ '\n' then d :: unescape s else c :: unescape (d :: s)

/-- The value of an attribute of a given name. -/
def attributeAt? (s name : Text) : Option Occurrence := do
  let literal ← afterEquals? name s
  let (value, rest) ← plainString? literal
  let stop := s.length - rest.length
  return ⟨s.length - literal.length, stop, stop, value⟩

/-- The texts that are left of a text after none, one or more of the blanks at its start have been
dropped, the shortest one first. -/
def afterBlanks : Text → List Text
  | [] => [[]]
  | c :: s => (if isBlank c then afterBlanks s else []) ++ [c :: s]

/-- A call at the start of a text of which a string is the only argument: the string without its
escapes, what follows the call, and what follows a brace behind it. -/
def callBody? (callee call : Text) : Option (Text × Text × Text) := do
  let argument ← Text.after? (callee ++ ['(']) call
  let (raw, rest) ← escapedString? (Text.trimLeft argument)
  let rest ← Text.after? [')'] (Text.trimLeft rest)
  let after ← Text.after? ['}'] (Text.trimLeft rest)
  return (unescape raw, rest, after)

/-- The only argument of a helper that is the value of an attribute of a given name. White space
before the call belongs to the name of the helper only as far as the name itself starts with it. -/
def callAt? (callee s name : Text) : Option Occurrence := do
  let opened ← Text.after? ['{'] (← afterEquals? name s)
  (afterBlanks opened).findSome? fun call => do
    let (value, rest, after) ← callBody? callee call
    return ⟨s.length - call.length, s.length - rest.length, s.length - after.length, value⟩

/-- The occurrences of a shape, each with the place of its name, from left to right and without
overlaps. A name counts only after white space. The walk is at `place`, next looks for a name at
`resume`, and knows whether the character before is white space. -/
def occurrencesFrom (shape : Text → Option Occurrence) (place resume : Nat) (afterBlank : Bool) :
    Text → List (Nat × Occurrence)
  | [] => []
  | c :: s =>
    match if afterBlank && resume ≤ place then shape (c :: s) else none with
    | some o =>
      (place, o) :: occurrencesFrom shape (place + 1) (place + o.length) (isBlank c) s
    | none => occurrencesFrom shape (place + 1) resume (isBlank c) s

/-- The class lists of one shape that stand in opening tags. -/
def literalsOf (kind : LiteralKind) (shape : Text → Option Occurrence) (source : Text) :
    List ClassLiteral :=
  ((occurrencesFrom shape 0 0 false source).filter fun (place, _) => inTag source place).map
    fun (place, o) => ⟨kind, place + o.start, place + o.stop, o.value⟩

/-- The attributes that hold class lists unless others are named. -/
def defaultAttributes : List Text := ["className", "class"]

/-- The class lists in attributes of the given names and in calls of the given helper there, in the
order of the source. Of several names the first one that leads to a class list counts, and no names
are as good as the empty name. -/
def literals (attributes : List Text) (callee source : Text) : List ClassLiteral :=
  let names := if attributes.isEmpty then [[]] else attributes
  let values := literalsOf .attributeValue (fun s => names.findSome? (attributeAt? s)) source
  let calls := literalsOf .helperCall (fun s => names.findSome? (callAt? callee s)) source
  (values ++ calls).mergeSort fun a b => a.start ≤ b.start

end ClassGroups.Jsx
