import ClassGroups.Html.Comment
import ClassGroups.Html.Reference

/-!
# Elements of an HTML document

`elements` lists the start tags of a document in their order. Comments, declarations, end tags and
the content of scripts and style sheets hold no elements.
-/

namespace ClassGroups.Html

/-- A start tag. -/
structure Element where
  /-- The name of the element, in lower case. -/
  tag : Text
  /-- The attributes with their values, in the order of the tag and with names in lower case. -/
  attributes : List (Text × Text)
deriving DecidableEq, Repr

/-- Whether a character ends the name of a tag. -/
def endsTagName (c : Char) : Bool :=
  c == '\t' || c == '\n' || c == '\r' || c == '\x0c' || c == ' ' || c == '/' || c == '>'
    || c == '\x00'

/-- Whether a character may follow the first one of an attribute's name. -/
def isAttributeNameChar (c : Char) : Bool := !(isBlank c || c == '/' || c == '=' || c == '>')

/-- Whether a character may stand in a value without quotes. -/
def isBareValueChar (c : Char) : Bool := !(isBlank c || c == '>')

/-- Whether a character is a quote. -/
def isQuote (c : Char) : Bool := c == '"' || c == '\''

/-! ### Start tags -/

/-- Whether a text starts with a gap between the parts of a tag: white space, or a slash that does
not belong to the end of the tag. -/
def startsGap : Text → Bool
  | '/' :: '>' :: _ => false
  | c :: _ => isBlank c || c == '/'
  | [] => false

/-- The text after the gaps at its start. -/
def skipGaps : Text → Text
  | [] => []
  | c :: s => if startsGap (c :: s) then skipGaps s else c :: s

/-- The value of an attribute. -/
structure AttributeValue where
  /-- The value, with its references. -/
  raw : Text
  /-- Whether a quote stands right before what follows it. -/
  endsInQuote : Bool
  /-- What follows it. -/
  rest : Text
deriving DecidableEq, Repr

/-- The longest value without quotes. -/
def bareValue (s : Text) : AttributeValue where
  raw := s.takeWhile isBareValueChar
  endsInQuote := false
  rest := s.dropWhile isBareValueChar

/-- The value after the name of an attribute and equals signs, if there is one. A quote without its
partner starts no value. After white space it belongs to the next attribute, so that the value is
empty, and after several equals signs the last of them starts a value without quotes. -/
def attributeValue? (s : Text) : Option AttributeValue :=
  match Text.trimLeft s with
  | '=' :: s =>
    let t := s.dropWhile (· == '=')
    let u := Text.trimLeft t
    match u with
    | [] => some (bareValue u)
    | mark :: v =>
      if !isQuote mark then some (bareValue u)
      else
        match Text.cutAt? mark v with
        | some (raw, rest) => some ⟨raw, true, rest⟩
        | none =>
          if u.length < t.length then some ⟨[], false, t⟩
          else if t.length < s.length then some (bareValue ('=' :: t))
          else none
  | _ => none

/-- The attributes at the start of a text, as they are written, and what follows the last one with
its gap. The name of an attribute stands after a gap or, as `afterQuote` says of the first one,
right after a quote. The number bounds the recursion, which consumes a character in every step. -/
def attributesFrom : Nat → Bool → Text → List (Text × Text) × Text
  | 0, _, s => ([], s)
  | n + 1, afterQuote, s =>
    match skipGaps s with
    | [] => ([], [])
    | c :: t =>
      if (afterQuote || startsGap s) && c != '>' && c != '/' then
        let name := c :: t.takeWhile isAttributeNameChar
        let t := t.dropWhile isAttributeNameChar
        let value := (attributeValue? t).getD ⟨[], name.getLast?.any isQuote, t⟩
        let (attributes, rest) := attributesFrom n value.endsInQuote value.rest
        ((name, value.raw) :: attributes, rest)
      else ([], c :: t)

/-- How a start tag ends. -/
inductive TagEnd where
  /-- With a `>`, perhaps after a slash that closes the element. -/
  | complete (closed : Bool) (rest : Text)
  /-- With something that makes all of it text. -/
  | spoilt (rest : Text)
  /-- Not at all. -/
  | missing
deriving DecidableEq, Repr

/-- The end of a start tag after its attributes. -/
def tagEnd : Text → TagEnd
  | '>' :: s => .complete false s
  | '/' :: '>' :: s => .complete true s
  | [] => .missing
  | c :: s => if c.isAlpha || c == '=' then .missing else .spoilt (c :: s)

/-- The elements whose content is no markup. -/
def rawTextElements : List Text := ["script", "style"]

/-- The text from the end tag of a raw text element on, or nothing if there is none. -/
def afterRawText (tag : Text) : Text → Text
  | [] => []
  | c :: s => if c = '<' ∧ closes s then c :: s else afterRawText tag s
where
  /-- Whether a text starts with a slash, the name in any case and a `>`. -/
  closes : Text → Bool
    | '/' :: s =>
      let s := Text.trimLeft s
      (s.take tag.length).map Char.toLower == tag
        && (Text.trimLeft (s.drop tag.length)).head? == some '>'
    | _ => false

/-- What stands after a `<`. -/
inductive Construct where
  /-- A start tag. -/
  | startTag (element : Element) (rest : Text)
  /-- Something without elements. -/
  | other (rest : Text)
  /-- Something that has no end. -/
  | endless
deriving DecidableEq, Repr

/-- The attributes that were written so: with names in lower case and with decoded values. -/
def decodeAll (raw : List (Text × Text)) : Except MarkupError (List (Text × Text)) :=
  raw.mapM fun (name, value) => (decode value).map (Text.lower name, ·)

/-- What stands after a `<` that a letter follows. -/
def readTag (s : Text) : Except MarkupError Construct := do
  let name := s.takeWhile (!endsTagName ·)
  let s := s.dropWhile (!endsTagName ·)
  let (raw, rest) := attributesFrom (s.length + 1) (name.getLast?.any isQuote) s
  match tagEnd rest with
  | .missing => return .endless
  | .spoilt rest =>
    let _ ← decodeAll raw
    return .other rest
  | .complete closed rest =>
    let attributes ← decodeAll raw
    let tag := Text.lower name
    let rest := if !closed && rawTextElements.contains tag then afterRawText tag rest else rest
    return .startTag ⟨tag, attributes⟩ rest

/-- What stands after a `<`. -/
def readConstruct (s : Text) : Except MarkupError Construct :=
  if s.head?.any Char.isAlpha then readTag s
  else (afterOther? s).map fun rest => rest.elim .endless .other

/-! ### Documents -/

/-- The elements of a document. The first number bounds the recursion, which consumes a character in
every step. A construct without its end and a reference by number without a number are passed over,
but they make the document `flawed`: another such reference, or one that no semicolon follows, makes
all that follows it text. -/
def elementsFrom : Nat → Bool → Text → Except MarkupError (List Element)
  | 0, _, _ => .ok []
  | _, _, [] => .ok []
  | n + 1, flawed, '<' :: s => do
    match ← readConstruct s with
    | .startTag element rest => return element :: (← elementsFrom n flawed rest)
    | .other rest => elementsFrom n flawed rest
    | .endless => elementsFrom n true (afterEndless s)
  | n + 1, flawed, '&' :: '#' :: s => do
    match ← afterNumber? s with
    | some rest => elementsFrom n flawed rest
    | none => if flawed || !s.contains ';' then return [] else elementsFrom n true s
  | n + 1, flawed, _ :: s => elementsFrom n flawed s

/-- The elements of a document, in the order of their start tags. -/
def elements (html : Text) : Except MarkupError (List Element) :=
  elementsFrom (html.length + 1) false html

/-- The class list of an element: the value of its last `class` attribute. -/
def Element.classes? (e : Element) : Option Text := e.attributes.reverse.lookup "class".toList

end ClassGroups.Html
