import ClassGroups.Html.Error
import ClassGroups.Text.Blank
import ClassGroups.Text.LowerCase

/-!
# What holds no elements

Comments, marked sections, declarations, processing instructions and end tags are passed over, and
so are character references in the text. Each function here takes what follows the first characters
of such a construct and returns what follows its end, if it has an end.
-/

namespace ClassGroups.Html

/-- The text after the next `>`. -/
def afterAngle? (s : Text) : Option Text := (Text.cutAt? '>' s).map (·.2)

/-- What follows a comment. -/
def afterComment? : Text → Option Text
  | [] => none
  | '-' :: '-' :: s =>
    match Text.trimLeft s with
    | '>' :: rest => some rest
    | _ => afterComment? ('-' :: s)
  | _ :: s => afterComment? s

/-! ### Marked sections -/

/-- The number of closing brackets before the `>` at the end of a marked section of a given name. -/
def sectionBrackets? (name : Text) : Option Nat :=
  if ["temp", "cdata", "ignore", "include", "rcdata"].any (·.toList == name) then some 2
  else if ["if", "else", "endif"].any (·.toList == name) then some 1
  else none

/-- What follows closing brackets and a `>`, with white space between them. -/
def afterBrackets? : Nat → Text → Option Text
  | 0, '>' :: s => some s
  | n + 1, ']' :: s => afterBrackets? n (Text.trimLeft s)
  | _, _ => none

/-- What follows the first closing brackets with a `>`. -/
def afterSectionBody? (brackets : Nat) : Text → Option Text
  | [] => none
  | c :: s => afterBrackets? brackets (c :: s) <|> afterSectionBody? brackets s

/-- Whether a character may follow the first letter of the name of a marked section. -/
def isSectionNameChar (c : Char) : Bool := c.isAlphanum || c == '-' || c == '_' || c == '.'

/-- What follows a marked section, of which the text lacks the `<![`. Its name may be in any case,
and something must follow the name. -/
def afterSection? (s : Text) : Except MarkupError (Option Text) :=
  let name := if s.head?.any Char.isAlpha then s.takeWhile isSectionNameChar else []
  let rest := Text.trimLeft (s.drop name.length)
  if s.isEmpty ∨ (rest.isEmpty ∧ ¬ name.isEmpty) then .ok none
  else if name.isEmpty then .error (.unnamedSection ("<![" ++ s))
  else
    match sectionBrackets? (Text.lower name) with
    | some brackets => .ok (afterSectionBody? brackets s)
    | none => .error (.unknownSection (s.take (s.length - rest.length)))

/-! ### All of them -/

/-- What follows a `<` and the construct that it starts, if this is no start tag. A `<` may also
stand for itself. -/
def afterOther? : Text → Except MarkupError (Option Text)
  | '!' :: '-' :: '-' :: s => .ok (afterComment? s)
  | '!' :: '[' :: s => afterSection? s
  | '/' :: s | '!' :: s | '?' :: s => .ok (afterAngle? s)
  | s => .ok (some s)

/-- What follows a construct without its end. It goes up to the next `>`, or else to the next `<`,
and if there is neither, its `<` stands for itself. -/
def afterEndless (s : Text) : Text :=
  match afterAngle? s with
  | some rest => rest
  | none => if s.contains '<' then s.dropWhile (· != '<') else s

/-- Whether a character is a digit in base sixteen. -/
def isHexDigit (c : Char) : Bool := c.isDigit || ('a' ≤ c && c ≤ 'f') || ('A' ≤ c && c ≤ 'F')

/-- What follows the number of a character reference in the text, which lacks the `&#`. Something
must follow it, and a number in base ten must not run on in base sixteen. -/
def afterNumber? (s : Text) : Except MarkupError (Option Text) :=
  let inBaseSixteen := s.head? = some 'x' ∨ s.head? = some 'X'
  let (digits, rest) := if inBaseSixteen then (s.drop 1).span isHexDigit else s.span Char.isDigit
  if digits.isEmpty || !(rest.head?.any (!isHexDigit ·)) then .ok none
  else if inBaseSixteen then .ok (some rest)
  else (admitDigits digits).map fun _ => some rest

end ClassGroups.Html
