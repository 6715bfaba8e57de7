import ClassGroups.Text.Numeral
import ClassGroups.Text.Quoted

/-!
# Refused documents

Nearly every text is read as a document. `MarkupError` lists what is refused, and
`MarkupError.message` words it.
-/

namespace ClassGroups.Html

/-- Why a document is refused. -/
inductive MarkupError where
  /-- A marked section has no name; the document from its start on. -/
  | unnamedSection (rest : Text)
  /-- There are no marked sections of this name. -/
  | unknownSection (name : Text)
  /-- The number in a character reference has too many digits. -/
  | longNumber (digits : Nat)
deriving DecidableEq, Repr

/-- How many characters of a document a message shows. -/
def shownLength : Nat := 20

/-- The reason in words. -/
def MarkupError.message : MarkupError → Text
  | unnamedSection rest =>
    rejected ("expected name token at " ++ Text.quoted (rest.take shownLength))
  | unknownSection name =>
    rejected ("unknown status keyword " ++ Text.quoted name ++ " in marked section")
  | longNumber digits =>
    "Exceeds the limit (" ++ Text.ofNat Text.maxDigits
      ++ " digits) for integer string conversion: value has " ++ Text.ofNat digits
      ++ " digits; use sys.set_int_max_str_digits() to increase the limit"
where
  /-- The words around the reason for which markup cannot be read on. -/
  rejected (reason : Text) : Text :=
    "The markup you provided was rejected by the parser. Trying a different parser or a different "
      ++ "encoding may help.\n\nOriginal error(s) from parser:\n AssertionError: " ++ reason

/-- Refuses numbers with too many digits. -/
def admitDigits (digits : Text) : Except MarkupError Unit :=
  if digits.length ≤ Text.maxDigits then .ok () else .error (.longNumber digits.length)

end ClassGroups.Html
