import ClassGroups.Text.Basic
import ClassGroups.Text.Printable

/-!
# Quoted texts

The form in which messages show a text: between quotes, on one line, with every character that could
mislead the reader escaped.
-/

namespace ClassGroups.Text

/-- The quote around a shown text: the apostrophe, unless the text holds an apostrophe and no
double quote. -/
def quoteMark (s : Text) : Char :=
  if s.contains '\'' && !s.contains '"' then '"' else '\''

/-- A character as it stands between quotes: the quote in use and the backslash are escaped, the
common control characters have short names, and whatever is not printable becomes its number. -/
def quotedChar (mark c : Char) : Text :=
  if c = mark || c = '\\' then ['\\', c]
  else if c = '\n' then "\\n"
  else if c = '\r' then "\\r"
  else if c = '\t' then "\\t"
  else if isPrintable c then [c]
  else if c.toNat < 0x100 then "\\x" ++ hex 2 c.toNat
  else if c.toNat < 0x10000 then "\\u" ++ hex 4 c.toNat
  else "\\U" ++ hex 8 c.toNat

/-- The text between quotes. -/
def quoted (s : Text) : Text :=
  let mark := quoteMark s
  mark :: s.flatMap (quotedChar mark) ++ [mark]

end ClassGroups.Text
