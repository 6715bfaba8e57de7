import ClassGroups.Text.Ranges

/-!
# Blank characters

The white space of class lists: the separators of Unicode 14.0 with the control characters that
separate words, lines or fields. The zero width space is not blank.
-/

namespace ClassGroups

/-- The code points of all blank characters. -/
def blankRanges : CharRanges := [
  (0x9, 0xd), (0x1c, 0x20), (0x85, 0x85), (0xa0, 0xa0), (0x1680, 0x1680), (0x2000, 0x200a),
  (0x2028, 0x2029), (0x202f, 0x202f), (0x205f, 0x205f), (0x3000, 0x3000)]

/-- Whether a character is white space. -/
def isBlank (c : Char) : Bool := blankRanges.covers c

namespace Text

/-- A text is blank when it holds nothing but white space. -/
abbrev Blank (s : Text) : Prop := s.all isBlank = true

/-- The text without the white space at its start. -/
def trimLeft (s : Text) : Text := s.dropWhile isBlank

/-- The text without the white space at its end. -/
def trimRight (s : Text) : Text := (s.reverse.dropWhile isBlank).reverse

/-- The text without the white space at both ends. -/
def trim (s : Text) : Text := trimRight (trimLeft s)

/-- The white space at the start of a text. -/
def leadingBlanks (s : Text) : Text := s.takeWhile isBlank

end Text

end ClassGroups
