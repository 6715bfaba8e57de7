import ClassGroups.Text.Blank

/-!
# Places in a source

A place in a source is the number of characters before it. Only the newline ends a line.
-/

namespace ClassGroups.Jsx

/-- The part of a line that stands before a place. -/
def lineHead (source : Text) (place : Nat) : Text :=
  ((source.take place).reverse.takeWhile (· != '\n')).reverse

/-- The white space at the start of the line of a place, as far as it stands before the place. -/
def lineIndent (source : Text) (place : Nat) : Text := Text.leadingBlanks (lineHead source place)

/-- The line of a place, counted from one. -/
def line (source : Text) (place : Nat) : Nat := Text.occurrences '\n' (source.take place) + 1

/-- The column of a place, counted from one. -/
def column (source : Text) (place : Nat) : Nat := (lineHead source place).length + 1

end ClassGroups.Jsx
