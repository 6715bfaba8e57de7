import ClassGroups.Files.Name

/-!
# Paths

A path leads through a list of parts, from the current directory or, when it is anchored, from the
root of all files. Empty parts and single dots lead nowhere and are left out; double dots are kept.
-/

namespace ClassGroups.Files

/-- A path. -/
structure Path where
  /-- The slashes at the start, which are missing in a path from the current directory. -/
  anchor : Text
  /-- The names along the path. -/
  parts : List Name
deriving DecidableEq, Repr

namespace Path

/-- The slashes that anchor a path. Exactly two are kept apart from one or many. -/
def anchorOf (s : Text) : Text :=
  match (s.takeWhile (· == '/')).length with
  | 0 => ""
  | 2 => "//"
  | _ => "/"

/-- The path that an argument spells. -/
def ofArgument (spelling : Spelling) (s : Text) : Path where
  anchor := anchorOf s
  parts := ((s.splitOn '/').filter fun part => !part.isEmpty && part != ['.']).map
    fun part => part.map spelling

/-- The path that a text spells. -/
def ofText (s : Text) : Path := ofArgument .char s

/-- The spelling of a path. -/
def print (p : Path) : Name :=
  match Name.ofText p.anchor ++ List.intercalate (Name.ofText "/") p.parts with
  | [] => Name.ofText "."
  | n => n

/-- The path that goes on below another one. -/
def descend (p : Path) (below : List Name) : Path := { p with parts := p.parts ++ below }

/-- The last name of a path. -/
def name (p : Path) : Name := p.parts.getLast?.getD []

/-- The path beside another one whose last name goes on with some text. -/
def extend (p : Path) (ending : Text) : Path :=
  { p with parts := p.parts.dropLast ++ [p.name ++ Name.ofText ending] }

/-- The last point of the name with what follows it, unless the point is the first or the last
character of the name. -/
def suffix (p : Path) : Name :=
  let extension := p.name.reverse.takeWhile (· != .char '.')
  let stem := p.name.take (p.name.length - (extension.length + 1))
  if stem.isEmpty ∨ extension.isEmpty then [] else .char '.' :: extension.reverse

end Path

end ClassGroups.Files
