import ClassGroups.Files.Path

/-!
# File trees

A `Tree` is what stands below the current directory: files with their content, and directories. A
directory around something else need not be listed. Several places may lead to one file, and then a
write through one of them is seen through all. Files and directories may be locked: such a file
cannot be written, and nothing new can be made in such a directory. A file may also be such that it
cannot be read.

Names may hold bytes that belong to no character, and a name that is too long for the system can
neither be looked for nor be made. Left out are symbolic links other than further places of a file,
directories that cannot be read or entered, limits on the length of a whole path and on the room for
files, and whatever others do to the files during a run. Paths that leave the current directory lead
to nothing.
-/

namespace ClassGroups.Files

/-- Where something stands: the names from the current directory down to it. -/
abbrev Place := List Name

/-- The files and directories below the current directory. -/
structure Tree where
  /-- The files with their content. -/
  files : List (Place × Text.Bytes) := []
  /-- Directories, among them all that are empty. -/
  directories : List Place := []
  /-- Groups of places that lead to one file, which has the same content at all of them. A file that
  is in no group has a place of its own. -/
  links : List (List Place) := []
  /-- Files and directories that are locked. -/
  locked : List Place := []
  /-- Files that cannot be read. -/
  unreadable : List Place := []
deriving DecidableEq, Repr

/-- All places on the way down to a place, with the place itself. -/
def Place.stages : Place → List Place
  | [] => []
  | part :: rest => [part] :: (stages rest).map (part :: ·)

/-- The rest of the way from one place down to another, if it stands below. -/
def Place.below? : (here place : Place) → Option Place
  | [], [] => none
  | [], place => some place
  | _ :: _, [] => none
  | a :: here, b :: place => if a = b then below? here place else none

/-- Whether a place stands at or before another one, part by part in the order of code points. -/
def Place.le : Place → Place → Bool
  | [], _ => true
  | _ :: _, [] => false
  | a :: p, b :: q => if a = b then le p q else Name.le a b

/-- The last name on the way to a place. -/
def Place.name (p : Place) : Name := p.getLast?.getD []

namespace Tree

/-- The content of the file at a place. -/
def file? (t : Tree) (p : Place) : Option Text.Bytes := t.files.lookup p

/-- All places at which something stands. -/
def places (t : Tree) : List Place :=
  ((t.files.map (·.1) ++ t.directories).flatMap Place.stages).eraseDups

/-- Whether something stands at a place. -/
def holds (t : Tree) (p : Place) : Bool := p.isEmpty || t.places.contains p

/-- Whether a directory stands at a place. -/
def isDirectory (t : Tree) (p : Place) : Bool := t.holds p && (t.file? p).isNone

/-- Whether two places lead to the same file, as every place does with itself. -/
def linked (t : Tree) (p q : Place) : Bool :=
  p = q || (t.file? p).isSome && (t.file? q).isSome
    && t.links.any fun group => group.contains p && group.contains q

/-- Whether the file at a place is locked or, if there is none, the directory in which it would be
made. -/
def locks (t : Tree) (p : Place) : Bool :=
  if (t.file? p).isSome then t.locked.any (t.linked p) else t.locked.contains p.dropLast

/-- Whether there is a file at a place that cannot be read. -/
def isUnreadable (t : Tree) (p : Place) : Bool :=
  (t.file? p).isSome && t.unreadable.any (t.linked p)

/-- The ways down to everything below a place, in the order of their parts. -/
def below (t : Tree) (here : Place) : List Place :=
  (t.places.filterMap (Place.below? here)).mergeSort Place.le

/-- The tree with a file written at a place. A file that stands there has the content at all its
places. A new one has a place of its own, and can be read and written. -/
def write (t : Tree) (p : Place) (content : Text.Bytes) : Tree :=
  if (t.file? p).isSome then
    { t with files := t.files.map fun (q, old) => if t.linked p q then (q, content) else (q, old) }
  else
    { t with
      files := t.files ++ [(p, content)]
      links := t.links.map (·.filter (· != p))
      locked := t.locked.filter (· != p)
      unreadable := t.unreadable.filter (· != p) }

/-- The place that parts lead to from another place. Double dots lead back out of a directory. -/
def walk (t : Tree) (here : Place) : List Name → Option Place
  | [] => some here
  | part :: rest =>
    if t.isDirectory here then
      if part = Name.ofText ".." then
        if here.isEmpty then none else t.walk here.dropLast rest
      else if t.holds (here ++ [part]) then t.walk (here ++ [part]) rest
      else none
    else none

/-- The place that a path leads to, if something stands there. -/
def find? (t : Tree) (path : Path) : Option Place :=
  if path.anchor.isEmpty then t.walk [] path.parts else none

/-- Whether parts lead from a place to a directory in which the next of them is looked for in vain,
and is too long a name to be looked for. -/
def overreaches (t : Tree) (here : Place) : List Name → Bool
  | [] => false
  | part :: rest =>
    if t.isDirectory here then
      if part = Name.ofText ".." then
        if here.isEmpty then false else t.overreaches here.dropLast rest
      else if t.holds (here ++ [part]) then t.overreaches (here ++ [part]) rest
      else !part.fits
    else false

end Tree

/-- Something in a tree, with the path by which it was reached. -/
structure Located where
  /-- The path. -/
  path : Path
  /-- The place that the path leads to. -/
  place : Place
deriving DecidableEq, Repr

/-- What stands below a path and the place that it leads to, in the order of the parts. -/
def Tree.locatedBelow (t : Tree) (root : Located) : List Located :=
  (t.below root.place).map fun way => ⟨root.path.descend way, root.place ++ way⟩

end ClassGroups.Files
