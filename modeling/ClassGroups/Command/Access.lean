import ClassGroups.Command.Fault
import ClassGroups.Files.Tree

/-!
# Access to files

A run looks for files, reads them and writes them, and prints lines. Each of these may break it off,
a write even after it has changed the tree: a file is emptied before it turns out that its new
content is no text.
-/

namespace ClassGroups.Command

open Files

/-! ### Files -/

/-- The place that a path leads to, if something stands there. A name that is too long cannot be
looked for. -/
def findFile (t : Tree) (path : Path) : Except Fault (Option Place) :=
  match t.find? path with
  | some place => .ok (some place)
  | none =>
    if path.anchor.isEmpty && t.overreaches [] path.parts then .error (.longName path)
    else .ok none

/-- Whether something stands beside a file that was reached. -/
def standsAt (t : Tree) (f : Located) : Except Fault Bool :=
  if f.place.name.fits then .ok (t.holds f.place) else .error (.longName f.path)

/-- The bytes of a file that was reached by a path. -/
def readFile (t : Tree) (f : Located) : Except Fault Text.Bytes :=
  match t.file? f.place with
  | some content => if t.isUnreadable f.place then .error (.denied f.path) else .ok content
  | none => .error (.isDirectory f.path)

/-- Why a file cannot be opened to be written. -/
def refusal? (t : Tree) (f : Located) : Option Fault :=
  if t.isDirectory f.place then some (.isDirectory f.path)
  else if !t.holds f.place && !f.place.name.fits then some (.longName f.path)
  else if t.locks f.place then some (.denied f.path)
  else none

/-- Writes a file, and says what broke the write off. A file that can be opened is emptied, whether
or not there is a text to write. -/
def writeFile (t : Tree) (f : Located) (content : Except Fault Text) : Tree × Option Fault :=
  match refusal? t f with
  | some fault => (t, some fault)
  | none =>
    match content with
    | .ok s => (t.write f.place (Text.encode s), none)
    | .error fault => (t.write f.place [], some fault)

/-! ### Lines -/

/-- What lies between a tool and those who call it: how bytes that belong to no character come in
with the arguments and go out with what is printed. -/
structure Terminal where
  /-- What the characters of arguments stand for. -/
  spelling : Spelling
  /-- What is printed for a byte. -/
  showing : Showing

/-- A terminal that has no such bytes come in and lets none go out. -/
def Terminal.strict : Terminal := ⟨.char, fun _ => none⟩

/-- Prints lines one after the other, up to one with a byte in it that the output refuses. -/
def printLines (showing : Showing) : List Name → Text × Option Fault
  | [] => ([], none)
  | line :: rest =>
    match line.shown? showing with
    | none => ([], some (.notEncoded line))
    | some s =>
      let (printed, fault?) := printLines showing rest
      (s ++ Text.newline ++ printed, fault?)

end ClassGroups.Command
