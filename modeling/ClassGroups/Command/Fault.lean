import ClassGroups.Files.Path
import ClassGroups.Html.Element
import ClassGroups.Options.Definitions

/-!
# Faults

A fault breaks a run off wherever it has come to: what was printed and written until then stays.
-/

namespace ClassGroups.Command

open Files

/-- Why a run breaks off. -/
inductive Fault where
  /-- A variable of the file of definitions cannot be set. -/
  | badVariable (e : VariableError)
  /-- A directory stands where a file is read or written. -/
  | isDirectory (path : Path)
  /-- The last name of a path is too long to be looked for. -/
  | longName (path : Path)
  /-- A file may not be read or written, or not be made in its directory. -/
  | denied (path : Path)
  /-- Something is printed or written that is no text. -/
  | notEncoded (n : Name)
  /-- A document is refused. -/
  | badMarkup (e : Html.MarkupError)
  /-- Options are refused that had been accepted before. -/
  | refused (e : ConfigError)
  /-- The value of the option for the root was taken away. -/
  | rootDropped
  /-- The value of the option for the extensions was taken away. -/
  | extensionsDropped
  /-- The value of an option for an attribute was taken away. -/
  | attributeDropped

/-- The fault in words. -/
def Fault.message : Fault → Text
  | badVariable e => e.message
  | isDirectory path => "[Errno 21] Is a directory: " ++ Name.quoted path.print
  | longName path => "[Errno 36] File name too long: " ++ Name.quoted path.print
  | denied path => "[Errno 13] Permission denied: " ++ Name.quoted path.print
  | notEncoded n => n.notEncoded
  | badMarkup e => e.message
  | refused e => e.message
  | rootDropped => "expected str, bytes or os.PathLike object, not list"
  | extensionsDropped => "'list' object has no attribute 'split'"
  | attributeDropped => "decoding to str: need a bytes-like object, list found"

end ClassGroups.Command
