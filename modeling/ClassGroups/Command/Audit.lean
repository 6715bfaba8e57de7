import ClassGroups.Command.Access
import ClassGroups.Command.TreeRun
import ClassGroups.Html.Audit
import ClassGroups.Json.Printer
import ClassGroups.Json.Reader

/-!
# Auditing a file tree

The audit tool reads all HTML files below a directory and writes a report into the directory: for
each file the elements whose class lists would be grouped. Nothing else is written. A file with a
name that is no text cannot be written into a report. The numbers that are printed in the end are
those of the report when it is read again.
-/

namespace ClassGroups.Command

open Arguments Files

/-- The arguments of the tool. -/
def auditGrammar : Grammar where
  program := "audit_html_classes.py"
  options := [⟨"--root", .value .text⟩, ⟨"--min-tokens", .value .integer⟩]
  required := ["--root"]
  operands := .absent

/-- The name of the report. -/
def reportName : Text := "class-groups.json"

/-- Whether a path has the name of an HTML file. -/
def isHtml (path : Path) : Bool := (Name.ofText ".html").isSuffixOf path.name

/-- The audited elements of a file. -/
structure AuditedFile where
  /-- The way from the root down to the file. -/
  way : Place
  /-- The elements. -/
  elements : List Html.AuditedElement
deriving DecidableEq, Repr

/-- The name of the file in a report. -/
def AuditedFile.name (f : AuditedFile) : Name := List.intercalate (Name.ofText "/") f.way

/-- The file in a report, under a name. -/
def AuditedFile.toJson (f : AuditedFile) (name : Text) : Json :=
  .dict [("file", .text name), ("elements", .list (f.elements.map (·.toJson)))]

/-- The audit of one file. -/
def auditFile (o : Options) (t : Tree) (root : Located) (way : Place) :
    Except Fault AuditedFile := do
  let content ← readFile t ⟨root.path.descend way, root.place ++ way⟩
  match Html.audit o.minTokens (Text.ofFile content) with
  | .ok elements => return ⟨way, elements⟩
  | .error e => .error (.badMarkup e)

/-- The audited files below a directory that have elements to group, in the order of their parts. -/
def auditFiles (o : Options) (t : Tree) (root : Located) : Except Fault (List AuditedFile) := do
  let ways := (t.below root.place).filter fun way => isHtml (root.path.descend way)
  let audited ← ways.mapM (auditFile o t root)
  return audited.filter fun f => !f.elements.isEmpty

/-- A report with entries for files. -/
def reportWith (o : Options) (entries : List Json) : Json :=
  .dict [("min_tokens", .int o.minTokens), ("files", .list entries)]

/-- The report on audited files, whose names have to be texts. -/
def auditReport? (o : Options) (files : List AuditedFile) : Option Json :=
  (files.mapM fun f => (Name.text? f.name).map f.toJson).map (reportWith o)

/-- A report as it is written. -/
def writtenReport (report : Json) : Text := report.pretty "  "

/-- A sign of a name in a report, where a character stands for each byte. -/
def standIn (first : Nat) : Sign → Char
  | .char c => c
  | .byte b => Char.ofNat (first + b.toNat)

/-- The report on audited files as it cannot be written, with bytes in it that belong to no
character. It differs at these, and only there, if other characters stand for them. -/
def unwritableReport (o : Options) (files : List AuditedFile) : Name :=
  let spelled (first : Nat) : Text :=
    writtenReport (reportWith o (files.map fun f => f.toJson (f.name.map (standIn first))))
  let one := 0xe000
  let other := 0xe100
  List.zipWith (fun c d => if c = d then .char c else .byte (UInt8.ofNat (c.toNat - one)))
    (spelled one) (spelled other)

/-- What is written for audited files. -/
def reportContent (o : Options) (files : List AuditedFile) : Except Fault Text :=
  match auditReport? o files with
  | some report => .ok (writtenReport report)
  | none => .error (.notEncoded (unwritableReport o files))

/-- The items of the list in a field of an object. -/
def itemsAt (field : Text) : Json → List Json
  | .dict entries =>
    match entries.lookup field with
    | some (.list items) => items
    | _ => []
  | _ => []

/-- The line that sums up a report that was written to a path. -/
def auditSummary (report : Json) (path : Path) : Name :=
  let files := itemsAt "files" report
  Name.ofText ("[TW-AUDIT] elements=" ++ Text.ofNat (files.flatMap (itemsAt "elements")).length
    ++ " files=" ++ Text.ofNat files.length ++ " -> ") ++ path.print

/-- The report in a directory. -/
def reportIn (root : Located) : Located :=
  ⟨root.path.descend [Name.ofText reportName], root.place ++ [Name.ofText reportName]⟩

/-- What a report says that is read from a file. -/
def reportOf (content : Text.Bytes) : Json :=
  -- a report that was written is always a value, so nothing stands for one that is none
  (Json.read? (Text.ofFile content)).getD (.dict [])

/-- The run after the files are audited. The report is read again for its numbers. -/
def writeReport (showing : Showing) (o : Options) (t : Tree) (report : Located)
    (files : List AuditedFile) : TreeRun :=
  match writeFile t report (reportContent o files) with
  | (t, some fault) => .broken fault t
  | (t, none) =>
    match readFile t report with
    | .error fault => .broken fault t
    | .ok content =>
      let (printed, fault?) := printLines showing [auditSummary (reportOf content) report.path]
      { outcome := { status := if fault?.isSome then 1 else 0, output := printed, fault? }
        tree := t }

/-- The run on a directory. -/
def auditDirectory (showing : Showing) (o : Options) (t : Tree) (root : Located) : TreeRun :=
  match auditFiles o t root with
  | .error fault => .broken fault t
  | .ok files => writeReport showing o t (reportIn root) files

/-- The run for a command line. -/
def auditFor (terminal : Terminal) (p : Parsed) (env : Environment) (t : Tree) : TreeRun :=
  match p.text? "--root" with
  | none => .broken .rootDropped t
  | some root =>
    let path := Path.ofArgument terminal.spelling root
    match findFile t path with
    | .error fault => .broken fault t
    | .ok found? =>
      match found?.filter t.isDirectory with
      | none =>
        { outcome := .complaint ("directory not found: " ++ Name.escaped path.print), tree := t }
      | some place =>
        match optionsOf env p [("min_tokens", "--min-tokens")] with
        | .error e => { outcome := .ofSettingsError e, tree := t }
        | .ok o => auditDirectory terminal.showing o t ⟨path, place⟩

/-- The audit tool: its run for arguments, an environment, a file of definitions and a tree. -/
def audit (terminal : Terminal) (arguments : List Text) (env : Environment) (definitions : Text)
    (t : Tree) : TreeRun :=
  .start auditGrammar (auditFor terminal) arguments env definitions t

end ClassGroups.Command
