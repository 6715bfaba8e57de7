import ClassGroups.Command.Access
import ClassGroups.Command.TreeRun
import ClassGroups.Jsx.Lint

/-!
# Linting a file tree

The lint tool looks for class lists in all sources below a directory, or in a single file. It
reports them, counts how many it would fix, or fixes the files. The three modes look for the same,
but only a report prints the paths of files, and only a fix writes them.
-/

namespace ClassGroups.Command

open Arguments Files

/-- The arguments of the tool. -/
def lintGrammar : Grammar where
  program := "lint_jsx_classes.py"
  options := [
    ⟨"--root", .value .text⟩,
    ⟨"--ext", .value .text⟩,
    ⟨"--attr", .value .text⟩,
    ⟨"--format", .value (.choice ((OutputFormat.all.filter (·.spliceable)).map (·.name)))⟩,
    ⟨"--min-tokens", .value .integer⟩,
    ⟨"--no-comments", .flag⟩,
    ⟨"--callee", .value .text⟩,
    ⟨"--fix", .flag⟩,
    ⟨"--backup", .flag⟩,
    ⟨"--dry-run", .flag⟩,
    ⟨"--verbose", .flag⟩]
  required := ["--root"]
  operands := .absent

/-- The options of a command line that set fields. -/
def lintFields : List (Text × Text) :=
  [("format", "--format"), ("min_tokens", "--min-tokens"), ("callee", "--callee")]

/-- What is done with findings. -/
inductive LintMode where
  /-- Each is reported. -/
  | report
  /-- They are counted. -/
  | preview
  /-- They are fixed in the files, which may be backed up before. -/
  | fix (backup : Bool)
deriving DecidableEq, Repr

/-- The mode that a command line asks for. -/
def LintMode.ofArguments (p : Parsed) : LintMode :=
  if p.has "--fix" then
    if p.has "--dry-run" then preview else fix (p.has "--backup")
  else report

/-- What the tool is asked to do. -/
structure LintJob where
  /-- The options for class lists. -/
  options : Options
  /-- The attributes that hold class lists, unless the value of one was taken away. -/
  attributes : Except Fault (List Text)
  /-- What is done with findings. -/
  mode : LintMode
  /-- Whether a log is written. -/
  verbose : Bool
  /-- What is printed for bytes in the paths of files. -/
  showing : Showing

/-! ### Which files -/

/-- The extensions that a list with commas names, each with its point. -/
def extensionsOf (list : Text) : List Text :=
  ((list.splitOn ',').map Text.trim).filterMap fun extension =>
    match extension with
    | [] => none
    | '.' :: _ => some extension
    | _ => some ('.' :: extension)

/-- The extensions unless others are named. -/
def defaultExtensions : Text := ".jsx,.tsx,.js"

/-- The name of the directories that hold the sources of others. -/
def foreignDirectory : Text := "node_modules"

/-- Whether a path has one of the extensions and leads through no directory of foreign sources. -/
def isSource (extensions : List Name) (path : Path) : Bool :=
  extensions.contains path.suffix && !path.parts.contains (Name.ofText foreignDirectory)

/-- What a run looks at: the root itself if it is a file, and otherwise all sources below it, even
if a directory is named like one. -/
def sourceFiles (t : Tree) (extensions : List Name) (root : Located) : List Located :=
  if (t.file? root.place).isSome then [root]
  else (t.locatedBelow root).filter fun f => isSource extensions f.path

/-! ### What is done with a file -/

/-- What a run has come to. -/
structure LintState where
  /-- The tree as it is now. -/
  tree : Tree
  /-- The number of findings. -/
  total : Nat := 0
  /-- What was printed. -/
  output : Text := []
  /-- The log. -/
  log : Text := []

/-- The line that reports a finding. -/
def reportLine (path : Path) (f : Jsx.Finding) : Name :=
  path.print ++ Name.ofText (":" ++ Text.ofNat f.line ++ ":" ++ Text.ofNat f.column ++ ": warning: "
    ++ f.kind.message)

/-- What is put after the name of a file to name its backup. -/
def backupEnding : Text := ".bak"

/-- The place of the backup of a file. -/
def backupPlace (p : Place) : Place := p.dropLast ++ [p.name ++ Name.ofText backupEnding]

/-- The backup of a file, which belongs beside it. -/
def backupOf (f : Located) : Located := ⟨f.path.extend backupEnding, backupPlace f.place⟩

/-- Backs up the text of a file, unless something stands in the place of the backup. -/
def backUp (t : Tree) (f : Located) (source : Text) : Tree × Option Fault :=
  match standsAt t (backupOf f) with
  | .error fault => (t, some fault)
  | .ok true => (t, none)
  | .ok false => writeFile t (backupOf f) (.ok source)

/-- Fixes the findings in a file, which may be backed up before. -/
def fixFile (t : Tree) (backup : Bool) (f : Located) (source fixed : Text) : Tree × Option Fault :=
  match if backup then backUp t f source else (t, none) with
  | (t, some fault) => (t, some fault)
  | (t, none) => writeFile t f (.ok fixed)

/-- The log of a file: what became of each class list and, unless findings are only reported, how
many were fixed. -/
def fileLog (mode : LintMode) (inspected : List (Jsx.ClassLiteral × Formatted)) (count : Nat) :
    List Text :=
  inspected.map (·.2.logMessage)
    ++ if mode = .report ∨ count = 0 then []
      else ["rewrote " ++ Text.ofNat count ++ " class attributes"]

/-- A fault in the options as a fault of the run. -/
def orRefused {α : Type} : Except ConfigError α → Except Fault α
  | .ok a => .ok a
  | .error e => .error (.refused e)

/-- What is found in a file. -/
structure Found where
  /-- The text of the file. -/
  source : Text
  /-- The findings. -/
  findings : List Jsx.Finding
  /-- The class lists that were looked at, with what became of each. -/
  inspected : List (Jsx.ClassLiteral × Formatted)

/-- Reads a file and looks for class lists in it. -/
def LintJob.search (job : LintJob) (t : Tree) (f : Located) : Except Fault Found := do
  let source := Text.ofFile (← readFile t f)
  let attributes ← job.attributes
  let findings ← orRefused (Jsx.lint job.options attributes source)
  let inspected ← orRefused (Jsx.inspect job.options attributes source)
  return { source, findings, inspected }

/-- Looks at one file, and says what broke the run off there. -/
def LintJob.visit (job : LintJob) (s : LintState) (f : Located) : LintState × Option Fault :=
  match job.search s.tree f with
  | .error fault => (s, some fault)
  | .ok found =>
    let log := (fileLog job.mode found.inspected found.findings.length).map
      ("[DEBUG] ".toList ++ ·)
    let s := { s with
      total := s.total + found.findings.length
      log := s.log ++ if job.verbose then Text.unlines log else [] }
    match job.mode with
    | .report =>
      let (printed, fault?) := printLines job.showing (found.findings.map (reportLine f.path))
      ({ s with output := s.output ++ printed }, fault?)
    | .preview => (s, none)
    | .fix backup =>
      if found.findings.isEmpty then (s, none)
      else
        let fixed := Jsx.applyFindings found.source found.findings
        let (t, fault?) := fixFile s.tree backup f found.source fixed
        ({ s with tree := t }, fault?)

/-- Looks at files one after the other, up to a fault. -/
def LintJob.visitAll (job : LintJob) (s : LintState) : List Located → LintState × Option Fault
  | [] => (s, none)
  | f :: rest =>
    match job.visit s f with
    | (s, none) => job.visitAll s rest
    | (s, some fault) => (s, some fault)

/-! ### The whole run -/

/-- The last line of the output. -/
def summaryLine (mode : LintMode) (total : Nat) : Text :=
  let result : Text :=
    match mode with
    | .report => "warnings"
    | .preview => "would fix"
    | .fix _ => "fixed"
  "[TW-LINT] " ++ result ++ "=" ++ Text.ofNat total

/-- The run over files. Findings that are only reported make it fail. -/
def LintJob.run (job : LintJob) (t : Tree) (files : List Located) : TreeRun :=
  match job.visitAll { tree := t } files with
  | (s, some fault) =>
    { outcome := { status := 1, output := s.output, errors := s.log, fault? := some fault }
      tree := s.tree }
  | (s, none) =>
    { outcome := {
        status := if job.mode = .report ∧ s.total ≠ 0 then 1 else 0
        output := s.output ++ Text.unlines [summaryLine job.mode s.total]
        errors := s.log }
      tree := s.tree }

/-- The attributes that a command line names. -/
def attributesOf (p : Parsed) : Except Fault (List Text) :=
  if p.lacks "--attr" then .error .attributeDropped
  else
    match p.texts "--attr" with
    | [] => .ok Jsx.defaultAttributes
    | names => .ok names

/-- The options that the environment and a command line describe, which must admit splicing. -/
def lintOptions (env : Environment) (p : Parsed) : Except SettingsError Options := do
  let o ← optionsOf env p lintFields
  o.requireSpliceable
  return o

/-- The extensions that a command line names. -/
def extensionsFor (spelling : Spelling) (p : Parsed) : List Name :=
  (extensionsOf ((p.text? "--ext").getD defaultExtensions)).map fun extension =>
    extension.map spelling

/-- The run on what stands at the root. -/
def lintRoot (terminal : Terminal) (p : Parsed) (env : Environment) (t : Tree) (root : Located) :
    TreeRun :=
  match lintOptions env p with
  | .error e => { outcome := .ofSettingsError e, tree := t }
  | .ok options =>
    if p.value? "--ext" = some .dropped then .broken .extensionsDropped t
    else
      let job : LintJob := {
        options
        attributes := attributesOf p
        mode := .ofArguments p
        verbose := p.has "--verbose"
        showing := terminal.showing }
      job.run t (sourceFiles t (extensionsFor terminal.spelling p) root)

/-- The run for a command line. -/
def lintFor (terminal : Terminal) (p : Parsed) (env : Environment) (t : Tree) : TreeRun :=
  match p.text? "--root" with
  | none => .broken .rootDropped t
  | some root =>
    let path := Path.ofArgument terminal.spelling root
    match findFile t path with
    | .error fault => .broken fault t
    | .ok none => { outcome := .complaint ("not found: " ++ Name.escaped path.print), tree := t }
    | .ok (some place) => lintRoot terminal p env t ⟨path, place⟩

/-- The lint tool: its run for arguments, an environment, a file of definitions and a tree. -/
def lint (terminal : Terminal) (arguments : List Text) (env : Environment) (definitions : Text)
    (t : Tree) : TreeRun :=
  .start lintGrammar (lintFor terminal) arguments env definitions t

end ClassGroups.Command
