import ClassGroups.Grouping
import ClassGroups.Json.Printer
import ClassGroups.Options.Settings

/-!
# Rendering

A grouping is written as a call of a class helper, as a list, as a template literal or as JSON. In
the first three every group has a line of its own, under a comment with its label if headings are
wanted. All four start at the current column and prefix `baseIndent` to every further line.
-/

namespace ClassGroups

/-- A string in double quotes. -/
def quoteClass (s : Text) : Text :=
  '"' :: s.flatMap (fun c => if c = '\\' ∨ c = '"' then ['\\', c] else [c]) ++ ['"']

/-- A text as it stands in a template literal: backslashes, backticks and the start of an
interpolation are escaped. -/
def templateText : Text → Text
  | [] => []
  | '$' :: '{' :: s => '\\' :: '$' :: '{' :: templateText s
  | c :: s => if c = '\\' ∨ c = '`' then '\\' :: c :: templateText s else c :: templateText s

/-- A line comment. -/
def lineComment (label : Text) : Text := "// " ++ label

/-- Lines between an opening and a closing bracket, which stand together when there are none. -/
def block (opening closing : Text) (body : List Text) (style : Style) : Text :=
  if body.isEmpty then opening ++ closing
  else
    Text.intercalate Text.newline
      (opening :: body.map (style.baseIndent ++ style.indent ++ ·)
        ++ [style.baseIndent ++ closing])

/-- The tokens of a group, separated by spaces. -/
def Group.text (g : Group) : Text := Text.intercalate " " g.tokens

/-- The heading of a group, if headings are wanted. -/
def Group.heading (g : Group) (style : Style) : List Text :=
  if style.comments then [lineComment g.category.label] else []

/-- The lines of a grouping with every group as a string, with commas between the strings. -/
def Grouping.quotedLines (style : Style) : Grouping → List Text
  | [] => []
  | [g] => g.heading style ++ [quoteClass g.text]
  | g :: rest => g.heading style ++ [quoteClass g.text ++ ","] ++ Grouping.quotedLines style rest

/-- The lines of a grouping in a template literal. -/
def Grouping.templateLines (style : Style) (g : Grouping) : List Text :=
  g.flatMap fun g => g.heading style ++ [templateText g.text]

/-- Puts a text after every newline. -/
def afterNewlines (base s : Text) : Text := s.flatMap fun c => if c = '\n' then c :: base else [c]

/-- A grouping in the shape and layout of a style. -/
def render (style : Style) (g : Grouping) : Text :=
  match style.format with
  | .clsx => block (style.callee ++ "(") ")" (g.quotedLines style) style
  | .array => block "[" "]" (g.quotedLines style) style
  | .template => block ['`'] ['`'] (g.templateLines style) style
  | .mapping => afterNewlines style.baseIndent (g.toJson.pretty style.indent)

/-! ### Settings that were not checked -/

/-- The format whose very name a value is. -/
def OutputFormat.named? : Json → Option OutputFormat
  | .text s => all.find? (·.name == s)
  | _ => none

namespace Settings

/-- The format to render in: the one that was chosen, or the one whose name was put there unread. -/
def renderFormat? (s : Settings) : Except SettingsError OutputFormat :=
  match s.format with
  | .chosen f => .ok f
  | .unread v =>
    if !v.kind.isKey then .error (.misuse (.notKey v.kind))
    else
      match OutputFormat.named? v with
      | some f => .ok f
      | none => .error (.config (.formatNotRenderable v))

/-- The two indentations of the lines of a grouping. They matter only where there is a line. -/
def lineIndents (s : Settings) (g : Grouping) : Except Misuse (Text × Text) :=
  match s.indent, s.baseIndent with
  | .text indent, .text base => .ok (indent, base)
  | indent, base =>
    if g.isEmpty then .ok ([], []) else .error (.ofSum base indent)

/-- A grouping as JSON, which is put on one line if there is no indentation. A number is taken for
that number of spaces. -/
def renderJson (s : Settings) (g : Grouping) : Except Misuse Text := do
  let text ←
    match s.indent with
    | .null => pure g.toJson.compact
    | .text indent => pure (g.toJson.pretty indent)
    | .bool b => pure (g.toJson.pretty (← spaces b.toNat))
    | .int n => pure (g.toJson.pretty (← spaces n))
    | v => .error (.notCount v.kind)
  match s.baseIndent with
  | .text base => return afterNewlines base text
  | v => .error (.notAddable .text v.kind)

/-- A grouping rendered under settings that were not checked. The name of a helper may be any value.
-/
def render (s : Settings) (g : Grouping) : Except SettingsError Text := do
  match ← s.renderFormat? with
  | .mapping => s.renderJson g
  | format =>
    let (indent, baseIndent) ← s.lineIndents g
    let style : Style :=
      { format, comments := s.includeComments.truthy, indent, baseIndent, callee := s.callee.plain }
    return ClassGroups.render style g

end Settings

end ClassGroups
