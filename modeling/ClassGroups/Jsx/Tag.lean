import ClassGroups.Jsx.Position
import ClassGroups.Text.Word

/-!
# Opening tags

Whether a place in a source lies inside an opening tag is found out by walking back from it:
expressions in braces are skipped, and a `>` or `;` outside of braces ends the search. Markup that
is itself the content of a string of the program does not count; `insideString` tells this from the
number of quotes before the tag on its line and of backticks before it in the source.
-/

namespace ClassGroups.Jsx

/-- Whether a character may follow the first letter of a tag's name. -/
def isTagNameChar (c : Char) : Bool := isWord c || c == '.' || c == ':' || c == '-'

/-- Whether a text starts with `<`, a name and white space. -/
def opensTag : Text → Bool
  | '<' :: c :: s => c.isAlpha && ((s.dropWhile isTagNameChar).head?.any isBlank)
  | _ => false

/-- Walks back over `before`, which is reversed, at a depth of closing braces that have not met
their opening ones; `after` is the source from the end of `before` on. -/
def tagStartFrom (depth : Nat) : Text → Text → Option Nat
  | [], _ => none
  | c :: before, after =>
    if c = '}' then tagStartFrom (depth + 1) before (c :: after)
    else if c = '{' then
      match depth with
      | 0 => none
      | depth + 1 => tagStartFrom depth before (c :: after)
    else if 0 < depth then tagStartFrom depth before (c :: after)
    else if c = '>' ∨ c = ';' then none
    else if c = '<' then if opensTag (c :: after) then some before.length else none
    else tagStartFrom depth before (c :: after)

/-- The place of the `<` of the opening tag around a place. -/
def tagStart (source : Text) (place : Nat) : Option Nat :=
  tagStartFrom 0 (source.take place).reverse (source.drop place)

/-- The text without its escapes: a backslash goes together with the character after it, unless that
is a newline. -/
def dropEscapes : Text → Text
  | [] => []
  | '\\' :: c :: s => if c = '\n' then '\\' :: '\n' :: dropEscapes s else dropEscapes s
  | c :: s => c :: dropEscapes s

/-- Whether a place is taken to lie inside a string of the program: an odd number of unescaped
single or double quotes stands before it on its line, or an odd number of unescaped backticks before
it in the source. -/
def insideString (source : Text) (place : Nat) : Bool :=
  let head := dropEscapes (lineHead source place)
  Text.occurrences '\'' head % 2 == 1 || Text.occurrences '"' head % 2 == 1
    || Text.occurrences '`' (dropEscapes (source.take place)) % 2 == 1

/-- Whether a place lies inside an opening tag that is no part of a string. -/
def inTag (source : Text) (place : Nat) : Bool :=
  (tagStart source place).any fun start => !insideString source start

end ClassGroups.Jsx
