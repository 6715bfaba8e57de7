import ClassGroups.Classification
import ClassGroups.Text.Blank

/-!
# Grouping of class lists

A class list is read as its tokens, the longest runs without white space. Its grouping holds a group
for each category that occurs, in the order of first occurrence, with the tokens of the category in
the order of the list.
-/

namespace ClassGroups

/-- The tokens of a category. -/
structure Group where
  /-- The category. -/
  category : Category
  /-- Its tokens, in the order of the class list. -/
  tokens : List Text
deriving DecidableEq, Repr

/-- Groups in the order in which they are shown. -/
abbrev Grouping := List Group

/-- The tokens of a class list. -/
def tokenize (s : Text) : List Text := (s.splitOnP isBlank).filter (!·.isEmpty)

/-- The grouping with a token added to the group of its category, which is opened at the end if it
is new. -/
def Grouping.add (category : Category) (token : Text) : Grouping → Grouping
  | [] => [⟨category, [token]⟩]
  | g :: rest =>
    if g.category = category then ⟨g.category, g.tokens ++ [token]⟩ :: rest
    else g :: Grouping.add category token rest

/-- The grouping of a list of tokens. -/
def groupTokens (tokens : List Text) : Grouping :=
  tokens.foldl (fun g t => g.add (classify t) t) []

/-- The grouping of a class list. -/
def group (s : Text) : Grouping := groupTokens (tokenize s)

namespace Grouping

/-- All tokens, group by group. -/
def flatten (g : Grouping) : List Text := g.flatMap (·.tokens)

/-- The number of tokens. -/
def tokenCount (g : Grouping) : Nat := g.flatten.length

/-- The tokens by category, each category once: where one occurs again, its last tokens stand at its
first place. -/
def byCategory (g : Grouping) : List (Category × List Text) :=
  g.foldl put []
where
  /-- The entries with the tokens of a category set. -/
  put (entries : List (Category × List Text)) (new : Group) : List (Category × List Text) :=
    match entries with
    | [] => [(new.category, new.tokens)]
    | (c, tokens) :: rest =>
      if c = new.category then (c, new.tokens) :: rest else (c, tokens) :: put rest new

/-- The grouping as an object: each category's name with the list of its tokens. -/
def toJson (g : Grouping) : Json :=
  .dict (g.byCategory.map fun (c, tokens) => (c.name, .list (tokens.map .text)))

end Grouping

end ClassGroups
