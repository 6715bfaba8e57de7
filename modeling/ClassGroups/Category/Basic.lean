import ClassGroups.Json.Shown

/-!
# Categories

The ten categories into which utility classes are sorted. A category is written by its lower-case
name.
-/

namespace ClassGroups

/-- The purpose of a utility class. -/
inductive Category where
  /-- Width and height. -/
  | size
  /-- Display, position and alignment. -/
  | layout
  /-- Margin and padding. -/
  | spacing
  /-- Borders, rings, outlines and rounded corners. -/
  | border
  /-- Backgrounds and gradients. -/
  | background
  /-- Fonts and the look of text. -/
  | text
  /-- Shadows, filters, transitions and transforms. -/
  | effects
  /-- Classes that apply in a state of the element. -/
  | states
  /-- Classes that apply from a width of the screen on. -/
  | responsive
  /-- Everything else. -/
  | other
deriving DecidableEq, Repr, Inhabited

namespace Category

/-- The categories in the order in which they claim a class. -/
def all : List Category :=
  [size, layout, spacing, border, background, text, effects, states, responsive, other]

/-- The name of a category. -/
def name : Category → Text
  | size => "size"
  | layout => "layout"
  | spacing => "spacing"
  | border => "border"
  | background => "background"
  | text => "text"
  | effects => "effects"
  | states => "states"
  | responsive => "responsive"
  | other => "other"

/-- The heading under which the classes of a category are shown. -/
def label : Category → Text
  | size => "Size"
  | layout => "Layout"
  | spacing => "Spacing"
  | border => "Border"
  | background => "Background"
  | text => "Text"
  | effects => "Effects"
  | states => "States"
  | responsive => "Responsive"
  | other => "Other"

/-- The category with a name, if there is one. -/
def ofName? (s : Text) : Option Category := all.find? (·.name == s)

end Category

/-- A value that was given for a category and names none. -/
structure UnknownCategory where
  /-- The value. -/
  value : Json

/-- What is wrong with the value. -/
def UnknownCategory.message (e : UnknownCategory) : Text :=
  e.value.shown ++ " is not a valid Category"

/-- The category that a value names. -/
def Category.ofJson : Json → Except UnknownCategory Category
  | .text s =>
    match ofName? s with
    | some c => .ok c
    | none => .error ⟨.text s⟩
  | v => .error ⟨v⟩

end ClassGroups
