import ClassGroups.Category.Basic
import ClassGroups.Category.Matcher

/-!
# The category table

The rules in order of precedence: the first rule with a matcher that accepts a class claims it. The
last rule is `other`, which has no matcher and takes what no other rule claims. `tableFault?` tests
a list of rules for this shape.
-/

namespace ClassGroups

/-- What a category claims. -/
structure CategoryRule where
  /-- The category. -/
  category : Category
  /-- The heading of the category. -/
  label : Text
  /-- The matchers of the category. -/
  matchers : List Matcher
  /-- The place of the rule in its table. -/
  priority : Int
deriving DecidableEq, Repr

/-- The widths of the screen that have a name. -/
def breakpoints : List String := ["sm", "md", "lg", "xl", "2xl"]

/-- The matchers of each category. -/
def Category.matchers : Category → List Matcher
  | .size => [.stems ["w", "h", "min-w", "max-w", "min-h", "max-h", "size"] false]
  | .layout => [
    .stems ["flex", "grid", "inline", "block", "table", "flow-root", "contents", "hidden",
      "container", "isolate", "visible", "invisible", "collapse"] true,
    .words ["static", "fixed", "absolute", "relative", "sticky", "isolation-auto", "grow",
      "shrink"],
    .stems ["top", "right", "bottom", "left", "inset", "start", "end", "z", "float", "clear",
      "isolation", "order", "basis", "grow", "shrink", "columns", "box", "aspect", "object"] false,
    .stems ["place", "items", "justify", "content", "self", "auto-cols", "auto-rows", "cols",
      "rows", "col", "row", "gap", "flow"] false,
    .stems ["overflow", "overscroll"] false]
  | .spacing => [
    .stems ["m", "mx", "my", "mt", "mr", "mb", "ml", "ms", "me", "p", "px", "py", "pt", "pr", "pb",
      "pl", "ps", "pe", "space"] false]
  | .border => [.stems ["border", "divide", "ring", "rounded", "outline"] true]
  | .background => [.stems ["bg", "from", "via", "to", "gradient-to", "backdrop"] false]
  | .text => [
    .stems ["text", "font", "tracking", "leading", "decoration", "underline-offset", "whitespace",
      "break", "placeholder", "indent", "align", "list", "hyphens", "line-clamp", "caret",
      "accent"] false,
    .words ["underline", "overline", "line-through", "no-underline", "uppercase", "lowercase",
      "capitalize", "normal-case", "truncate", "italic", "not-italic", "antialiased",
      "subpixel-antialiased", "text-ellipsis", "text-clip", "ordinal", "slashed-zero",
      "lining-nums", "oldstyle-nums", "proportional-nums", "tabular-nums", "normal-nums"],
    .variants ["selection", "placeholder", "file", "marker", "first-letter", "first-line"] none]
  | .effects => [
    .stems ["shadow", "opacity", "mix-blend", "bg-blend", "filter", "blur", "brightness",
      "contrast", "grayscale", "hue-rotate", "invert", "saturate", "sepia", "drop-shadow",
      "transition", "transform"] true,
    .stems ["duration", "ease", "delay", "animate", "scale", "rotate", "translate", "skew",
      "origin", "appearance", "cursor", "select", "pointer-events", "will-change", "touch", "snap",
      "scroll"] false,
    .stems ["resize"] true]
  | .states => [
    .variants ["hover", "focus", "focus-within", "focus-visible", "active", "visited", "target",
      "disabled", "enabled", "checked", "indeterminate", "required", "invalid", "valid",
      "read-only", "open", "first", "last", "only", "odd", "even", "empty", "before", "after",
      "dark", "motion-safe", "motion-reduce", "print", "group", "peer"] (some .relational)]
  | .responsive => [.variants (breakpoints ++ breakpoints.map ("max-" ++ ·)) (some .bracketed)]
  | .other => []

/-- The rules in order of precedence. -/
def categoryTable : List CategoryRule :=
  Category.all.zipIdx.map fun (c, i) => ⟨c, c.label, c.matchers, i⟩

/-- The rule of a category. -/
def Category.rule (c : Category) : CategoryRule :=
  (categoryTable.find? (·.category == c)).getD ⟨c, c.label, c.matchers, 0⟩

/-- What can be wrong with a list of rules. -/
inductive TableError where
  /-- A category has two rules. -/
  | duplicateCategory
  /-- The last rule is not the one for `other`. -/
  | otherNotLast
  /-- The priority of a rule differs from its place. -/
  | misplaced (c : Category)
  /-- A rule without matchers is not the one for `other`, or `other` has a matcher. -/
  | badMatchers (c : Category)
deriving DecidableEq, Repr

/-- The fault in words. -/
def TableError.message : TableError → Text
  | duplicateCategory => "duplicate category names"
  | otherNotLast => "other must be the last rule"
  | misplaced c => "priority of " ++ c.name ++ " is not its index"
  | badMatchers c => "only other may (and must) have an empty matcher list: " ++ c.name

/-- The fault of a rule at a place of its table. -/
def CategoryRule.fault? (rule : CategoryRule) (place : Nat) : Option TableError :=
  if rule.priority ≠ place then some (.misplaced rule.category)
  else if decide (rule.category = .other) ≠ rule.matchers.isEmpty then
    some (.badMatchers rule.category)
  else none

/-- The first fault of a list of rules: the categories are distinct, `other` is the last, every
priority is the place of its rule, and only `other` lacks matchers. -/
def tableFault? (rules : List CategoryRule) : Option TableError :=
  if ¬ (rules.map (·.category)).Nodup then some .duplicateCategory
  else if (rules.getLast?.map (·.category)) ≠ some .other then some .otherNotLast
  else rules.zipIdx.findSome? fun (rule, place) => rule.fault? place

end ClassGroups
