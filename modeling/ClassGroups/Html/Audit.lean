import ClassGroups.Gate
import ClassGroups.Html.Element

/-!
# Auditing an HTML document

The audit lists the elements whose class lists would be grouped, with their groups. It changes
nothing.
-/

namespace ClassGroups.Html

/-- An element whose class list would be grouped. -/
structure AuditedElement where
  /-- The name of the element. -/
  tag : Text
  /-- The number of elements before it in the document. -/
  index : Nat
  /-- Its class list. -/
  classes : Text
  /-- The grouping of its class list. -/
  grouping : Grouping
deriving DecidableEq, Repr

/-- The element in a report. -/
def AuditedElement.toJson (e : AuditedElement) : Json :=
  .dict [
    ("tag", .text e.tag), ("index", .int e.index), ("classes", .text e.classes),
    ("groups", e.grouping.toJson)]

/-- The class list of an element, unless it is blank. -/
def Element.classList? (e : Element) : Option Text := e.classes?.filter (!·.all isBlank)

/-- The report on an element at a place, if its class list would be grouped. -/
def auditElement? (threshold : Nat) (e : Element) (index : Nat) : Option AuditedElement := do
  let classes ← e.classList?
  guard (gate threshold classes).isNone
  return ⟨e.tag, index, classes, group classes⟩

/-- The elements of a list whose class lists would be grouped. -/
def auditElements (threshold : Nat) (all : List Element) : List AuditedElement :=
  all.zipIdx.filterMap fun (e, index) => auditElement? threshold e index

/-- The elements of a document whose class lists would be grouped. -/
def audit (threshold : Nat) (html : Text) : Except MarkupError (List AuditedElement) :=
  (elements html).map (auditElements threshold)

/-- Why a document cannot be audited under settings that were not checked. -/
inductive AuditError where
  /-- The document is refused. -/
  | markup (e : MarkupError)
  /-- The threshold cannot be used. -/
  | misuse (m : Misuse)
deriving DecidableEq, Repr

end ClassGroups.Html

namespace ClassGroups.Settings

open Html

/-- The audit under settings that were not checked. The threshold matters only if there is a class
list. -/
def audit (s : Settings) (html : Text) : Except AuditError (List AuditedElement) := do
  let all ← (elements html).mapError .markup
  if all.all (·.classList?.isNone) then return []
  else
    match ← s.requiredTokens.mapError .misuse with
    | some threshold => return auditElements threshold all
    | none => return []

end ClassGroups.Settings
