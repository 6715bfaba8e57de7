import ClassGroups.Gate
import ClassGroups.Rendering

/-!
# Formatting of class lists

A class list that passes the gate is replaced by its rendered grouping, and any other is kept.
-/

namespace ClassGroups

/-- What became of a class list. -/
inductive Formatted where
  /-- It was kept, for a reason. -/
  | kept (input : Text) (reason : GateReason)
  /-- It was replaced by its grouping. -/
  | regrouped (grouping : Grouping) (rendered : Text)
deriving DecidableEq, Repr

namespace Formatted

/-- The text after formatting. -/
def text : Formatted → Text
  | kept input _ => input
  | regrouped _ rendered => rendered

/-- Whether the class list was replaced. -/
def changed : Formatted → Bool
  | kept .. => false
  | regrouped .. => true

/-- Why the class list was kept. -/
def reason? : Formatted → Option GateReason
  | kept _ reason => some reason
  | regrouped .. => none

/-- The grouping that replaced the class list, empty if there is none. -/
def grouping : Formatted → Grouping
  | kept .. => []
  | regrouped g _ => g

/-- What the log says about it. -/
def logMessage : Formatted → Text
  | kept input reason => "unchanged (" ++ reason.name ++ "): " ++ Text.quoted input
  | regrouped g _ =>
    "grouped " ++ Text.ofNat g.tokenCount ++ " tokens into " ++ Text.ofNat g.length
      ++ " categories"

end Formatted

/-- Formats a class list. -/
def format (o : Options) (s : Text) : Formatted :=
  match gate o.minTokens s with
  | some reason => .kept s reason
  | none => .regrouped (group s) (render o.toStyle (group s))

end ClassGroups
