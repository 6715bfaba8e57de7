import ClassGroups.Options.Error
import ClassGroups.Text.Blank
import ClassGroups.Text.Identifier

/-!
# Options

`Style` is what rendering reads: a format, whether headings are written, the two indentations and
the name of the class helper. `Options` adds the least number of tokens that are worth grouping and
holds the proof that all of it is admissible.
-/

namespace ClassGroups

/-- How a grouping is written. -/
structure Style where
  /-- The shape of the output. -/
  format : OutputFormat := .clsx
  /-- Whether each group stands under a comment with the label of its category. -/
  comments : Bool := true
  /-- The indentation of the lines inside the brackets. -/
  indent : Text := "  "
  /-- The indentation of every line after the first. -/
  baseIndent : Text := []
  /-- The name of the class helper. -/
  callee : Text := "clsx"
deriving DecidableEq, Repr

/-- A style with the threshold of grouping, all of it admissible. -/
structure Options extends Style where
  /-- The least number of tokens of a class list that is grouped. -/
  minTokens : Nat := 4
  /-- The threshold is positive. -/
  minTokens_pos : 0 < minTokens := by decide
  /-- Indentation is white space. -/
  indent_blank : Text.Blank indent := by decide
  /-- The indentation of the surroundings is white space. -/
  baseIndent_blank : Text.Blank baseIndent := by decide
  /-- The name of the helper is an identifier. -/
  callee_identifier : isIdentifier callee = true := by decide

/-- The options of a caller who sets none. -/
instance : Inhabited Options := ⟨{}⟩

/-- The options for a place whose surroundings are indented by a text, which must be blank. -/
def Options.rebase (o : Options) (base : Text) : Except ConfigError Options :=
  if h : Text.Blank base then .ok { o with baseIndent := base, baseIndent_blank := h }
  else .error .indentNotBlank

/-- The options, provided that their output can stand in a JSX attribute. -/
def Options.requireSpliceable (o : Options) : Except ConfigError Unit :=
  if o.format.spliceable then .ok () else .error (.notSpliceable o.format)

end ClassGroups
