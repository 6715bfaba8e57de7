import ClassGroups.Proofs.Jsx.Findings
import ClassGroups.Proofs.Jsx.Replacement
import ClassGroups.Proofs.Jsx.Scans

/-!
# Rewritten attributes are recognized

A fix leaves no mark on the attributes that it has rewritten. They are told from others by their
shape alone: a rewritten attribute is neither a string nor a call of the helper with one string, so
neither scanner accepts it, whatever comes behind it (`rewritten_not_accepted`).

An assignment in a text determines its name and what comes after the equals sign, as long as the
names hold no white space and no equals sign (`name_unique`). So there is only one place for a
scanner to look at, which is the expression in braces. It starts with the bracket of a list, or it is
a call of the helper, whose first string has a comma behind it or a comment before it. That string
is read in one way only, whatever its classes are, and so the call cannot be cut short in it.
-/

namespace ClassGroups.Jsx

/-- **An attribute with a replacement** in the place of its class list. The braces around a call are
those of the source. -/
def rewritten (kind : LiteralKind) (name replacement : Text) : Text :=
  name ++ '=' ::
    match kind with
    | .attributeValue => replacement
    | .helperCall => '{' :: (replacement ++ ['}'])

/-- Neither scanner accepts a text, with any of the names. -/
def Unaccepted (names : List Text) (callee s : Text) : Prop :=
  names.findSome? (attributeAt? s) = none ∧ names.findSome? (callAt? callee s) = none

section Unaccepted

variable {names : List Text} {callee name head opened : Text}

theorem unaccepted_iff_shape {s : Text} :
    Unaccepted names callee s ↔ ∀ kind, shape names callee kind s = none := by
  constructor
  · rintro ⟨hvalue, hcall⟩ kind
    cases kind with
    | attributeValue => exact hvalue
    | helperCall => exact hcall
  · exact fun h => ⟨h .attributeValue, h .helperCall⟩

/-- **An assignment of an expression in braces** is not accepted unless the expression starts with a
call that has one string. -/
theorem unaccepted_of_callBody?_eq_none (hc : isIdentifier callee = true)
    (hnames : ∀ n ∈ names, IsUnbroken n) (hname : name ∈ names) (hhead : IsAssignment name head)
    (hcall : callBody? callee (Text.trimLeft opened) = none) :
    Unaccepted names callee (head ++ '{' :: opened) := by
  refine unaccepted_iff_shape.mpr fun kind => Option.eq_none_iff_forall_ne_some.mpr fun found h => ?_
  obtain ⟨m, rest, hm, -⟩ := exists_match_of_shape_eq_some hc h
  -- the match has the same name, so what it has after the equals sign is the expression
  have hassigned : afterEquals? name (head ++ '{' :: opened) = some ('{' :: opened) :=
    afterEquals?_eq_some_iff.mpr
      ⟨head, hhead, rfl, Text.trimLeft_cons_of_not_isBlank (by decide) _⟩
  have hmatched := m.afterEquals?_text rest
  rw [← hm] at hmatched
  have hsame := name_unique (hnames m.name m.name_mem) (hnames name hname) hmatched hassigned
  rw [hsame, hassigned, Option.some.injEq] at hmatched
  -- the brace tells that the match is one for calls
  obtain ⟨c, t, hbody, hopens⟩ := m.exists_opens
  rw [hbody, List.cons_append] at hmatched
  obtain rfl : '{' = c := (List.cons.inj hmatched).1
  obtain rfl := eq_helperCall_of_opens hopens
  have hbraced : m.body ++ rest = '{' :: opened := by rw [hbody, List.cons_append, hmatched]
  exact m.callBody?_ne_none hc hbraced hcall

end Unaccepted

section Rewritten

variable {o : Options} {names : List Text} {name : Text}

/-- In both shapes the expression stands in braces behind the equals sign. -/
theorem rewritten_wrap (kind : LiteralKind) (name : Text) (format : OutputFormat)
    (rendered u : Text) :
    rewritten kind name (wrap kind format rendered) ++ u
      = (name ++ ['=']) ++ '{' :: (expression format rendered ++ '}' :: u) := by
  have hbraces (braced : Text) : name ++ '=' :: braced ++ u = (name ++ ['=']) ++ (braced ++ u) := by
    simp
  have hexpression (e : Text) : '{' :: (e ++ ['}']) ++ u = '{' :: (e ++ '}' :: u) := by simp
  calc rewritten kind name (wrap kind format rendered) ++ u
      = name ++ '=' :: ('{' :: (expression format rendered ++ ['}'])) ++ u := by cases kind <;> rfl
    _ = (name ++ ['=']) ++ '{' :: (expression format rendered ++ '}' :: u) := by
      rw [hbraces, hexpression]

theorem unaccepted_rewritten (hspliceable : o.format.spliceable = true)
    (hnames : ∀ n ∈ names, IsUnbroken n) (hname : name ∈ names) {v : Text}
    (hchanged : (format o v).changed = true) (kind : LiteralKind) (u : Text) :
    Unaccepted names o.callee
      (rewritten kind name (wrap kind o.format (format o v).text) ++ u) := by
  have hgate := changed_iff.mp hchanged
  have hassignment : IsAssignment name (name ++ ['=']) :=
    ⟨[], [], Text.blank_nil, Text.blank_nil, by rw [List.append_nil]⟩
  have hcall := callBody?_trimLeft_expression o hspliceable (two_le_length_of_gate_eq_none hgate)
    Text.blank_nil ('}' :: u)
  rw [rewritten_wrap, format_of_gate_eq_none hgate]
  exact unaccepted_of_callBody?_eq_none o.callee_identifier hnames hname hassignment hcall

/-- **A rewritten attribute is not accepted again**, whatever comes behind it: neither what becomes
of a class list that is regrouped, nor what becomes of a finding of a source. The names are any
names without white space and equals signs, and they need not be those of the first run. -/
theorem rewritten_not_accepted (hspliceable : o.format.spliceable = true)
    (hnames : ∀ n ∈ names, IsUnbroken n) (hname : name ∈ names) (u : Text) :
    (∀ kind v, (format o v).changed = true →
      Unaccepted names o.callee
        (rewritten kind name (wrap kind o.format (format o v).text) ++ u)) ∧
    ∀ attributes source fs, lint o attributes source = .ok fs → ∀ f ∈ fs,
      Unaccepted names o.callee (rewritten f.kind name f.replacement ++ u) := by
  refine ⟨fun kind v hv => unaccepted_rewritten hspliceable hnames hname hv kind u, ?_⟩
  intro attributes source fs hlint f hf
  rw [lint_eq hspliceable] at hlint
  obtain rfl := Except.ok.inj hlint
  obtain ⟨l, hl, rfl⟩ := List.mem_map.mp hf
  -- the indentation of the line is one of the options for the class list
  have hgate : gate (placed o source l.start).minTokens l.value = none :=
    of_decide_eq_true (List.mem_filter.mp hl).2
  have hchanged : (format (placed o source l.start) l.value).changed = true :=
    changed_iff.mpr hgate
  have hformat : (placed o source l.start).format.spliceable = true := hspliceable
  have hplaced := unaccepted_rewritten hformat hnames hname hchanged l.kind u
  rwa [format_of_gate_eq_none hgate] at hplaced

/-- A source with one class list. -/
def oneList : Text := "\t<a className='mt-4 flex p-2 text-sm'>"

/-- A class that looks like the end of a call, under a name with a quote and a brace, with a quote
behind it. -/
theorem rewritten_not_accepted_quotes :
    ((default : Options).format.spliceable = true ∧
      (∀ n ∈ ["class\"\x7b".toList, "className".toList], IsUnbroken n)) ∧
    ((format default "flex p-2 mt-4 ')\x7d").changed = true ∧
      Unaccepted ["class\"\x7b", "className"] "clsx"
        (rewritten .helperCall "class\"\x7b"
          (wrap .helperCall .clsx (format default "flex p-2 mt-4 ')\x7d").text) ++ "')\x7d".toList)) ∧
    ∃ f, lint default defaultAttributes oneList = .ok [f] ∧
      Unaccepted ["class\"\x7b", "className"] "clsx"
        (rewritten f.kind "class\"\x7b" f.replacement ++ "')\x7d".toList) := by
  have hspliceable : (default : Options).format.spliceable = true := rfl
  have hnames : ∀ n ∈ ["class\"\x7b".toList, "className".toList], IsUnbroken n := by
    decide +kernel
  have hname : "class\"\x7b".toList ∈ ["class\"\x7b".toList, "className".toList] := by simp
  have hchanged : (format default "flex p-2 mt-4 ')\x7d").changed = true := by decide +kernel
  have hreported : (reported (namesTried defaultAttributes) "clsx" oneList).map (·.literal)
      = [⟨.attributeValue, 14, 37, "mt-4 flex p-2 text-sm"⟩] := by decide +kernel
  have hlint : lint default defaultAttributes oneList
      = .ok [findingFor default oneList ⟨.attributeValue, 14, 37, "mt-4 flex p-2 text-sm"⟩] := by
    have hliterals : literals defaultAttributes "clsx" oneList = _ :=
      literals_eq_of_pairwise (by rw [hreported]; decide)
    have hcallee : (default : Options).callee = "clsx".toList := rfl
    rw [lint_eq hspliceable, findings, hcallee, hliterals, hreported,
      List.filter_eq_self.mpr (by decide +kernel)]
    rfl
  obtain ⟨hformat, hfindings⟩ := rewritten_not_accepted hspliceable hnames hname "')\x7d"
  exact ⟨⟨hspliceable, hnames⟩, ⟨hchanged, hformat .helperCall _ hchanged⟩, _, hlint,
    hfindings _ _ _ hlint _ List.mem_cons_self⟩

end Rewritten

end ClassGroups.Jsx
