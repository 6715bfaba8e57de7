import ClassGroups.Proofs.Jsx.Scans

/-!
# The names of attributes form a set

The names to look for come as a list. At each place the first one counts that leads to a class list,
and what has been found is not looked into any more, so at first sight the order of the names might
decide what is found. It does not, and neither does it matter how often a name is given
(`literals_of_same_names`).

The scanners read what stands after the equals sign and nothing else (`exists_read`). A name that
holds no equals sign itself, with white space behind it, extends to the first equals sign of the
text. Hence all such names lead to the same class list or to none (`shapeAt?_unique`), even where
several of them start the text. Names with an equals sign are another matter: `a` and `a="x" b`
both start `a="x" b="y"`, and they lead to different values.
-/

namespace ClassGroups.Jsx

section Names

variable {names names' : List Text} {callee name name' s t t' : Text} {kind : LiteralKind}
  {o o' : Occurrence}

/-! ### What stands after a name -/

/-- A name without an equals sign extends to the first one, white space aside. -/
theorem exists_cutAt?_of_afterEquals? (hn : '=' ∉ name) (h : afterEquals? name s = some t) :
    ∃ front back, Text.cutAt? '=' s = some (front, back) ∧ Text.trimLeft back = t := by
  obtain ⟨head, ⟨before, after, hbefore, hafter, rfl⟩, rfl, ht⟩ := afterEquals?_eq_some_iff.mp h
  have hfront : '=' ∉ name ++ before := by
    rw [List.mem_append, not_or]
    exact ⟨hn, Text.notMem_of_blank hbefore (by decide)⟩
  have htext : name ++ before ++ '=' :: after ++ t = (name ++ before) ++ '=' :: (after ++ t) := by
    rw [List.append_assoc, List.cons_append]
  refine ⟨name ++ before, after ++ t, Text.cutAt?_eq_some_iff.mpr ⟨hfront, htext⟩, ?_⟩
  rw [Text.trimLeft_append_of_blank hafter, ht]

theorem afterEquals?_unique (hn : '=' ∉ name) (hn' : '=' ∉ name')
    (h : afterEquals? name s = some t) (h' : afterEquals? name' s = some t') : t = t' := by
  obtain ⟨front, back, hcut, ht⟩ := exists_cutAt?_of_afterEquals? hn h
  obtain ⟨front', back', hcut', ht'⟩ := exists_cutAt?_of_afterEquals? hn' h'
  -- there is one first equals sign, so what stands behind it is the same
  obtain ⟨-, rfl⟩ := Prod.mk.inj (Option.some.inj (hcut.symm.trans hcut'))
  exact ht.symm.trans ht'

/-! ### What the scanners find -/

/-- The scanners do not look at the name once they are past it. -/
theorem exists_read (callee : Text) (kind : LiteralKind) (s : Text) :
    ∃ read : Text → Option Occurrence,
      ∀ name, shapeAt? callee kind s name = (afterEquals? name s).bind read := by
  cases kind with
  | attributeValue => exact ⟨_, fun name => rfl⟩
  | helperCall => exact ⟨_, fun name => rfl⟩

/-- **At one place there is one class list to find**, whichever name leads to it. -/
theorem shapeAt?_unique (hn : '=' ∉ name) (hn' : '=' ∉ name')
    (h : shapeAt? callee kind s name = some o) (h' : shapeAt? callee kind s name' = some o') :
    o = o' := by
  obtain ⟨read, hread⟩ := exists_read callee kind s
  rw [hread] at h h'
  obtain ⟨t, ht, ho⟩ := Option.bind_eq_some_iff.mp h
  obtain ⟨t', ht', ho'⟩ := Option.bind_eq_some_iff.mp h'
  obtain rfl := afterEquals?_unique hn hn' ht ht'
  exact Option.some.inj (ho.symm.trans ho')

/-- The first name that leads to a class list is as good as any other. -/
theorem shape_eq_some_iff_exists (hn : ∀ name ∈ names, '=' ∉ name) :
    shape names callee kind s = some o
      ↔ ∃ name ∈ names, shapeAt? callee kind s name = some o := by
  constructor
  · exact List.exists_of_findSome?_eq_some
  · rintro ⟨name, hname, hat⟩
    cases hfirst : shape names callee kind s with
    | none =>
      have hnone := List.findSome?_eq_none_iff.mp hfirst name hname
      exact absurd (hat.symm.trans hnone) (Option.some_ne_none o)
    | some o' =>
      -- another name may have come first, but what it leads to is the same
      obtain ⟨name', hname', hat'⟩ := List.exists_of_findSome?_eq_some hfirst
      rw [shapeAt?_unique (hn name' hname') (hn name hname) hat' hat]

theorem shape_eq_shape (hsame : ∀ name, name ∈ names ↔ name ∈ names')
    (hn : ∀ name ∈ names, '=' ∉ name) (callee : Text) (kind : LiteralKind) :
    shape names callee kind = shape names' callee kind := by
  have hn' : ∀ name ∈ names', '=' ∉ name := by
    intro name hname
    exact hn name ((hsame name).mpr hname)
  funext s
  ext o
  rw [shape_eq_some_iff_exists hn, shape_eq_some_iff_exists hn']
  constructor
  · rintro ⟨name, hname, hat⟩
    exact ⟨name, (hsame name).mp hname, hat⟩
  · rintro ⟨name, hname, hat⟩
    exact ⟨name, (hsame name).mpr hname, hat⟩

/-- With an equals sign in a name the order matters. -/
example : shape ["a", "a=\"x\" b"] "clsx" .attributeValue "a=\"x\" b=\"y\""
    ≠ shape ["a=\"x\" b", "a"] "clsx" .attributeValue "a=\"x\" b=\"y\"" := by
  decide

end Names

/-! ### The class lists of a source -/

section Literals

variable {attributes attributes' : List Text}

/-- No names stand for the empty name, in one list as in the other. -/
theorem mem_namesTried_iff (hsame : ∀ name, name ∈ attributes ↔ name ∈ attributes')
    (name : Text) : name ∈ namesTried attributes ↔ name ∈ namesTried attributes' := by
  by_cases hempty : attributes = []
  · have hempty' : attributes' = [] := by
      rw [List.eq_nil_iff_forall_not_mem]
      intro name hname
      have hmem : name ∈ attributes := (hsame name).mpr hname
      rw [hempty] at hmem
      exact List.not_mem_nil hmem
    rw [hempty, hempty']
  · have hne' : attributes' ≠ [] := by
      obtain ⟨first, hfirst⟩ := List.exists_mem_of_ne_nil attributes hempty
      exact List.ne_nil_of_mem ((hsame first).mp hfirst)
    rw [namesTried, namesTried, if_neg (by simpa using hempty), if_neg (by simpa using hne')]
    exact hsame name

/-- **The names of attributes form a set**: the class lists of a source do not depend on the order
in which the names are given, nor on how often one is given. -/
theorem literals_of_same_names (hsame : ∀ name, name ∈ attributes ↔ name ∈ attributes')
    (hn : ∀ name ∈ attributes, '=' ∉ name) (callee source : Text) :
    literals attributes callee source = literals attributes' callee source := by
  have htried : ∀ name ∈ namesTried attributes, '=' ∉ name :=
    forall_namesTried (P := ('=' ∉ ·)) List.not_mem_nil hn
  have hshape (kind : LiteralKind) : shape (namesTried attributes) callee kind
      = shape (namesTried attributes') callee kind :=
    shape_eq_shape (mem_namesTried_iff hsame) htried callee kind
  rw [literals_eq_mergeSort, literals_eq_mergeSort, hshape, hshape]

/-- A source in which a class list follows each of two names that start alike. -/
def twoNames : Text := "<p className='flex' class = \x7b cn(\"p-2\") \x7d>"

/-- A name before a longer one, and behind it once more. -/
theorem literals_of_same_names_repeated :
    ((∀ name, name ∈ ["class".toList, "className", "class"] ↔ name ∈ defaultAttributes) ∧
      ∀ name ∈ ["class".toList, "className", "class"], '=' ∉ name) ∧
    literals ["class", "className", "class"] "cn" twoNames
      = [⟨.attributeValue, 13, 19, "flex"⟩, ⟨.helperCall, 30, 39, "p-2"⟩] := by
  have hsame : ∀ name, name ∈ ["class".toList, "className", "class"] ↔
      name ∈ defaultAttributes := by
    intro name
    simp only [defaultAttributes, List.mem_cons, List.not_mem_nil, or_false]
    tauto
  have hn : ∀ name ∈ ["class".toList, "className", "class"], '=' ∉ name := by decide
  have hreported : (reported (namesTried defaultAttributes) "cn" twoNames).map (·.literal)
      = [⟨.attributeValue, 13, 19, "flex"⟩, ⟨.helperCall, 30, 39, "p-2"⟩] := by decide +kernel
  refine ⟨⟨hsame, hn⟩, ?_⟩
  rw [literals_of_same_names hsame hn, literals_eq_of_pairwise (by rw [hreported]; decide)]
  exact hreported

end Literals

end ClassGroups.Jsx
