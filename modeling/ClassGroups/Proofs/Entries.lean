import ClassGroups.Proofs.Classification
import ClassGroups.Proofs.Scanning

/-!
# Which entries of the category table are effective

The first rule with a matcher for a class claims it, so an entry of the table has its effect only if
no earlier rule claims the classes that it is meant for. For an entry that may be followed by any
suffix this cannot be tried out. But a matcher accepts a class only if the class, with a hyphen
behind it, starts with one of the names of the matcher and a hyphen
(`exists_name_of_accepts`), and of two texts that start the same class one starts with the other. So
it is enough to compare the names with each other, which are finitely many (`avoids_earlier`).

The outcome is `classify_entry_iff`: every entry is effective for all suffixes, except for one.
`bg-blend` is listed behind the stem `bg`, which claims all of its classes.

The last section is about the entries that are families of variants: which variants of a marked
parent or sibling are states (`classify_relational_iff`).
-/

namespace ClassGroups

/-! ### Entries -/

namespace Matcher

/-- The names to which a suffix may be added. -/
def stemNames : Matcher → List String
  | stems names _ => names
  | _ => []

/-- The names of classes that are accepted as they stand. -/
def wordNames : Matcher → List String
  | stems names true => names
  | words names => names
  | _ => []

/-- All names for plain classes. -/
def utilityNames : Matcher → List String
  | stems names _ => names
  | words names => names
  | variants .. => []

/-- The names of variants. -/
def variantNames : Matcher → List String
  | variants names _ => names
  | _ => []

end Matcher

namespace Category

/-- The stems that are listed under a category. -/
def stems (c : Category) : List String := c.matchers.flatMap (·.stemNames)

/-- The words and the bare stems that are listed under a category. -/
def words (c : Category) : List String := c.matchers.flatMap (·.wordNames)

/-- All names for plain classes that are listed under a category. -/
def utilities (c : Category) : List String := c.matchers.flatMap (·.utilityNames)

/-- The variants that are listed under a category. -/
def variants (c : Category) : List String := c.matchers.flatMap (·.variantNames)

end Category

/-! ### Names that start the same class -/

/-- Whether one of two texts starts with the other. Characters are compared by their numbers, which
is decided faster. -/
def comparable : Text → Text → Bool
  | [], _ => true
  | _, [] => true
  | c :: a, d :: b => Nat.beq c.toNat d.toNat && comparable a b

theorem comparable_of_prefix {a b : Text} (h : a <+: b ∨ b <+: a) : comparable a b = true := by
  fun_induction comparable a b with
  | case1 => rfl
  | case2 => rfl
  | case3 c a d b ih =>
    rw [List.cons_prefix_cons, List.cons_prefix_cons] at h
    have hcd : c = d := h.elim (·.1) (·.1.symm)
    rw [ih (h.imp And.right And.right), hcd, Nat.beq_refl, Bool.and_true]

/-- A name with the hyphen that separates it from a suffix. -/
def hyphened (name : String) : Text := name.toList ++ ['-']

/-- Whether no class can start with a name and with one of a category. -/
def Category.avoids (c : Category) (name : String) : Bool :=
  c.utilities.all fun n => !comparable (hyphened name) (hyphened n)

section Accepts

variable {m : Matcher} {c d : Category} {name : String} {s x : Text}

/-- **What a matcher accepts**, with a hyphen behind it, starts with a name of the matcher and a
hyphen. -/
theorem exists_name_of_accepts (hm : m.forVariants = false) (h : m.accepts s = true) :
    ∃ n ∈ m.utilityNames, hyphened n <+: s ++ ['-'] := by
  cases m with
  | stems names bare =>
    obtain ⟨n, hn, hclaim⟩ := List.any_eq_true.mp h
    refine ⟨n, hn, ?_⟩
    rcases Bool.or_eq_true_iff.mp hclaim with hstem | hbare
    · obtain ⟨rest, hrest, -⟩ := (Option.any_eq_true _ _).mp hstem
      rw [Text.eq_append_of_after? hrest, List.append_assoc]
      exact List.prefix_append _ _
    · obtain rfl : n.toList = s := beq_iff_eq.mp (Bool.and_eq_true_iff.mp hbare).2
      exact List.prefix_rfl
  | words names =>
    obtain ⟨n, hn, hword⟩ := List.any_eq_true.mp h
    obtain rfl : n.toList = s := beq_iff_eq.mp hword
    exact ⟨n, hn, List.prefix_rfl⟩
  | variants names family => exact absurd hm (by simp [Matcher.forVariants])

/-- A category does not claim a class that starts with a name which it avoids. -/
theorem claims_eq_false_of_avoids (hs : hyphened name <+: s ++ ['-'])
    (h : d.avoids name = true) : d.claims false s = false := by
  rw [← Bool.not_eq_true]
  intro hclaims
  obtain ⟨m, hm, haccepts⟩ := List.any_eq_true.mp hclaims
  obtain ⟨hkind, haccepts⟩ := Bool.and_eq_true_iff.mp haccepts
  obtain ⟨n, hn, hprefix⟩ := exists_name_of_accepts (beq_iff_eq.mp hkind) haccepts
  -- both names start the same text
  have hcomparable : comparable (hyphened name) (hyphened n) = true :=
    comparable_of_prefix (List.prefix_or_prefix_of_prefix hs hprefix)
  have havoids := List.all_eq_true.mp h n (List.mem_flatMap.mpr ⟨m, hm, hn⟩)
  rw [hcomparable] at havoids
  exact absurd havoids (by simp)

theorem claims_of_mem_stems (hname : name ∈ c.stems) (hne : x ≠ []) (hline : '\n' ∉ x) :
    c.claims false (name.toList ++ '-' :: x) = true := by
  obtain ⟨m, hm, hmem⟩ := List.mem_flatMap.mp hname
  have hsuffix : isSuffix x = true := by
    rw [isSuffix, Bool.and_eq_true, List.all_eq_true]
    exact ⟨by simpa using hne, fun c hc => bne_iff_ne.mpr fun h => hline (h ▸ hc)⟩
  have hstem : hasStem name (name.toList ++ '-' :: x) = true := by
    have hafter := Text.after?_append (name.toList ++ ['-']) x
    rw [List.append_assoc, List.singleton_append] at hafter
    rw [hasStem, hafter]
    exact hsuffix
  refine List.any_eq_true.mpr ⟨m, hm, ?_⟩
  cases m with
  | stems names bare =>
    exact List.any_eq_true.mpr ⟨name, hmem, by rw [hstem, Bool.true_or]⟩
  | words names => exact absurd hmem List.not_mem_nil
  | variants names family => exact absurd hmem List.not_mem_nil

theorem claims_of_mem_words (hname : name ∈ c.words) : c.claims false name.toList = true := by
  obtain ⟨m, hm, hmem⟩ := List.mem_flatMap.mp hname
  refine List.any_eq_true.mpr ⟨m, hm, ?_⟩
  cases m with
  | stems names bare =>
    cases bare with
    | true => exact List.any_eq_true.mpr ⟨name, hmem, by simp⟩
    | false => exact absurd hmem List.not_mem_nil
  | words names => exact List.any_eq_true.mpr ⟨name, hmem, beq_self_eq_true _⟩
  | variants names family => exact absurd hmem List.not_mem_nil

end Accepts

/-! ### The names of the table -/

/-- **The earlier categories avoid the names of a category**, except for one. -/
theorem avoids_earlier : ∀ c ∈ Category.all, ∀ name ∈ c.utilities, name ≠ "bg-blend" →
    ∀ d ∈ c.earlier, d.avoids name = true := by
  decide +kernel

/-- A name starts with a letter and has no colon. -/
theorem plain_utilities : ∀ c ∈ Category.all, ∀ name ∈ c.utilities,
    name.toList.head?.any Char.isAlpha = true ∧ ':' ∉ name.toList := by
  decide +kernel

/-- A listed variant has no colon and no bracket. -/
theorem plain_variants : ∀ c ∈ Category.all, ∀ v ∈ c.variants,
    v.toList ≠ [] ∧ ':' ∉ v.toList ∧ '[' ∉ v.toList ∧ ']' ∉ v.toList := by
  decide +kernel

/-- The category of a listed variant is the first to claim it. -/
theorem lookUp_variants : ∀ c ∈ Category.all, ∀ v ∈ c.variants, lookUp true v.toList = c := by
  decide +kernel

/-! ### Which entries are effective -/

section Effective

variable {c : Category} {name : String} {s t x : Text}

/-- A sign is only taken off in front of a class. -/
theorem bare_of_isAlpha (h : s.head?.any Char.isAlpha = true) : bare s = s := by
  cases s with
  | nil => rfl
  | cons d s =>
    have halpha : d.isAlpha = true := h
    have hmark : d ≠ '!' := by
      rintro rfl
      exact absurd halpha (by decide)
    have hminus : d ≠ '-' := by
      rintro rfl
      exact absurd halpha (by decide)
    rw [bare, bare.dropSign, if_neg hmark, bare.dropSign, if_neg hminus]

/-- **A name is effective** in a class that its category claims, whether it stands alone or before a
suffix, as no earlier category has a say. -/
theorem classify_name (hname : name ∈ c.utilities) (hne : name ≠ "bg-blend")
    (ht : hyphened name <+: name.toList ++ t ++ ['-']) (hcolon : ':' ∉ t)
    (hclaims : c.claims false (name.toList ++ t) = true) : classify (name.toList ++ t) = c := by
  obtain ⟨hhead, hplain⟩ := plain_utilities c (Category.mem_all c) name hname
  -- the name starts with a letter, so no sign is taken off
  have hbare : bare (name.toList ++ t) = name.toList ++ t := by
    refine bare_of_isAlpha ?_
    rw [List.head?_append]
    cases hn : name.toList.head? with
    | none => rw [hn] at hhead; exact absurd hhead Bool.false_ne_true
    | some d => rw [hn] at hhead; exact hhead
  have hvariant : splitVariant (name.toList ++ t) = (none, name.toList ++ t) :=
    splitVariant_of_notMem fun hmem => (List.mem_append.mp hmem).elim hplain hcolon
  rw [classify_of_splitVariant_eq_none hvariant, hbare]
  exact lookUp_eq_of_claims hclaims fun d hd =>
    claims_eq_false_of_avoids ht (avoids_earlier c (Category.mem_all c) name hname hne d hd)

theorem Matcher.stemNames_subset (m : Matcher) : m.stemNames ⊆ m.utilityNames := by
  cases m <;> simp [stemNames, utilityNames]

theorem Matcher.wordNames_subset (m : Matcher) : m.wordNames ⊆ m.utilityNames := by
  unfold wordNames
  split <;> simp [utilityNames]

theorem mem_utilities_of_mem_stems (h : name ∈ c.stems) : name ∈ c.utilities := by
  obtain ⟨m, hm, hmem⟩ := List.mem_flatMap.mp h
  exact List.mem_flatMap.mpr ⟨m, hm, m.stemNames_subset hmem⟩

theorem mem_utilities_of_mem_words (h : name ∈ c.words) : name ∈ c.utilities := by
  obtain ⟨m, hm, hmem⟩ := List.mem_flatMap.mp h
  exact List.mem_flatMap.mpr ⟨m, hm, m.wordNames_subset hmem⟩

/-- A suffix without white space and colons, given by a test of its characters. -/
theorem plain_of_all (h : x.all (fun d => !isBlank d && d != ':') = true) :
    ∀ d ∈ x, isBlank d = false ∧ d ≠ ':' := by
  simpa using h

theorem classify_stem (hname : name ∈ c.stems) (hne : name ≠ "bg-blend") (hx : x ≠ [])
    (hplain : ∀ d ∈ x, isBlank d = false ∧ d ≠ ':') :
    classify (name.toList ++ '-' :: x) = c := by
  -- a suffix stays on one line, as the newline is white space
  have hline : '\n' ∉ x := fun hmem => absurd isBlank_newline (by simp [(hplain _ hmem).1])
  have hcolon : ':' ∉ '-' :: x := by
    intro hmem
    rcases List.mem_cons.mp hmem with heq | hmem
    · exact absurd heq (by decide)
    · exact (hplain _ hmem).2 rfl
  have hcut : name.toList ++ '-' :: x ++ ['-'] = hyphened name ++ (x ++ ['-']) := by
    simp [hyphened]
  refine classify_name (mem_utilities_of_mem_stems hname) hne ?_ hcolon
    (claims_of_mem_stems hname hx hline)
  rw [hcut]
  exact List.prefix_append _ _

theorem classify_word (hname : name ∈ c.words) (hne : name ≠ "bg-blend") :
    classify name.toList = c := by
  have hword := classify_name (t := []) (mem_utilities_of_mem_words hname) hne
  simp only [List.append_nil] at hword
  exact hword List.prefix_rfl List.not_mem_nil (claims_of_mem_words hname)

theorem classify_variant (hname : name ∈ c.variants) (r : Text) :
    classify (name.toList ++ ':' :: r) = c := by
  obtain ⟨hne, hcolon, hopen, hclose⟩ := plain_variants c (Category.mem_all c) name hname
  have hvariant : IsVariant name.toList := isVariant_of_notMem hne hcolon hopen hclose
  rw [classify_of_splitVariant_eq_some (hvariant.splitVariant_eq r)]
  exact lookUp_variants c (Category.mem_all c) name hname

/-- What starts with `bg-blend` is a class of the stem `bg`, which belongs to another category. -/
theorem classify_bgBlend (hplain : ∀ d ∈ t, isBlank d = false ∧ d ≠ ':') :
    classify ("bg-blend".toList ++ t) = .background := by
  have hstem : "bg" ∈ Category.background.stems := by decide
  have hcut : "bg-blend".toList = "bg".toList ++ '-' :: "blend".toList := by decide
  -- read as a class of `bg`, it has a suffix that starts with `blend`
  rw [hcut, List.append_assoc, List.cons_append]
  refine classify_stem hstem (by decide) (by simp) fun d hd => ?_
  rcases List.mem_append.mp hd with hd | hd
  · exact plain_of_all (x := "blend") (by decide) d hd
  · exact hplain d hd

theorem ne_background_of_mem (h : "bg-blend" ∈ c.utilities) : c ≠ .background := by
  rintro rfl
  exact absurd h (by decide)

end Effective

/-- **Every entry but one is effective** under the precedence of the table. A stem gives its
category to all classes with a suffix, a word or a bare stem to itself, and a variant to all classes
that have it. The one entry without effect is `bg-blend`, as a stem and alone. -/
theorem classify_entry_iff (c : Category) :
    (∀ name ∈ c.stems, ∀ x : Text, x ≠ [] → (∀ d ∈ x, isBlank d = false ∧ d ≠ ':') →
      (classify (name.toList ++ '-' :: x) = c ↔ name ≠ "bg-blend")) ∧
    (∀ name ∈ c.words, classify name.toList = c ↔ name ≠ "bg-blend") ∧
    ∀ v ∈ c.variants, ∀ r : Text, classify (v.toList ++ ':' :: r) = c := by
  refine ⟨fun name hname x hx hplain => ⟨?_, fun hne => classify_stem hname hne hx hplain⟩,
    fun name hname => ⟨?_, fun hne => classify_word hname hne⟩,
    fun v hv r => classify_variant hv r⟩
  · rintro hclassify rfl
    have hsuffix : ∀ d ∈ '-' :: x, isBlank d = false ∧ d ≠ ':' :=
      List.forall_mem_cons.mpr ⟨by decide, hplain⟩
    exact ne_background_of_mem (mem_utilities_of_mem_stems hname)
      (hclassify.symm.trans (classify_bgBlend hsuffix))
  · rintro hclassify rfl
    exact ne_background_of_mem (mem_utilities_of_mem_words hname)
      (hclassify.symm.trans (classify_bgBlend (t := []) (plain_of_all rfl)))

/-- A stem of the last rule for plain classes, the bare stem, and a variant of the last rule. -/
theorem classify_entry_iff_dropShadow :
    classify "drop-shadow-[0_1px_red]" = .effects ∧ classify "drop-shadow" = .effects ∧
    classify "max-2xl:bg-[a:b]" = .responsive ∧ classify "bg-blend-multiply" ≠ .effects := by
  obtain ⟨hstems, hwords, -⟩ := classify_entry_iff .effects
  obtain ⟨-, -, hvariants⟩ := classify_entry_iff .responsive
  refine ⟨?_, ?_, hvariants "max-2xl" (by decide) "bg-[a:b]", ?_⟩
  · have hplain : ∀ d ∈ "[0_1px_red]".toList, isBlank d = false ∧ d ≠ ':' :=
      plain_of_all (by decide)
    exact (hstems "drop-shadow" (by decide) _ (List.cons_ne_nil _ _) hplain).mpr (by decide)
  · exact (hwords "drop-shadow" (by decide)).mpr (by decide)
  · have hplain : ∀ d ∈ "multiply".toList, isBlank d = false ∧ d ≠ ':' := plain_of_all (by decide)
    intro h
    exact (hstems "bg-blend" (by decide) _ (List.cons_ne_nil _ _) hplain).mp h rfl

/-- The stem `bg-blend` is listed under the effects and does not reach them. -/
theorem classify_ne_blendMode :
    ¬∀ c : Category, ∀ name ∈ c.stems, ∀ x : Text, x ≠ [] →
      (∀ d ∈ x, isBlank d = false ∧ d ≠ ':') → classify (name.toList ++ '-' :: x) = c := by
  intro h
  have heffects := h .effects "bg-blend" (by decide) "multiply" (List.cons_ne_nil _ _)
    (plain_of_all (by decide))
  have hbackground : classify ("bg-blend".toList ++ "-multiply".toList) = .background :=
    classify_bgBlend (plain_of_all (by decide))
  exact absurd (hbackground.symm.trans heffects) (by decide)

/-! ### Variants of a marked parent or sibling -/

/-- **A relational variant**: the mark of a parent or a sibling and a selector. -/
def IsRelational (v selector : Text) : Prop :=
  v = "group-" ++ selector ∨ v = "peer-" ++ selector

section Relational

variable {v selector : Text}

theorem contains_relational (h : IsRelational v selector) :
    VariantFamily.relational.contains v = isSelector selector := by
  rcases h with rfl | rfl
  · exact Bool.or_false (isSelector selector)
  · exact Bool.false_or (isSelector selector)

/-- The states claim the relational variants with a selector of admitted characters, and no category
claims any other one. -/
theorem claims_relational (h : IsRelational v selector) (c : Category) :
    c.claims true v = (c == .states && isSelector selector) := by
  cases c with
  | states =>
    -- no name of a state is a relational variant, so this is left to the family
    have hnames : Category.states.claims true v
        = ((false || VariantFamily.relational.contains v) || false) := by
      rcases h with rfl | rfl <;> rfl
    rw [hnames, contains_relational h, Bool.false_or, Bool.or_false]
    rfl
  | text | responsive => rcases h with rfl | rfl <;> rfl
  | size | layout | spacing | border | background | effects | other => rfl

theorem lookUp_relational (h : IsRelational v selector) :
    lookUp true v = if isSelector selector then .states else .other := by
  have hclaims := claims_relational h
  by_cases hselector : isSelector selector = true
  · rw [if_pos hselector]
    refine lookUp_eq_of_claims (by rw [hclaims, hselector]; rfl) fun d hd => ?_
    have hne : ∀ d ∈ Category.states.earlier, (d == .states) = false := by decide
    rw [hclaims, hne d hd, Bool.false_and]
  · -- no category claims the variant, which leaves the default
    rw [if_neg hselector]
    rcases claims_or_eq_other true v with hclaimed | hother
    · rw [hclaims] at hclaimed
      exact absurd (Bool.and_eq_true_iff.mp hclaimed).2 hselector
    · exact hother

theorem isSelectorChar_iff {c : Char} :
    isSelectorChar c = true ↔ isWord c = true ∨ c ∈ "-[]/=.".toList := by
  simp [isSelectorChar, or_assoc]

theorem isSelector_iff (hne : selector ≠ []) :
    isSelector selector = true ↔ ∀ c ∈ selector, isWord c = true ∨ c ∈ "-[]/=.".toList := by
  simp only [← isSelectorChar_iff]
  rw [isSelector, Bool.and_eq_true, List.all_eq_true]
  exact and_iff_right (by simpa using hne)

end Relational

/-- **Which relational variants are states**: a class whose variant is the mark of a parent or a
sibling and a selector belongs to the states exactly if the selector consists of word characters,
hyphens, square brackets, slashes, equality signs and dots, and to `other` if it does not. -/
theorem classify_relational_iff {token v selector r : Text}
    (hsplit : splitVariant token = (some v, r)) (hv : IsRelational v selector)
    (hne : selector ≠ []) :
    (classify token = .states ↔ ∀ c ∈ selector, isWord c = true ∨ c ∈ "-[]/=.".toList) ∧
    (classify token ≠ .states → classify token = .other) := by
  have hclassify : classify token = if isSelector selector then .states else .other :=
    (classify_of_splitVariant_eq_some hsplit).trans (lookUp_relational hv)
  rw [← isSelector_iff hne, hclassify]
  by_cases hselector : isSelector selector = true
  · simp [hselector]
  · simp [hselector]

/-- A marked parent with a class, and a marked sibling with a pseudo-class. -/
theorem classify_relational_iff_pseudoClass :
    splitVariant "group-[.is-open]/menu:flex"
      = (some "group-[.is-open]/menu".toList, "flex".toList) ∧
    classify "group-[.is-open]/menu:flex" = .states ∧
    splitVariant "peer-has-[:checked]:flex" = (some "peer-has-[:checked]".toList, "flex".toList) ∧
    classify "peer-has-[:checked]:flex" = .other := by
  have hmenu : splitVariant "group-[.is-open]/menu:flex"
      = (some "group-[.is-open]/menu".toList, "flex".toList) := by decide
  have hpseudo : splitVariant "peer-has-[:checked]:flex"
      = (some "peer-has-[:checked]".toList, "flex".toList) := by decide
  have hgroup : IsRelational "group-[.is-open]/menu" "[.is-open]/menu" := .inl rfl
  have hpeer : IsRelational "peer-has-[:checked]" "has-[:checked]" := .inr rfl
  obtain ⟨hstates, -⟩ := classify_relational_iff hmenu hgroup (List.cons_ne_nil _ _)
  obtain ⟨hstates', hother⟩ := classify_relational_iff hpseudo hpeer (List.cons_ne_nil _ _)
  -- the colon is not admitted
  have hcolon : ':' ∈ "has-[:checked]".toList := by decide
  have hselector : isSelector "[.is-open]/menu" = true := by decide
  refine ⟨hmenu, hstates.mpr ((isSelector_iff (List.cons_ne_nil _ _)).mp hselector), hpseudo,
    hother fun h => ?_⟩
  exact absurd (hstates'.mp h ':' hcolon) (by decide)

/-- The colon of a pseudo-class keeps its variant from being a state. -/
theorem not_classify_relational_pseudoClass :
    ¬∀ token v selector r : Text, (∀ c ∈ token, isBlank c = false) →
      splitVariant token = (some v, r) → IsRelational v selector → selector ≠ [] →
      classify token = .states := by
  intro h
  have hblank : ∀ c ∈ "group-has-[:checked]:flex".toList, isBlank c = false := by
    have hall : "group-has-[:checked]:flex".toList.all (!isBlank ·) = true := by decide
    exact fun c hc => by simpa using List.all_eq_true.mp hall c hc
  have hsplit : splitVariant "group-has-[:checked]:flex"
      = (some "group-has-[:checked]".toList, "flex".toList) := by decide
  have hgroup : IsRelational "group-has-[:checked]" "has-[:checked]" := .inl rfl
  have hstates := h _ _ _ _ hblank hsplit hgroup (List.cons_ne_nil _ _)
  rw [classify_of_splitVariant_eq_some hsplit, lookUp_relational hgroup] at hstates
  exact absurd hstates (by decide)

end ClassGroups
