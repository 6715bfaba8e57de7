import ClassGroups.Proofs.Mapping
import ClassGroups.Proofs.Settled
import ClassGroups.Proofs.Tokens

/-!
# Only the tokens of a class list matter

White space separates the tokens of a class list and has no other meaning, with one exception: the
gate keeps a list with a newline. So two class lists without newlines that have the same tokens are
treated alike. They pass the gate together, and where they do, their formattings are the same
(`format_eq_of_tokenize_eq`).

The command `group` has no gate. It joins its arguments by spaces, which is to put their tokens one
after the other (`tokenize_intercalate_space`). So it does not matter how the tokens are spread over
the arguments, and what is printed is a function of the tokens alone (`runGroup_eq`).
-/

namespace ClassGroups

/-! ### Formatting -/

section Format

variable {s t : Text}

theorem group_eq_of_tokenize_eq (h : tokenize s = tokenize t) : group s = group t := by
  rw [group, group, h]

/-- The gate looks at the tokens and for a newline. -/
theorem gate_eq_of_tokenize_eq (hs : '\n' ∉ s) (ht : '\n' ∉ t) (h : tokenize s = tokenize t)
    (threshold : Nat) : gate threshold s = gate threshold t := by
  rw [gate, gate, if_neg hs, if_neg ht, h, group_eq_of_tokenize_eq h]

/-- **Formatting looks at the tokens only**, unless it leaves the class list as it is. -/
theorem format_eq_of_tokenize_eq (hs : '\n' ∉ s) (ht : '\n' ∉ t) (h : tokenize s = tokenize t)
    {o : Options} (hchanged : (format o s).changed = true) : format o s = format o t := by
  have hgate : gate o.minTokens s = none := changed_iff.mp hchanged
  have hgate' : gate o.minTokens t = none := gate_eq_of_tokenize_eq hs ht h _ ▸ hgate
  calc format o s = .regrouped (group s) (render o.toStyle (group s)) :=
        format_of_gate_eq_none hgate
    _ = .regrouped (group t) (render o.toStyle (group t)) := by rw [group_eq_of_tokenize_eq h]
    _ = format o t := (format_of_gate_eq_none hgate').symm

end Format

/-! ### The command -/

namespace Command

section Group

variable {arguments arguments' classes classes' : List Text}

/-- **What the command prints** is a function of the tokens. -/
theorem runGroup_eq (classes : List Text) :
    runGroup classes
      = { output := (groupTokens (classes.flatMap tokenize)).toJson.pretty "  "
            ++ Text.newline } := by
  rw [runGroup, ClassGroups.group, tokenize_intercalate_space]

/-- **Two runs of the command** with the same tokens have the same outcome, however the tokens are
spread over the arguments, and whatever stands on the input. -/
theorem run_eq_of_flatMap_tokenize_eq (h : AsksForGroups arguments classes)
    (h' : AsksForGroups arguments' classes')
    (htokens : classes.flatMap tokenize = classes'.flatMap tokenize) (env : Environment)
    (definitions input input' : Text) :
    run arguments env definitions input = run arguments' env definitions input' := by
  cases henv : env.withDefinitions definitions with
  | ok env' => rw [run_group h henv, run_group h' henv, runGroup_eq, runGroup_eq, htokens]
  | error e =>
    -- the arguments are not looked at
    unfold run
    rw [henv]

end Group

end Command

/-! ### Both -/

open Command in
/-- **Only the tokens matter.** Two class lists without newlines that have the same tokens are
judged alike by the gate, and are formatted alike if they are changed. Joining texts by spaces puts
their tokens one after the other, so two runs of the command `group` do not differ if the tokens of
their arguments do not. -/
theorem only_tokens_matter :
    (∀ (o : Options) (s t : Text), '\n' ∉ s → '\n' ∉ t → tokenize s = tokenize t →
      gate o.minTokens s = gate o.minTokens t ∧
      (format o s).changed = (format o t).changed ∧
      ((format o s).changed = true →
        (format o s).text = (format o t).text ∧
        (format o s).grouping = (format o t).grouping)) ∧
    (∀ texts, tokenize (Text.intercalate " " texts) = texts.flatMap tokenize) ∧
    (∀ classes, classes ≠ [] →
      AsksForGroups ("group".toList :: "--".toList :: classes) classes) ∧
    ∀ arguments arguments' classes classes', AsksForGroups arguments classes →
      AsksForGroups arguments' classes' →
      classes.flatMap tokenize = classes'.flatMap tokenize →
      ∀ env definitions input input',
        run arguments env definitions input = run arguments' env definitions input' := by
  refine ⟨?_, tokenize_intercalate_space, ?_, ?_⟩
  · intro o s t hs ht h
    have hgate := gate_eq_of_tokenize_eq hs ht h o.minTokens
    have hchanged : (format o s).changed = (format o t).changed := by
      rw [Bool.eq_iff_iff, changed_iff, changed_iff, hgate]
    refine ⟨hgate, hchanged, ?_⟩
    intro hformat
    rw [format_eq_of_tokenize_eq hs ht h hformat]
    exact ⟨rfl, rfl⟩
  · intro classes hclasses
    exact asksForGroups_separator hclasses
  · intro arguments arguments' classes classes' h h' htokens env definitions input input'
    exact run_eq_of_flatMap_tokenize_eq h h' htokens env definitions input input'

/-- A class list with a tab and with spaces around it, and the same tokens in one argument and in
two, of which one holds a newline. -/
theorem only_tokens_matter_tab :
    ('\n' ∉ "\tmt-4 flex\t\tp-2 text-sm ".toList ∧ '\n' ∉ "mt-4 flex p-2 text-sm".toList ∧
      tokenize "\tmt-4 flex\t\tp-2 text-sm " = tokenize "mt-4 flex p-2 text-sm") ∧
    ((format default "\tmt-4 flex\t\tp-2 text-sm ").changed = true ∧
      (format default "\tmt-4 flex\t\tp-2 text-sm ").text
        = (format default "mt-4 flex p-2 text-sm").text) ∧
    Command.run ["group", "--", "-mt-4 flex"] [] [] []
      = Command.run ["group", "--", "-mt-4\n", " flex"] [] [] "p-2" := by
  have hs : '\n' ∉ "\tmt-4 flex\t\tp-2 text-sm ".toList := by decide
  have ht : '\n' ∉ "mt-4 flex p-2 text-sm".toList := by decide
  have htokens : tokenize "\tmt-4 flex\t\tp-2 text-sm " = tokenize "mt-4 flex p-2 text-sm" := by
    decide +kernel
  have hchanged : (format default "\tmt-4 flex\t\tp-2 text-sm ").changed = true := by
    decide +kernel
  have hcut : ["-mt-4 flex".toList].flatMap tokenize
      = ["-mt-4\n".toList, " flex".toList].flatMap tokenize := by decide +kernel
  obtain ⟨hformat, -, hasks, hrun⟩ := only_tokens_matter
  exact ⟨⟨hs, ht, htokens⟩, ⟨hchanged, ((hformat _ _ _ hs ht htokens).2.2 hchanged).1⟩,
    hrun _ _ _ _ (hasks _ (by simp)) (hasks _ (by simp)) hcut [] [] [] "p-2"⟩

end ClassGroups
