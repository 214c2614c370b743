import RateHerald.Proofs.Mailing.Grammar

/-!
# What becomes of a name that is shown and read again

A name is shown between quotes, and when it is read the quotes around it are taken off with the
blanks. No quote is escaped, so those that belong to the name go with the others: a name that was
typed as `" "a" "` is `"a"`, and is `a` when it is read again. The address is the same whatever the
name is, and the name is the same unless it begins or ends with a quote.

## Main declarations

* `Mailbox.Unquotes`: what is left of a name.
* `Mailbox.parse_toText_of_parse`: what is read from the shown form of a mailbox that was read.
-/

namespace RateHerald.Mailbox

variable {s : String} {m : Mailbox} {name : String}

/-! ## Names -/

/-- What is left of a name when the quotes around it are taken off, and then the blanks. -/
inductive Unquotes : Option String → Option String → Prop where
  /-- There is no name. -/
  | absent : Unquotes none none
  /-- There is one; if nothing is left of it, there is none any more. -/
  | named {name : String} {inner bare : List Char}
      (hquotes : Text.Strips (· == '"') name.toList inner)
      (hblanks : Text.Strips Text.isBlank inner bare) :
      Unquotes (some name) (if bare = [] then none else some (String.ofList bare))

/-- The mailbox has no name, or one that neither begins nor ends with a quote. -/
def IsUnquoted (m : Mailbox) : Prop :=
  ∀ name, m.name = some name → name.toList.head? ≠ some '"' ∧ name.toList.getLast? ≠ some '"'

theorem unquoted_iff {cs : List Char} : Text.strip (· == '"') cs = cs ↔
    cs.head? ≠ some '"' ∧ cs.getLast? ≠ some '"' := by
  rw [Text.strip_eq_self_iff]
  cases cs.head? <;> cases cs.getLast? <;> simp

/-- A name that was read is not empty and has no blanks at its ends. -/
theorem name_of_parse (h : parse s = .ok m) (hname : m.name = some name) :
    name.toList ≠ [] ∧ Text.trim name.toList = name.toList := by
  have hspells := parse_eq_ok_iff.1 h
  generalize Text.trim s.toList = t at hspells
  cases hspells with
  | bare => cases hname
  | @named before meant bare inner address cs hbefore hblanks hquotes hbare haddress hvalid =>
    dsimp only at hname
    split at hname
    · cases hname
    · next hfilled =>
      cases hname
      rw [String.toList_ofList]
      exact ⟨hfilled, Text.strip_eq_self hbare.head hbare.last⟩

/-- Of a name that is shown the quotes around it are taken off, its own and the others. -/
theorem meantName_shownName (name : String) : meantName (shownName (some name)) =
    let bare := Text.trim (Text.strip (· == '"') name.toList)
    if bare = [] then none else some (String.ofList bare) := by
  have htrim : Text.trim (shownName (some name)) = '"' :: (name.toList ++ ['"']) := by
    refine Text.strip_eq_iff.2 ⟨⟨[], [' '], by simp [shownName], List.forall_mem_nil _,
      List.forall_mem_singleton.2 (by decide)⟩, rfl, ?_⟩
    rw [← List.cons_append, List.getLast?_concat]
    rfl
  have hstrips : Text.Strips (· == '"') (['"'] ++ (name.toList ++ ['"']))
      (Text.strip (· == '"') name.toList) :=
    (Text.strips_strip _ name.toList).widen (by simp) (by simp)
  have hstrip : Text.strip (· == '"') ('"' :: (name.toList ++ ['"'])) =
      Text.strip (· == '"') name.toList := Text.strip_eq_iff.2 hstrips
  rw [meantName_eq, htrim, hstrip]

/-! ## Reading again -/

/-- A mailbox that was read is read again from the shown form. The address is the same. Of the name
the quotes around it are taken off once more, and then the blanks, so the mailbox is the same one
unless its name begins or ends with a quote. -/
theorem parse_toText_of_parse (h : parse s = .ok m) :
    ∃ m', parse m.toText = .ok m' ∧ m'.address = m.address ∧ Unquotes m.name m'.name ∧
      (m' = m ↔ m.IsUnquoted) := by
  refine ⟨_, parse_toText_eq (isTyped_of_parse h), rfl, ?_⟩
  obtain ⟨name, address⟩ := m
  cases name with
  | none => exact ⟨.absent, by simp [IsUnquoted, shownName, meantName_nil]⟩
  | some name =>
    obtain ⟨hfilled, htrim⟩ := name_of_parse h rfl
    rw [meantName_shownName, Mailbox.mk.injEq, and_iff_left rfl]
    refine ⟨.named (Text.strips_strip _ _) (Text.strips_strip _ _), ?_⟩
    calc (let bare := Text.trim (Text.strip (· == '"') name.toList)
          if bare = [] then none else some (String.ofList bare)) = some name
        ↔ Text.trim (Text.strip (· == '"') name.toList) = name.toList := by
          dsimp only
          split
          · next hnone => simp [hnone, Ne.symm hfilled]
          · rw [Option.some_inj, ← String.toList_inj, String.toList_ofList]
      _ ↔ Text.strip (· == '"') name.toList = name.toList :=
          ⟨Text.strip_eq_self_of_strip, fun heq => by rw [heq, htrim]⟩
      _ ↔ IsUnquoted ⟨some name, address⟩ := by
          rw [unquoted_iff]
          simp [IsUnquoted]

theorem parse_quoted : parse "\" \"a\" \" <a@b.c>" = .ok ⟨some "\"a\"", "a@b.c"⟩ :=
  parse_of_toOption (by decide +kernel)

/-- A name that was typed with quotes of its own, inside of those that are taken off. -/
theorem parse_toText_of_quoted :
    ∃ s m m', parse s = .ok m ∧ m.name = some "\"a\"" ∧ parse m.toText = .ok m' ∧
      m'.address = m.address ∧ Unquotes m.name m'.name ∧ m' ≠ m := by
  obtain ⟨m', hparse, haddress, hunquotes, hsame⟩ := parse_toText_of_parse parse_quoted
  refine ⟨_, _, m', parse_quoted, rfl, hparse, haddress, hunquotes, fun heq => ?_⟩
  exact (hsame.1 heq _ rfl).1 (by decide)

/-- Not every mailbox that was read is read again as it was. -/
theorem not_forall_parse_toText :
    ¬∀ (s : String) (m : Mailbox), parse s = .ok m → parse m.toText = .ok m := by
  intro hall
  have hagain : (parse (toText ⟨some "\"a\"", "a@b.c"⟩)).toOption ≠
      some ⟨some "\"a\"", "a@b.c"⟩ := by decide +kernel
  rw [hall _ _ parse_quoted] at hagain
  exact hagain rfl

end RateHerald.Mailbox
