import Mathlib
import RateHerald.Rates.Counts

/-!
# What a tally counts

A tally that was kept from the start matches the list of all outcomes that were counted: it has one
entry for every provider with an outcome and none for others, the entries are in the order of the
names, and the two counts of a provider are the numbers of its outcomes in the list. Looking a
provider up finds its entry because of the order, without which an entry might be hidden behind
another one of the same name.

## Main declarations

* `Tally.addAll` counts outcomes one after another.
* `Tally.Matches`: a tally counts a list of outcomes, with `Tally.Matches.addAll`.
* `Tally.get_of_mem`: looking up agrees with listing.
-/

namespace RateHerald.Tally

variable {t : Tally} {name p : String} {success : Bool} {entries : List (String × Counts)}
  {outcomes more : List (String × Bool)}

/-- Counts outcomes, each of which is the name of a provider and whether it gave a rate. -/
def addAll (t : Tally) (outcomes : List (String × Bool)) : Tally :=
  outcomes.foldl (fun t outcome => t.add outcome.1 outcome.2) t

@[simp] theorem addAll_nil (t : Tally) : t.addAll [] = t :=
  rfl

theorem addAll_append (t : Tally) (outcomes more : List (String × Bool)) :
    t.addAll (outcomes ++ more) = (t.addAll outcomes).addAll more :=
  List.foldl_append

/-! ## Entries -/

/-- Entries in the order of their names, no two of one name. -/
def IsOrdered (entries : List (String × Counts)) : Prop :=
  entries.Pairwise fun a b => a.1 < b.1

theorem IsOrdered.nodup (h : IsOrdered entries) : (entries.map Prod.fst).Nodup := by
  rw [List.Nodup, List.pairwise_map]
  exact h.imp fun hlt => ne_of_lt hlt

theorem mem_names_addTo :
    p ∈ (addTo name success entries).map Prod.fst ↔ p = name ∨ p ∈ entries.map Prod.fst := by
  induction entries with
  | nil => simp [addTo]
  | cons e rest ih =>
    rw [addTo]
    split
    · next heq =>
      subst heq
      simp
    · split
      · simp
      · simp only [List.map_cons, List.mem_cons, ih]
        exact or_left_comm

theorem IsOrdered.addTo (h : IsOrdered entries) (name : String) (success : Bool) :
    IsOrdered (addTo name success entries) := by
  induction entries with
  | nil => simp [IsOrdered, Tally.addTo]
  | cons e rest ih =>
    obtain ⟨hfirst, hrest⟩ := List.pairwise_cons.1 h
    rw [Tally.addTo]
    split
    · exact List.pairwise_cons.2 ⟨hfirst, hrest⟩
    · next hne =>
      split
      · next hlt =>
        refine List.pairwise_cons.2 ⟨?_, h⟩
        intro e' he'
        rcases List.mem_cons.1 he' with rfl | hin
        · exact hlt
        · exact String.lt_trans hlt (hfirst e' hin)
      · next hnot =>
        refine List.pairwise_cons.2 ⟨?_, ih hrest⟩
        intro e' he'
        rcases mem_names_addTo.1 (List.mem_map_of_mem he') with heq | hin
        · -- the new name stands behind the first one, since it is neither the same nor before it
          rw [heq]
          exact lt_of_le_of_ne (not_lt.1 hnot) hne
        · obtain ⟨e'', hmem, heq⟩ := List.mem_map.1 hin
          rw [← heq]
          exact hfirst e'' hmem

theorem lookup_of_mem {c : Counts} (h : IsOrdered entries) (hmem : (p, c) ∈ entries) :
    entries.lookup p = some c := by
  induction entries with
  | nil => cases hmem
  | cons e rest ih =>
    obtain ⟨hfirst, hrest⟩ := List.pairwise_cons.1 h
    rcases List.mem_cons.1 hmem with rfl | hin
    · simp
    · have hlt : e.1 < p := hfirst _ hin
      rw [List.lookup_cons, beq_eq_false_iff_ne.2 (ne_of_gt hlt)]
      exact ih hrest hin

theorem lookup_addTo (h : IsOrdered entries) :
    (addTo name success entries).lookup p =
      if p = name then some (((entries.lookup name).getD Counts.zero).add success)
      else entries.lookup p := by
  induction entries with
  | nil =>
    by_cases hp : p = name
    · simp [addTo, hp]
    · simp [addTo, hp]
  | cons e rest ih =>
    obtain ⟨first, c⟩ := e
    obtain ⟨hfirst, hrest⟩ := List.pairwise_cons.1 h
    rw [addTo]
    by_cases heq : first = name
    · subst heq
      by_cases hp : p = first
      · simp [hp]
      · simp [hp, List.lookup_cons, beq_eq_false_iff_ne.2 hp]
    · rw [if_neg heq]
      by_cases hlt : name < first
      · -- the new name stands before all others, so none of them is it
        have habsent : List.lookup name ((first, c) :: rest) = none := by
          rw [List.lookup_eq_none_iff]
          intro e he
          rw [bne_iff_ne]
          rcases List.mem_cons.1 he with rfl | hin
          · exact ne_of_lt hlt
          · exact ne_of_lt (String.lt_trans hlt (hfirst e hin))
        by_cases hp : p = name
        · simp [hlt, hp, habsent]
        · simp [hlt, hp, List.lookup_cons, beq_eq_false_iff_ne.2 hp]
      · rw [if_neg hlt, List.lookup_cons, List.lookup_cons, List.lookup_cons,
          beq_eq_false_iff_ne.2 (Ne.symm heq), ih hrest]
        by_cases hp : p = first
        · have hne : first ≠ name := heq
          simp [hp, hne]
        · simp [beq_eq_false_iff_ne.2 hp]

/-- One more outcome is counted. -/
theorem sum_addTo :
    ((addTo name success entries).map fun e => e.2.fetched + e.2.failed).sum =
      (entries.map fun e => e.2.fetched + e.2.failed).sum + 1 := by
  have hadd : ∀ c : Counts, (c.add success).fetched + (c.add success).failed =
      c.fetched + c.failed + 1 := by
    intro c
    cases success <;> simp [Counts.add] <;> omega
  induction entries with
  | nil => simp [addTo, hadd, Counts.zero]
  | cons e rest ih =>
    rw [addTo]
    split
    · simp [hadd]
      omega
    · split
      · simp [hadd, Counts.zero]
        omega
      · simp [ih]
        omega

/-! ## Tallies and outcomes -/

theorem get_add (h : IsOrdered t.entries) :
    (t.add name success).get p = if p = name then (t.get name).add success else t.get p := by
  rw [get, add, lookup_addTo h]
  split <;> rfl

/-- Looking a provider up finds the counts that are listed. -/
theorem get_of_mem {c : Counts} (h : IsOrdered t.entries) (hmem : (p, c) ∈ t.entries) :
    t.get p = c := by
  rw [get, lookup_of_mem h hmem, Option.getD_some]

/-- The tally counts exactly these outcomes. -/
structure Matches (t : Tally) (outcomes : List (String × Bool)) : Prop where
  /-- The entries are in the order of their names. -/
  ordered : IsOrdered t.entries
  /-- The counts of a provider are the numbers of its outcomes. -/
  get : ∀ p, t.get p = ⟨outcomes.count (p, true), outcomes.count (p, false)⟩
  /-- Every provider with an outcome has an entry, and no other. -/
  names : ∀ p, p ∈ t.entries.map Prod.fst ↔ ∃ success, (p, success) ∈ outcomes
  /-- All counts together are the number of all outcomes. -/
  sum : (t.entries.map fun e => e.2.fetched + e.2.failed).sum = outcomes.length

theorem matches_empty : empty.Matches [] where
  ordered := .nil
  get _ := rfl
  names p := by simp [empty]
  sum := rfl

theorem Matches.add (h : t.Matches outcomes) (name : String) (success : Bool) :
    (t.add name success).Matches (outcomes ++ [(name, success)]) where
  ordered := h.ordered.addTo name success
  get p := by
    rw [get_add h.ordered, List.count_append, List.count_append, h.get, h.get]
    by_cases hp : p = name
    · subst hp
      cases success <;> simp [Counts.add]
    · have hne : name ≠ p := fun heq => hp heq.symm
      simp [hp, hne]
  names p := by
    rw [Tally.add, mem_names_addTo, h.names]
    simp only [List.mem_append, List.mem_singleton, Prod.mk.injEq, exists_or]
    rw [or_comm]
    simp
  sum := by
    rw [Tally.add, sum_addTo, h.sum, List.length_append, List.length_singleton]

theorem Matches.addAll (h : t.Matches outcomes) (more : List (String × Bool)) :
    (t.addAll more).Matches (outcomes ++ more) := by
  induction more generalizing t outcomes with
  | nil => rwa [addAll_nil, List.append_nil]
  | cons outcome rest ih =>
    have hrest := ih (h.add outcome.1 outcome.2)
    rwa [List.append_assoc, List.singleton_append] at hrest

end RateHerald.Tally
