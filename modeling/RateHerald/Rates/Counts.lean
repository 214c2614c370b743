import RateHerald.Json.Written

/-!
# Success and failure counts

For every provider that has been asked it is counted how often it gave a rate and how often it
failed. Providers are listed in the order of their names.

## Main declarations

* `Counts` are the two counts of one provider.
* `Tally` holds the counts of all providers; `Tally.add` counts one more outcome.
-/

namespace RateHerald

/-- How often a provider gave a rate, and how often it failed. -/
structure Counts where
  /-- How often there was a rate. -/
  fetched : Nat
  /-- How often there was none. -/
  failed : Nat
deriving Repr, DecidableEq

namespace Counts

/-- No outcome yet. -/
def zero : Counts :=
  ⟨0, 0⟩

/-- The counts with one more outcome. -/
def add (c : Counts) (success : Bool) : Counts :=
  if success then { c with fetched := c.fetched + 1 } else { c with failed := c.failed + 1 }

/-- The number of all outcomes. It is kept in a word of 64 bits, so it starts over at `UInt64.size`.
-/
def total (c : Counts) : Nat :=
  (c.fetched + c.failed) % UInt64.size

/-- The share of outcomes that were rates, if there is an outcome. -/
def successRate (c : Counts) : Option Float :=
  if c.total = 0 then none else some (Float.ofNat c.fetched / Float.ofNat c.total)

/-- The record of the counts. -/
def toJson (c : Counts) : Json :=
  .object [("fetched", .natural c.fetched), ("failed", .natural c.failed)]

end Counts

/-- The counts of all providers that have been asked, in the order of their names. -/
structure Tally where
  /-- Names and counts. -/
  entries : List (String × Counts)
deriving Repr, DecidableEq

namespace Tally

/-- Nobody has been asked. -/
def empty : Tally :=
  ⟨[]⟩

/-- Counts one more outcome in an ordered list of entries. -/
def addTo (provider : String) (success : Bool) : List (String × Counts) → List (String × Counts)
  | [] => [(provider, Counts.zero.add success)]
  | (name, c) :: rest =>
    if name = provider then (name, c.add success) :: rest
    else if provider < name then (provider, Counts.zero.add success) :: (name, c) :: rest
    else (name, c) :: addTo provider success rest

/-- Counts one more outcome. -/
def add (t : Tally) (provider : String) (success : Bool) : Tally :=
  ⟨addTo provider success t.entries⟩

/-- Counts more outcomes of the same kind. -/
def addTimes (t : Tally) (provider : String) (success : Bool) : Nat → Tally
  | 0 => t
  | n + 1 => (t.add provider success).addTimes provider success n

/-- The counts of a provider, zero if it has not been asked. -/
def get (t : Tally) (provider : String) : Counts :=
  (t.entries.lookup provider).getD Counts.zero

/-- The record of all counts. -/
def toJson (t : Tally) : Json :=
  .object (t.entries.map fun (name, c) => (name, c.toJson))

end Tally

end RateHerald
