import RateHerald.Events.BusError
import RateHerald.Records.Collection
import RateHerald.Timed.Joined

/-!
# Where subscriptions are kept

Subscriptions can be added to a repository and listed. On a disk they are the records of a
collection; the disk is asked to do its work and answers in the same millisecond, but not before
others have had their turn.

## Main declarations

* `Repository`, and `Repository.on` for one that works on a part of the state.
* `Repository.ofCollection` keeps subscriptions on a disk.
-/

namespace RateHerald

/-- A place where subscriptions are kept. -/
structure Repository (σ : Type) where
  /-- Adds a subscription; the same mailbox can subscribe to a pair only once. -/
  add : Subscription → Job σ (Except RepositoryError Unit)
  /-- Lists all subscriptions. -/
  list : Job σ (Except RepositoryError (List Subscription))

namespace Repository

variable {σ τ : Type}

/-- A repository that works on a part of the state. -/
def on (part : Part σ τ) (r : Repository τ) : Repository σ :=
  ⟨fun s => (r.add s).on part, r.list.on part⟩

/-- What is said of a subscription that was to be stored. -/
def ofStored (s : Subscription) : Except StoreError Unit → Except RepositoryError Unit
  | .ok () => .ok ()
  | .error (.alreadyExists _ _) => .error (.alreadySubscribed s.mailbox.address s.topic)
  | .error e => .error (.storage e)

/-- What is said of subscriptions that were to be read; where nothing was ever stored there are
none. -/
def ofFetched : Except StoreError (List Subscription) → Except RepositoryError (List Subscription)
  | .ok subscriptions => .ok subscriptions
  | .error (.notFound _) => .ok []
  | .error e => .error (.storage e)

/-- Subscriptions as records on a disk. -/
def ofCollection (c : Collection Subscription) : Repository Disk where
  add s := do
    let stored ← Job.change (c.store s.key s)
    Job.yield
    return ofStored s stored
  list := do
    let fetched ← Job.get c.fetchAll
    Job.yield
    return ofFetched fetched

end Repository

end RateHerald
