import RateHerald.Access
import RateHerald.Rate
import RateHerald.Subscription

/-!
# Kinds of records

A kind of record has a name, which is that of its directory, a written form, and a reader of that
form. Nearly every record can be written; a table whose keys are pairs of numbers cannot, unless it
is empty, because the keys of a JSON object are texts.
-/

namespace RateHerald

/-- A kind of record. -/
structure Codec (α : Type) where
  /-- The name of the kind. -/
  name : String
  /-- The written form, or why there is none. -/
  write : α → Except String Json
  /-- Reads the written form. -/
  read : Json.Reader α

namespace Codec

/-- Currency pairs. -/
def pair : Codec Pair :=
  ⟨"CurrencyPair", fun p => .ok p.toJson, Pair.shape.read⟩

/-- Rates. -/
def rate : Codec Rate :=
  ⟨"ExchangeRate", fun r => .ok r.toJson, Rate.shape.read⟩

/-- Ways to reach a service. -/
def access : Codec Access :=
  ⟨"ProviderConfig", fun a => .ok a.toJson, Access.shape.read⟩

/-- Mailboxes. -/
def mailbox : Codec Mailbox :=
  ⟨"EmailAddress", fun m => .ok m.toJson, Mailbox.shape.read⟩

/-- Subscriptions. -/
def subscription : Codec Subscription :=
  ⟨"Subscription", fun s => .ok s.toJson, Subscription.shape.read⟩

/-- Lists of texts. -/
def texts : Codec (List String) :=
  ⟨"Vec", fun ss => .ok (.list (ss.map .text)), Json.readList Json.readText⟩

/-- Reads a table whose keys are pairs of numbers: no key of an object can be one. -/
def readTable : Json.Reader (List (Nat × Nat × Nat)) := fun c =>
  let c := c.skipBlanks
  match c.rest with
  | [] => c.failNext .endInValue
  | '\x7b' :: _ => do
    let refuse := fun (_ : List (Nat × Nat × Nat)) (key : String) c =>
      (Json.afterKey c).failHere (.wrongType (.text key) "a tuple of size 2")
    let (rows, c) ← Json.readObjectBody refuse [] (c.skip 1)
    .ok (rows, c.skip 1)
  | _ => Json.failOnType "a map" c

/-- Tables whose keys are pairs of numbers. -/
def table : Codec (List (Nat × Nat × Nat)) :=
  ⟨"HashMap", fun rows => if rows.isEmpty then .ok (.object []) else .error "key must be a string",
    readTable⟩

end Codec

end RateHerald
