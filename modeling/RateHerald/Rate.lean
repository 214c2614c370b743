import RateHerald.Pair

/-!
# Exchange rates

A rate is a number for a pair. Nothing is asked of the number here: what counts as a usable rate is
decided where answers are read.
-/

namespace RateHerald

/-- What one unit of the base is worth in the quote. -/
structure Rate where
  /-- The number. -/
  value : Float
  /-- The pair it belongs to. -/
  pair : Pair
deriving DecidableEq

namespace Rate

/-- The rate as it is shown. -/
def toText (r : Rate) : String :=
  r.pair.toText ++ " " ++ Decimal.plain r.value

/-- The record of a rate. -/
def toJson (r : Rate) : Json :=
  .object [("value", .number r.value), ("pair", r.pair.toJson)]

/-- How the record of a rate is read. -/
def shape : Json.Shape (Option Float × Option Pair) Rate where
  name := "ExchangeRate"
  fields := [
    .ofReader "value" Json.readFloat (·.1) fun s x => (some x, s.2),
    .ofReader "pair" Pair.shape.read (·.2) fun s p => (s.1, some p)]
  empty := (none, none)
  finish := fun s => do
    let value ← s.1
    let pair ← s.2
    some ⟨value, pair⟩

end Rate

end RateHerald
