import RateHerald.Choice

/-!
# How listeners are called

An event is given to its listeners one after another, or to all of them at once.
-/

namespace RateHerald

/-- How the listeners to an event are called. -/
inductive Dispatch where
  /-- One after another, in the order in which they were registered. -/
  | sequential
  /-- All at once. -/
  | concurrent
deriving Repr, DecidableEq

namespace Dispatch

/-- The name of a way to call listeners. -/
def name : Dispatch → String
  | .sequential => "sequential"
  | .concurrent => "concurrent"

/-- The name as it stands in a description of a bus. -/
def title : Dispatch → String
  | .sequential => "Sequential"
  | .concurrent => "Concurrent"

/-- The names to choose from. -/
def names : List (String × Dispatch) :=
  [("sequential", .sequential), ("seq", .sequential), ("concurrent", .concurrent),
    ("parallel", .concurrent)]

/-- Reads the name of a way to call listeners. -/
def parse (s : String) : Except UnknownChoice Dispatch :=
  choose "dispatch mode" names s

end Dispatch

end RateHerald
