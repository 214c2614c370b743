/-!
# Results that have a property

A reader may fail. What all its results have in common is told by one predicate, which follows the
steps the reader is put together from.

## Main declarations

* `Gives` says that every result has a property; `Gives.bind`, `Gives.mono` and `gives_map`.
-/

namespace RateHerald

/-- Every result has a property. -/
def Gives {ε α : Type} (P : α → Prop) : Except ε α → Prop
  | .ok a => P a
  | .error _ => True

variable {ε α β : Type} {P : α → Prop} {Q : β → Prop} {x : Except ε α}

theorem Gives.bind {f : α → Except ε β} (hx : Gives P x) (hf : ∀ a, P a → Gives Q (f a)) :
    Gives Q (x >>= f) := by
  cases x with
  | error e => trivial
  | ok a => exact hf a hx

theorem Gives.mono {P' : α → Prop} (hx : Gives P x) (h : ∀ a, P a → P' a) : Gives P' x := by
  cases x with
  | error e => trivial
  | ok a => exact h a hx

theorem gives_map {f : α → β} (hf : ∀ a, Q (f a)) : Gives Q (x.map f) := by
  cases x with
  | error e => trivial
  | ok a => exact hf a

theorem gives_any : Gives (fun _ => True) x := by
  cases x <;> trivial

theorem Gives.of_eq_ok {a : α} (hx : Gives P x) (h : x = .ok a) : P a := by
  rwa [h] at hx

end RateHerald
