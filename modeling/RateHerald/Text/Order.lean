/-!
# The order of texts

Texts are put in order by their characters, code point by code point.
-/

namespace RateHerald.Text

/-- Things in the order of their texts; of two with equal texts the first stays first. -/
def inOrderBy {α : Type} (text : α → String) (xs : List α) : List α :=
  xs.mergeSort fun a b => !(text b < text a)

end RateHerald.Text
