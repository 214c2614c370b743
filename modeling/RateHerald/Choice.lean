import RateHerald.Text.Blank
import RateHerald.Text.Case

/-!
# Choices by name

Some settings are chosen from a few names. Blanks around the name and the case of its letters do not
matter; an unknown name is told back in small letters.
-/

namespace RateHerald

/-- A name that is none of those to choose from. -/
structure UnknownChoice where
  /-- What was to be chosen. -/
  subject : String
  /-- The name that was given. -/
  given : String
deriving Repr, DecidableEq

/-- The fault in words. -/
def UnknownChoice.message (u : UnknownChoice) : String :=
  "unknown " ++ u.subject ++ ": " ++ u.given

/-- The choice that a name stands for. -/
def choose {α : Type} (subject : String) (names : List (String × α)) (s : String) :
    Except UnknownChoice α :=
  let name := Text.asciiLower (Text.trimmed s)
  match names.lookup name with
  | some choice => .ok choice
  | none => .error ⟨subject, name⟩

end RateHerald
