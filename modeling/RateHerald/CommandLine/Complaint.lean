import RateHerald.Mailing.NotifyError
import RateHerald.Settings

/-!
# Complaints

When something goes wrong the user is told what was tried and, below, why it failed: each cause on a
line of its own, the nearest first. Several causes are numbered.

## Main declarations

* `NotifyError.causes` and the like list the causes of a failure.
* `Complaint` is what the user is told, `Complaint.toText` its text.
-/

namespace RateHerald

/-! ## Causes -/

/-- Why there is no rate, the nearest cause first. -/
def RateError.causes : RateError → List String
  | .unavailable _ cause => cause.message :: cause.causes
  | _ => []

/-- Why a record cannot be kept or found. -/
def StoreError.causes : StoreError → List String
  | .disk _ _ cause => [cause.message]
  | .encode _ text => [text]
  | .decode _ text => [text]
  | _ => []

/-- Why the list of subscriptions cannot be kept or read. -/
def RepositoryError.causes : RepositoryError → List String
  | .storage cause => cause.message :: cause.causes
  | _ => []

/-- Why a listener failed. -/
def ListenerError.causes : ListenerError → List String
  | .rate cause => cause.causes
  | .input _ => []
  | .repository cause => cause.causes

/-- Why the bus fails. A failure that was gathered from several has no single cause. -/
def BusError.causes : BusError → List String
  | .listener cause => cause.message :: cause.causes
  | _ => []

/-- Why subscribers are not told, the nearest cause first. -/
def NotifyError.causes : NotifyError → List String
  | .invalid cause => [cause.message]
  | .storage cause => cause.message :: cause.causes
  | .bus cause => cause.message :: cause.causes
  | _ => []

/-! ## Complaints -/

/-- What the user is told when something goes wrong. -/
structure Complaint where
  /-- What went wrong. -/
  message : String
  /-- Why, the nearest cause first. -/
  causes : List String
deriving Repr, DecidableEq

namespace Complaint

/-- A failure. -/
def ofFailure (e : NotifyError) : Complaint :=
  ⟨e.message, e.causes⟩

/-- A failure, under the words for what was tried. -/
def during (attempt : String) (e : NotifyError) : Complaint :=
  ⟨attempt, e.message :: e.causes⟩

/-- Settings that are refused. -/
def ofSettings (e : SettingsError) : Complaint :=
  ⟨"Configuration error: " ++ e.message, []⟩

/-- The lines of a cause: the first line behind `head`, further lines as far to the right. -/
def indented (head : String) (text : String) : String :=
  let margin := String.ofList (List.replicate head.length ' ')
  head ++ ("\n" ++ margin).intercalate (text.splitOn "\n")

/-- What stands before a cause that is not the only one: its number, in five columns. -/
def numberHead (n : Nat) : String :=
  let digits := toString n
  String.ofList (List.replicate (5 - digits.length) ' ') ++ digits ++ ": "

/-- The lines of all causes. -/
def causeLines : List String → List String
  | [] => []
  | [only] => [indented "    " only]
  | several => several.zipIdx.map fun (text, n) => indented (numberHead n) text

/-- The text of a complaint. -/
def toText (c : Complaint) : String :=
  let why := match c.causes with
    | [] => []
    | causes => ["", "Caused by:"] ++ causeLines causes
  "\n".intercalate (("Error: " ++ c.message) :: why) ++ "\n"

end Complaint

end RateHerald
