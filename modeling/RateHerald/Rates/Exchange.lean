import RateHerald.Text.Case

/-!
# Questions and answers on the web

A question to a web service is an address to be fetched, with headers and a time limit; the answer
is a status and a text, or a failure on the way. The names of headers do not depend on the case of
their plain letters, so they are kept in small letters, and the later of two headers of one name
stays.

## Main declarations

* `Question`, `Question.get` and `Question.withHeader`.
* `Answer` and `Answer.isSuccess`; `TransportError`.
-/

namespace RateHerald

/-- An address to be fetched. -/
structure Question where
  /-- The address. -/
  url : String
  /-- The headers, in the order of their names. -/
  headers : List (String × String)
  /-- The time limit, in milliseconds. -/
  timeout : Nat
deriving Repr, DecidableEq

namespace Question

/-- The time limit when none is set, in milliseconds. -/
def defaultTimeout : Nat := 5000

/-- A question without headers. -/
def get (url : String) : Question :=
  ⟨url, [], defaultTimeout⟩

/-- Puts a header among others that are in order. -/
def insertHeader (name value : String) : List (String × String) → List (String × String)
  | [] => [(name, value)]
  | (n, v) :: rest =>
    if n = name then (name, value) :: rest
    else if name < n then (name, value) :: (n, v) :: rest
    else (n, v) :: insertHeader name value rest

/-- The question with one more header. -/
def withHeader (q : Question) (name value : String) : Question :=
  { q with headers := insertHeader (Text.asciiLower name) value q.headers }

/-- The question with another time limit. -/
def withTimeout (q : Question) (timeout : Nat) : Question :=
  { q with timeout := timeout }

end Question

/-- What a web service sends back. -/
structure Answer where
  /-- The status. -/
  status : Nat
  /-- The text. -/
  body : String
deriving Repr, DecidableEq

/-- Whether the status tells of success. -/
def Answer.isSuccess (a : Answer) : Bool :=
  200 ≤ a.status && a.status < 300

/-- A failure on the way to a web service or back. -/
structure TransportError where
  /-- What went wrong. -/
  text : String
  /-- Whether another try may succeed. -/
  retryable : Bool
deriving Repr, DecidableEq

end RateHerald
