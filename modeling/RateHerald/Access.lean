import RateHerald.Text.Blank
import RateHerald.Json.Record
import RateHerald.Json.Written

/-!
# How a web service is reached

A service is reached at an endpoint, and some services want a key in a header or a parameter. A
service without an endpoint is not asked at all; a header or key that is empty or a hyphen counts as
not set.
-/

namespace RateHerald

/-- The endpoint of a web service and the key that opens it. -/
structure Access where
  /-- The address of the service. -/
  endpoint : String
  /-- The name of the header or parameter that carries the key. -/
  header : String
  /-- The key. -/
  key : String
deriving Repr, DecidableEq

namespace Access

/-- What stands for a header or key that is not set. -/
def unset : String := "-"

/-- Access without a key. -/
def withoutKey (endpoint : String) : Access :=
  ⟨endpoint, unset, unset⟩

/-- Whether a header or key is set. -/
def isSet (s : String) : Bool :=
  !s.isEmpty && s != unset

/-- The header and the key, if both are set. -/
def credentials (a : Access) : Option (String × String) :=
  if isSet a.header && isSet a.key then some (a.header, a.key) else none

/-- Whether there is an endpoint. -/
def isEnabled (a : Access) : Bool :=
  Text.isFilled a.endpoint

/-- The record of an access. -/
def toJson (a : Access) : Json :=
  .object [("endpoint", .text a.endpoint), ("header", .text a.header), ("key", .text a.key)]

/-- An access of which some fields are known. -/
structure Draft where
  /-- The endpoint, if it is known. -/
  endpoint : Option String
  /-- The header, if it is known. -/
  header : Option String
  /-- The key, if it is known. -/
  key : Option String

/-- How the record of an access is read. -/
def shape : Json.Shape Draft Access where
  name := "ProviderConfig"
  fields := [
    .ofReader "endpoint" Json.readText (·.endpoint) fun s x => { s with endpoint := some x },
    .ofReader "header" Json.readText (·.header) fun s x => { s with header := some x },
    .ofReader "key" Json.readText (·.key) fun s x => { s with key := some x }]
  empty := ⟨none, none, none⟩
  finish := fun s => do
    let endpoint ← s.endpoint
    let header ← s.header
    let key ← s.key
    some ⟨endpoint, header, key⟩

end Access

end RateHerald
