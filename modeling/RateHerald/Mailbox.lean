import RateHerald.InputError
import RateHerald.Text.Blank
import RateHerald.Text.Case
import RateHerald.Json.Record
import RateHerald.Json.Written

/-!
# Mailboxes

A mailbox is a mail address, with or without the name of its owner. It is typed bare, as
`jane@example.com`, or as a name and the address between angle brackets, and shown in the second
form.

An address becomes part of a file name, which is why blanks, controls, slashes and backslashes are
refused beyond the usual rules.

## Main declarations

* `Mailbox.isAddress` is the rule for addresses.
* `Mailbox.parse` reads a typed mailbox, `Mailbox.toText` shows one.
* `Mailbox.normalized` is the address in lower case, under which a subscriber is known.
* `Mailbox.toJson` and `Mailbox.shape` write and read the record; an absent name is left out.
-/

namespace RateHerald

/-- A mail address and the name of its owner. -/
structure Mailbox where
  /-- The name of the owner, if it is known. -/
  name : Option String
  /-- The address. -/
  address : String
deriving Repr, DecidableEq

namespace Mailbox

/-- Whether a character may stand in an address. -/
def isAddressChar (c : Char) : Bool :=
  !Text.isBlank c && !Text.isControl c && c != '/' && c != '\\' && c != '<' && c != '>'

/-- The longest address, in bytes. -/
def maxLength : Nat := 254

/-- Whether a text is an address: one `@`, text on both sides of it, no point at either end of the
domain, not too long, and no character that may not stand in an address. -/
def isAddress (cs : List Char) : Bool :=
  let domain := (cs.dropWhile (· != '@')).drop 1
  cs.count '@' == 1 && cs.head? != some '@' && !domain.isEmpty && domain.head? != some '.' &&
    domain.getLast? != some '.' && Json.Cursor.bytes cs ≤ maxLength && cs.all isAddressChar

/-- The name and the address of a typed mailbox: without angle brackets all is address, and with
them the address stands between the first opening bracket and the closing bracket at the end. -/
def split? (cs : List Char) : Option (List Char × List Char) :=
  if '<' ∈ cs ∨ '>' ∈ cs then
    if '<' ∈ cs ∧ cs.getLast? = some '>' then
      some (cs.takeWhile (· != '<'), ((cs.dropWhile (· != '<')).drop 1).dropLast)
    else none
  else some ([], cs)

/-- The name as it was meant: without blanks, then without quotes, then without blanks again. -/
def meantName (cs : List Char) : Option String :=
  let name := Text.trim (Text.strip (· == '"') (Text.trim cs))
  if name.isEmpty then none else some (String.ofList name)

/-- Reads a typed mailbox. -/
def parse (s : String) : Except InputError Mailbox :=
  let cs := Text.trim s.toList
  if cs.isEmpty then .error .missingAddress
  else
    match split? cs with
    | none => .error (.invalidAddress (String.ofList cs))
    | some (name, address) =>
      let address := Text.trim address
      if isAddress address then .ok ⟨meantName name, String.ofList address⟩
      else .error (.invalidAddress (String.ofList cs))

/-- The address in lower case. -/
def normalized (m : Mailbox) : String :=
  String.ofList (Text.lower m.address.toList)

/-- The mailbox as it is shown. -/
def toText (m : Mailbox) : String :=
  match m.name with
  | some name => "\"" ++ name ++ "\" <" ++ m.address ++ ">"
  | none => "<" ++ m.address ++ ">"

/-- The record of a mailbox. -/
def toJson (m : Mailbox) : Json :=
  let address := ("address", Json.text m.address)
  match m.name with
  | some name => .object [("name", .text name), address]
  | none => .object [address]

/-- How the name of a mailbox is read: it may be absent or `null`. -/
def nameField : Json.Field (Option (Option String) × Option String) where
  name := "name"
  required := false
  isSet s := s.1.isSome
  read s c := do
    let (name, c) ← Json.readTextOrNull c
    .ok ((some name, s.2), c)

/-- How the record of a mailbox is read. -/
def shape : Json.Shape (Option (Option String) × Option String) Mailbox where
  name := "EmailAddress"
  fields := [nameField, .ofReader "address" Json.readText (·.2) fun s a => (s.1, some a)]
  empty := (none, none)
  finish := fun s => s.2.map fun address => ⟨s.1.join, address⟩

end Mailbox

end RateHerald
