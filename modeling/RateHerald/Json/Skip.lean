import RateHerald.Json.Cursor

/-!
# Passing over a value

A member that a record does not know is passed over, whatever its value. Its form is checked, and
its numbers are not: they may be of any size. Brackets that are still open are kept in a list, the
innermost first, so the depth of a value is not limited.

## Main declarations

* `Bracket` is an open list or object, `Expecting` what may come next.
* `skipStep` passes over one piece, `skipValue` over a whole value.
-/

namespace RateHerald.Json

/-- A bracket that is still open. -/
inductive Bracket where
  /-- A list. -/
  | list
  /-- An object. -/
  | object
deriving Repr, DecidableEq

/-- What may come next. -/
inductive Expecting where
  /-- A value. -/
  | value
  /-- The first member of the innermost bracket, or its end. -/
  | first
  /-- A comma and a further member of the innermost bracket, or its end. -/
  | more
deriving Repr, DecidableEq

/-- Passes over the rest of a text after its opening quote. -/
def skipTextBody (offset : Nat) (cs : List Char) : Except Fault Cursor :=
  match cs with
  | [] => .error ⟨.endInText, offset⟩
  | '"' :: rest => .ok ⟨offset + 1, rest⟩
  | '\\' :: [] => .error ⟨.endInText, offset + 1⟩
  | '\\' :: 'u' :: rest =>
    match readFourHex ⟨offset + 2, rest⟩ with
    | .error f => .error f
    | .ok _ => skipTextBody (offset + 6) (rest.drop 4)
  | '\\' :: e :: rest =>
    if (shortEscape? e).isSome then skipTextBody (offset + 2) rest
    else .error ⟨.invalidEscape, offset + 2⟩
  | c :: rest =>
    if c.toNat < 0x20 then .error ⟨.controlInText, offset⟩
    else skipTextBody (offset + c.utf8Size) rest
termination_by cs.length
decreasing_by
  all_goals simp only [List.length_cons, List.length_drop]; omega

/-- Passes over digits. -/
def skipDigits (c : Cursor) : Cursor :=
  c.skip (c.rest.takeWhile Char.isDigit).length

/-- Passes over the exponent of a number after its letter. -/
def skipExponent (c : Cursor) : Except Fault Cursor :=
  let c := match c.rest with
    | '+' :: _ => c.skip 1
    | '-' :: _ => c.skip 1
    | _ => c
  match c.rest with
  | d :: _ => if d.isDigit then .ok (skipDigits c) else c.failNext .invalidNumber
  | [] => c.failHere .invalidNumber

/-- Passes over a number after its sign. -/
def skipNumber (c : Cursor) : Except Fault Cursor :=
  match c.rest with
  | [] => c.failHere .invalidNumber
  | d :: rest =>
    if !d.isDigit then c.failNext .invalidNumber
    else if d = '0' ∧ (rest.head?.any Char.isDigit) then (c.skip 1).failNext .invalidNumber
    else
      let c := skipDigits c
      match c.rest with
      | '.' :: fraction =>
        if fraction.head?.any Char.isDigit then
          let c := skipDigits (c.skip 1)
          if atExponent c then skipExponent (c.skip 1) else .ok c
        else (c.skip 1).failNext .invalidNumber
      | _ => if atExponent c then skipExponent (c.skip 1) else .ok c

/-- Passes over the key of a member and its colon. -/
def skipKey (c : Cursor) : Except Fault Cursor := do
  let c := c.skipBlanks
  match c.rest with
  | [] => c.failNext .endInObject
  | '"' :: rest =>
    let c ← skipTextBody (c.offset + 1) rest
    let c := c.skipBlanks
    match c.rest with
    | [] => c.failNext .endInObject
    | ':' :: _ => .ok (c.skip 1)
    | _ => c.failNext .expectedColon
  | _ => c.failNext .keyNotText

/-- Goes to the next member of the innermost bracket. -/
def skipToMember (bracket : Bracket) (c : Cursor) : Except Fault Cursor :=
  match bracket with
  | .list => .ok c
  | .object => skipKey c

/-- Passes over one piece: a value without parts, an opening bracket, or what stands between two
members. -/
def skipStep (open_ : List Bracket) (expecting : Expecting) (c : Cursor) :
    Except Fault (List Bracket × Expecting × Cursor) :=
  let c := c.skipBlanks
  match expecting with
  | .value =>
    match c.rest with
    | [] => c.failNext .endInValue
    | 'n' :: _ => do
      let ((), c) ← readWord ['u', 'l', 'l'] (c.skip 1)
      .ok (open_, .more, c)
    | 't' :: _ => do
      let ((), c) ← readWord ['r', 'u', 'e'] (c.skip 1)
      .ok (open_, .more, c)
    | 'f' :: _ => do
      let ((), c) ← readWord ['a', 'l', 's', 'e'] (c.skip 1)
      .ok (open_, .more, c)
    | '-' :: _ => do
      let c ← skipNumber (c.skip 1)
      .ok (open_, .more, c)
    | '"' :: rest => do
      let c ← skipTextBody (c.offset + 1) rest
      .ok (open_, .more, c)
    | '[' :: _ => .ok (.list :: open_, .first, c.skip 1)
    | '\x7b' :: _ => .ok (.object :: open_, .first, c.skip 1)
    | d :: _ =>
      if d.isDigit then do
        let c ← skipNumber c
        .ok (open_, .more, c)
      else c.failNext .expectedValue
  | _ =>
    match open_ with
    | [] => .ok ([], .more, c)
    | bracket :: outer =>
      match c.rest, bracket with
      | [], .list => c.failNext .endInList
      | [], .object => c.failNext .endInObject
      | ']' :: _, .list => .ok (outer, .more, c.skip 1)
      | '\x7d' :: _, .object => .ok (outer, .more, c.skip 1)
      | d :: _, _ =>
        if expecting = .first then do
          let c ← skipToMember bracket c
          .ok (open_, .value, c)
        else if d = ',' then do
          let c ← skipToMember bracket (c.skip 1)
          .ok (open_, .value, c)
        else c.failNext (if bracket = .list then .expectedItemEnd else .expectedMemberEnd)

/-- Passes over pieces until every bracket is closed, at most `fuel` of them. -/
def skipPieces : Nat → List Bracket → Expecting → Cursor → Except Fault Cursor
  | 0, _, _, c => .ok c
  | fuel + 1, open_, expecting, c =>
    if open_.isEmpty ∧ expecting = .more then .ok c
    else match skipStep open_ expecting c with
      | .error f => .error f
      | .ok (open_, expecting, c) => skipPieces fuel open_ expecting c

/-- Passes over a value, blanks before it included. A piece that reads nothing is followed by one
that does, so twice the length of the text is always enough. -/
def skipValue (c : Cursor) : Except Fault Cursor :=
  skipPieces (2 * c.rest.length + 2) [] .value c

end RateHerald.Json
