import RateHerald.Json.Skip

/-!
# Reading records

A record is read from an object, its fields in any order and unknown members passed over, or from a
list that holds its fields in their order. A field must not be given twice; a field without a
default must be given. What is read so far is a partial record, and every field says how it is read
into it.

## Main declarations

* `Field` and `Shape` describe a record type.
* `readMembers` and `readItems` walk through an object and a list.
* `Shape.read` reads a record; `decode` reads a whole text.
-/

namespace RateHerald.Json

/-- A field of a record whose parts are gathered in `σ`. -/
structure Field (σ : Type) where
  /-- The name of the member. -/
  name : String
  /-- Whether the field must be given. -/
  required : Bool
  /-- Whether the field has been read. -/
  isSet : σ → Bool
  /-- Reads the field into the partial record. -/
  read : σ → Reader σ

/-- A record type `α`, gathered in `σ`. -/
structure Shape (σ α : Type) where
  /-- The name of the type in messages. -/
  name : String
  /-- The fields in their order. -/
  fields : List (Field σ)
  /-- The partial record with no field read. -/
  empty : σ
  /-- The record, once every required field has been read. -/
  finish : σ → Option α

/-- A field that must be given, read by `reader` and kept by `set`. -/
def Field.ofReader {σ α : Type} (name : String) (reader : Reader α) (get : σ → Option α)
    (set : σ → α → σ) : Field σ where
  name := name
  required := true
  isSet := fun s => (get s).isSome
  read := fun s c => do
    let (x, c) ← reader c
    .ok (set s x, c)

/-- The place where a fault about a key is told: at the next character, or behind the end of the
object if that comes next. -/
def afterKey (c : Cursor) : Cursor :=
  let c := c.skipBlanks
  match c.rest with
  | '\x7d' :: _ => c.skip 1
  | _ => c

/-- Reads the colon between a key and its value. -/
def readColon (c : Cursor) : Except Fault Cursor :=
  let c := c.skipBlanks
  match c.rest with
  | [] => c.failNext .endInObject
  | ':' :: _ => .ok (c.skip 1)
  | _ => c.failNext .expectedColon

/-- Goes to the next key of an object, if there is one. -/
def nextKey (isFirst : Bool) (c : Cursor) : Except Fault (Bool × Cursor) :=
  let c := c.skipBlanks
  match c.rest with
  | [] => c.failNext .endInObject
  | '\x7d' :: _ => .ok (false, c)
  | d :: _ =>
    if isFirst then
      if d = '"' then .ok (true, c) else c.failNext .keyNotText
    else if d = ',' then
      let c := (c.skip 1).skipBlanks
      match c.rest with
      | [] => c.failNext .endInValue
      | '"' :: _ => .ok (true, c)
      | '\x7d' :: _ => c.failNext .trailingComma
      | _ => c.failNext .keyNotText
    else c.failNext .expectedMemberEnd

/-- Reads the members of an object up to its closing brace, at most `fuel` of them. -/
def readMembers {σ : Type} (member : σ → String → Reader σ) :
    Nat → Bool → σ → Reader σ
  | 0, _, s, c => .ok (s, c)
  | fuel + 1, isFirst, s, c => do
    let (more, c) ← nextKey isFirst c
    if more then
      let (key, c) ← readTextBody [] (c.offset + 1) (c.rest.drop 1)
      let (s, c) ← member s (String.ofList key) c
      readMembers member fuel false s c
    else .ok (s, c)

/-- Reads an object after its opening brace. -/
def readObjectBody {σ : Type} (member : σ → String → Reader σ) (s : σ) : Reader σ := fun c =>
  readMembers member (c.rest.length + 1) true s c

/-- Goes to the next item of a list, if there is one. -/
def nextItem (isFirst : Bool) (c : Cursor) : Except Fault (Bool × Cursor) :=
  let c := c.skipBlanks
  match c.rest with
  | [] => c.failNext .endInList
  | ']' :: _ => .ok (false, c)
  | d :: _ =>
    if isFirst then .ok (true, c)
    else if d = ',' then
      let c := (c.skip 1).skipBlanks
      match c.rest with
      | [] => c.failNext .endInValue
      | ']' :: _ => c.failNext .trailingComma
      | _ => .ok (true, c)
    else c.failNext .expectedItemEnd

/-- Reads the end of a list that must have no more items. -/
def closeList (c : Cursor) : Except Fault Cursor :=
  let c := c.skipBlanks
  match c.rest with
  | [] => c.failNext .endInList
  | ']' :: _ => .ok (c.skip 1)
  | ',' :: _ =>
    let c := (c.skip 1).skipBlanks
    match c.rest with
    | ']' :: _ => c.failNext .trailingComma
    | _ => c.failNext .trailingCharacters
  | _ => c.failNext .trailingCharacters

/-- Reads the items of a list up to its closing bracket, at most `fuel` of them. -/
def readItems {α : Type} (item : Reader α) : Nat → Bool → List α → Reader (List α)
  | 0, _, acc, c => .ok (acc.reverse, c)
  | fuel + 1, isFirst, acc, c => do
    let (more, c) ← nextItem isFirst c
    if more then
      let (x, c) ← item c
      readItems item fuel false (x :: acc) c
    else .ok (acc.reverse, c)

/-- Reads a list of any length. -/
def readList {α : Type} (item : Reader α) : Reader (List α) := fun c =>
  let c := c.skipBlanks
  match c.rest with
  | [] => c.failNext .endInValue
  | '[' :: rest => do
    let (items, c) ← readItems item (rest.length + 1) true [] (c.skip 1)
    .ok (items, c.skip 1)
  | _ => failOnType "a sequence" c

/-- Reads an object whose members all have the same type; of two members with one key the later
stays. -/
def readMap {α : Type} (value : Reader α) : Reader (List (String × α)) := fun c =>
  let c := c.skipBlanks
  match c.rest with
  | [] => c.failNext .endInValue
  | '\x7b' :: _ => do
    let member := fun (acc : List (String × α)) key c => do
      let c ← readColon c
      let (x, c) ← value c
      .ok (acc.filter (·.1 != key) ++ [(key, x)], c)
    let (members, c) ← readObjectBody member [] (c.skip 1)
    .ok (members, c.skip 1)
  | _ => failOnType "a map" c

/-- Reads the member `key` into a partial record. -/
def Shape.member {σ α : Type} (shape : Shape σ α) (s : σ) (key : String) : Reader σ := fun c =>
  match shape.fields.find? (·.name == key) with
  | some field =>
    if field.isSet s then (afterKey c).failHere (.repeatedField key)
    else do
      let c ← readColon c
      field.read s c
  | none => do
    let c ← readColon c
    let c ← skipValue c
    .ok (s, c)

/-- How many elements a record has, in words. -/
def Shape.describeLength {σ α : Type} (shape : Shape σ α) : String :=
  "struct " ++ shape.name ++ " with " ++ toString shape.fields.length ++
    (if shape.fields.length = 1 then " element" else " elements")

/-- Reads fields from a list in their order; `index` is the number of the next one. -/
def Shape.readElements {σ α : Type} (shape : Shape σ α) :
    List (Field σ) → Nat → Bool → σ → Reader σ
  | [], _, _, s, c => .ok (s, c)
  | field :: fields, index, isFirst, s, c => do
    let (more, c) ← nextItem isFirst c
    if more then
      let (s, c) ← field.read s c
      shape.readElements fields (index + 1) false s c
    else if field.required then
      (c.skip 1).failHere (.wrongLength index shape.describeLength)
    else shape.readElements fields (index + 1) isFirst s c

/-- The record, or the fault that a field is missing. -/
def Shape.complete {σ α : Type} (shape : Shape σ α) (s : σ) : Reader α := fun c =>
  match shape.finish s with
  | some x => .ok (x, c)
  | none =>
    let missing := shape.fields.find? fun field => field.required && !field.isSet s
    c.failHere (.missingField ((missing.map Field.name).getD ""))

/-- Reads a record. -/
def Shape.read {σ α : Type} (shape : Shape σ α) : Reader α := fun c =>
  let c := c.skipBlanks
  match c.rest with
  | [] => c.failNext .endInValue
  | '[' :: _ => do
    let (s, c) ← shape.readElements shape.fields 0 true shape.empty (c.skip 1)
    let c ← closeList c
    shape.complete s c
  | '\x7b' :: _ => do
    let (s, c) ← readObjectBody shape.member shape.empty (c.skip 1)
    shape.complete s (c.skip 1)
  | _ => failOnType ("struct " ++ shape.name) c

/-- Reads a whole text, blanks at both ends allowed. -/
def decode {α : Type} (reader : Reader α) (text : String) : Except Fault α := do
  let (x, c) ← reader (Cursor.start text)
  let c := c.skipBlanks
  if c.rest.isEmpty then .ok x else c.failNext .trailingCharacters

end RateHerald.Json
