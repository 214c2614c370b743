import RateHerald.Url.Percent

/-!
# Parameters in a query

Parameters are names and values. In a query they are written as `name=value` with an ampersand
between two of them; letters, digits and `*-._` of ASCII stand for themselves, a space is a plus
sign, and every other byte is percent-encoded. So no value can end its parameter or begin another.

## Main declarations

* `Form.encode` writes parameters, `Form.decode` reads them back as bytes.
* `Form.append` puts parameters after an existing query.
-/

namespace RateHerald.Url.Form

/-- Whether a byte stands for itself. -/
def isPlain (b : UInt8) : Bool :=
  let c := Char.ofNat b.toNat
  c.isAlphanum || c == '*' || c == '-' || c == '.' || c == '_'

/-- A byte of a name or value. -/
def encodeByte (b : UInt8) : List Char :=
  if b == 32 then ['+'] else if isPlain b then [Char.ofNat b.toNat] else Url.encodeByte b

/-- A name or a value. -/
def encodeText (s : String) : List Char :=
  (s.toList.flatMap String.utf8EncodeChar).flatMap encodeByte

/-- A parameter. -/
def encodePair (p : String × String) : List Char :=
  encodeText p.1 ++ '=' :: encodeText p.2

/-- Parameters one after another behind the query `before`, with an ampersand wherever something
stands before. -/
def append (before : List Char) : List (String × String) → List Char
  | [] => before
  | p :: rest =>
    append (if before.isEmpty then encodePair p else before ++ '&' :: encodePair p) rest

/-- A query made of parameters. -/
def encode (ps : List (String × String)) : List Char :=
  append [] ps

/-- The parts of a text between the characters `divider`. -/
def splitAt (divider : Char) : List Char → List (List Char)
  | [] => [[]]
  | c :: rest =>
    if c = divider then [] :: splitAt divider rest
    else match splitAt divider rest with
      | [] => [[c]]
      | part :: parts => (c :: part) :: parts

/-- The bytes of a name or value: a plus sign is a space, encoded bytes are taken back. -/
def decodeText (cs : List Char) : List UInt8 :=
  Url.decode (cs.map fun c => if c = '+' then ' ' else c)

/-- The parameter written by a part of a query. -/
def decodePair (cs : List Char) : List UInt8 × List UInt8 :=
  (decodeText (cs.takeWhile (· != '=')), decodeText ((cs.dropWhile (· != '=')).drop 1))

/-- The parameters of a query; empty parts are passed over. -/
def decode (cs : List Char) : List (List UInt8 × List UInt8) :=
  ((splitAt '&' cs).filter fun part => !part.isEmpty).map decodePair

end RateHerald.Url.Form
