import RateHerald.Url.Path
import RateHerald.Decimal.Written

/-!
# Addresses on the web

An address has a scheme, mostly an authority (who is asked: a host, with user name, password and
port where they are given), a path, and maybe a query and a fragment. Every part is kept in its
written form, so that writing an address only puts the parts together.

## Main declarations

* `Url` and `Url.toText`.
* `Url.appendQuery` puts parameters behind the query.
* `Url.pathChars` and `Url.withPath` read and replace the path.
-/

namespace RateHerald

/-- Who is asked. -/
structure Authority where
  /-- The user name. -/
  username : List Char
  /-- The password. -/
  password : List Char
  /-- The host. -/
  host : List Char
  /-- The port, unless it is the one of the scheme. -/
  port : Option Nat
deriving Repr, DecidableEq

/-- What is asked for. -/
inductive UrlPath where
  /-- A text without structure. -/
  | opaqueText (cs : List Char)
  /-- Segments. -/
  | segments (items : List (List Char))
deriving Repr, DecidableEq

/-- An address on the web. -/
structure Url where
  /-- The scheme, in small letters. -/
  scheme : List Char
  /-- Who is asked, if the address says so. -/
  authority : Option Authority
  /-- What is asked for. -/
  path : UrlPath
  /-- The query. -/
  query : Option (List Char)
  /-- The fragment. -/
  fragment : Option (List Char)
deriving Repr, DecidableEq

namespace Url

/-- The schemes of the web's own, each with its port. -/
def specialSchemes : List (String × Option Nat) :=
  [("http", some 80), ("https", some 443), ("ws", some 80), ("wss", some 443), ("ftp", some 21),
    ("file", none)]

/-- Whether a scheme is one of the web's own. -/
def isSpecialScheme (scheme : List Char) : Bool :=
  specialSchemes.any fun (name, _) => name.toList == scheme

/-- The port of a scheme. -/
def defaultPort (scheme : List Char) : Option Nat :=
  (specialSchemes.lookup (String.ofList scheme)).join

/-- User name and password as they stand before the host. -/
def userInfo (a : Authority) : List Char :=
  if a.username.isEmpty && a.password.isEmpty then []
  else a.username ++ (if a.password.isEmpty then [] else ':' :: a.password) ++ ['@']

/-- An authority in its written form. -/
def authorityChars (a : Authority) : List Char :=
  userInfo a ++ a.host ++ match a.port with
    | some n => ':' :: Decimal.digits n
    | none => []

/-- The path in its written form. -/
def pathChars (u : Url) : List Char :=
  match u.path with
  | .opaqueText cs => cs
  | .segments items => Path.toChars items

/-- What stands between the scheme and the path. A path that would be taken for an authority gets a
segment `.` in front. -/
def beforePath (u : Url) : List Char :=
  match u.authority with
  | some a => '/' :: '/' :: authorityChars a
  | none =>
    match u.path with
    | .segments ([] :: _ :: _) => ['/', '.']
    | _ => []

/-- The address in its written form. -/
def toChars (u : Url) : List Char :=
  u.scheme ++ ':' :: beforePath u ++ pathChars u ++
    (match u.query with
      | some q => '?' :: q
      | none => []) ++
    match u.fragment with
      | some f => '#' :: f
      | none => []

/-- The address as a text. -/
def toText (u : Url) : String :=
  String.ofList u.toChars

/-- The address with parameters behind its query. -/
def appendQuery (u : Url) (params : List (String × String)) : Url :=
  if params.isEmpty then u else { u with query := some (Form.append (u.query.getD []) params) }

/-- Whether a character is passed over wherever it stands. -/
def isPassedOver (c : Char) : Bool :=
  c == '\t' || c == '\n' || c == '\r'

/-- The address with the path written by `text`, which begins with a slash unless the path has no
structure. -/
def withPath (u : Url) (text : List Char) : Url :=
  let cs := text.filter fun c => !isPassedOver c
  let path := match u.path with
    | .opaqueText _ =>
      .opaqueText <| match cs with
        | '/' :: rest => '%' :: '2' :: 'F' :: encode isControl rest
        | _ => encode isControl cs
    | .segments _ =>
      .segments <|
        if u.scheme = "file".toList then Path.readFile (cs.drop 1)
        else Path.read (isSpecialScheme u.scheme) (cs.drop 1)
  { u with path := path }

end Url

end RateHerald
