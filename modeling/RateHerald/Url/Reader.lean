import RateHerald.Url.Basic
import RateHerald.Url.Host

/-!
# Reading an address

Blanks and controls around an address and tabs and line ends within it are passed over. A scheme and
a colon come first. In the schemes of the web's own an authority follows, whatever count of slashes
stands before it, and a backslash is as good as a slash; in any other scheme two slashes announce an
authority, one slash a path, and all else is a text without structure.

## Main declarations

* `Url.readScheme?`, `Url.readUserInfo`, `Url.readAuthority` and `Url.readTail` read the parts.
* `Url.parse` reads an address.
-/

namespace RateHerald.Url

/-- Whether a character may stand in a scheme. -/
def isSchemeChar (c : Char) : Bool :=
  c.isAlphanum || c == '+' || c == '-' || c == '.'

/-- The scheme and what stands behind its colon. -/
def readScheme? (cs : List Char) : Option (List Char × List Char) :=
  let name := cs.takeWhile isSchemeChar
  match cs.head?.any Char.isAlpha, cs.dropWhile isSchemeChar with
  | true, ':' :: rest => some (name.map Char.toLower, rest)
  | _, _ => none

/-- Whether a character ends an authority. -/
def endsAuthority (special : Bool) (c : Char) : Bool :=
  c == '/' || c == '?' || c == '#' || (special && c == '\\')

/-- Splits a text at the last of the characters `c`. -/
def splitLast? (c : Char) (cs : List Char) : Option (List Char × List Char) :=
  if c ∈ cs then
    let after := (cs.reverse.takeWhile (· != c)).reverse
    some (cs.take (cs.length - after.length - 1), after)
  else none

/-- The user name and the password before the last `@` of an authority. -/
def readUserInfo (cs : List Char) : List Char × List Char :=
  (encode inUserInfo (cs.takeWhile (· != ':')),
    encode inUserInfo ((cs.dropWhile (· != ':')).drop 1))

/-- The host at the beginning of a text, up to a colon outside of square brackets. -/
def spanHost (inside : Bool) : List Char → List Char × List Char
  | [] => ([], [])
  | c :: rest =>
    if c = ':' ∧ inside = false then ([], c :: rest)
    else
      let inside := if c = '[' then true else if c = ']' then false else inside
      let (host, rest) := spanHost inside rest
      (c :: host, rest)

/-- The port behind its colon, none if it is absent or the one of the scheme. -/
def readPort (scheme cs : List Char) : Except UrlError (Option Nat) :=
  if !cs.all Char.isDigit then .error .invalidPort
  else
    let n := Decimal.digitsValue cs
    if n > 65535 then .error .invalidPort
    else if cs.isEmpty ∨ some n = defaultPort scheme then .ok none
    else .ok (some n)

/-- Reads host and port behind the user name and password. A backslash ends a port; what stands
behind the port is left. -/
def readHostAndPort (scheme cs : List Char) :
    Except UrlError ((List Char × Option Nat) × List Char) := do
  let special := isSpecialScheme scheme
  let (host, rest) := spanHost false cs
  if host.isEmpty ∧ (special ∨ !rest.isEmpty) then throw .emptyHost
  let host ← if special then Host.read host else Host.readOpaque host
  match rest with
  | ':' :: rest => do
    let port ← readPort scheme (rest.takeWhile (· != '\\'))
    .ok ((host, port), rest.dropWhile (· != '\\'))
  | _ => .ok ((host, none), [])

/-- Reads an authority, `followed` says whether something stands behind it; what is left of it
belongs to the path. -/
def readAuthority (scheme : List Char) (followed : Bool) (cs : List Char) :
    Except UrlError (Authority × List Char) := do
  match splitLast? '@' cs with
  | none =>
    let ((host, port), rest) ← readHostAndPort scheme cs
    .ok (⟨[], [], host, port⟩, rest)
  | some (info, rest) =>
    if info.isEmpty ∧ rest.isEmpty ∧ followed then throw .emptyHost
    let (username, password) := readUserInfo info
    let ((host, port), rest) ← readHostAndPort scheme rest
    if host.isEmpty ∧ (username ≠ [] ∨ password ≠ []) then throw .emptyHost
    .ok (⟨username, password, host, port⟩, rest)

/-- The text before the query and the fragment, the query and the fragment. -/
def readTail (special : Bool) (cs : List Char) :
    List Char × Option (List Char) × Option (List Char) :=
  let before := cs.takeWhile (· != '#')
  let fragment := match cs.dropWhile (· != '#') with
    | _ :: rest => some (encode inFragment rest)
    | [] => none
  let path := before.takeWhile (· != '?')
  let query := match before.dropWhile (· != '?') with
    | _ :: rest => some (encode (if special then inSpecialQuery else inQuery) rest)
    | [] => none
  (path, query, fragment)

/-- Reads what follows the two slashes before an authority. -/
def readHierarchy (scheme cs : List Char) : Except UrlError Url := do
  let special := isSpecialScheme scheme
  let written := cs.takeWhile fun c => !endsAuthority special c
  let rest := cs.drop written.length
  let (authority, left) ← readAuthority scheme (!rest.isEmpty) written
  let (path, query, fragment) := readTail special (left ++ rest)
  let segments := match path with
    | [] => if special then [[]] else []
    | c :: tail =>
      Path.read special (if c = '/' ∨ (special ∧ c = '\\') then tail else c :: tail)
  .ok ⟨scheme, some authority, .segments segments, query, fragment⟩

/-- Whether a character is as good as a slash in a scheme of the web's own. -/
def isSlash (c : Char) : Bool :=
  c == '/' || c == '\\'

/-- Reads what follows the colon of the scheme of files. A host is given after two slashes, unless a
drive letter stands in its place. -/
def readFile (scheme cs : List Char) : Except UrlError Url := do
  let (path, query, fragment) := readTail true cs
  let fileAt := fun (host path : List Char) =>
    (⟨scheme, some ⟨[], [], host, none⟩, .segments (Path.readFile path), query, fragment⟩ : Url)
  match path with
  | a :: b :: rest =>
    if isSlash a ∧ isSlash b then
      let written := rest.takeWhile fun c => !isSlash c
      let after := rest.drop written.length
      if written.isEmpty ∨ Path.isDrive written then .ok (fileAt [] rest)
      else do
        let host ← Host.read written
        let host := if host = "localhost".toList then [] else host
        let first := (after.drop 1).takeWhile fun c => !isSlash c
        .ok (fileAt (if Path.isDrive first then [] else host) (after.drop 1))
    else .ok (fileAt [] (if isSlash a then b :: rest else path))
  | [a] => .ok (fileAt [] (if isSlash a then [] else [a]))
  | [] => .ok (fileAt [] [])

/-- Reads what follows the colon of a scheme that is not one of the web's own. -/
def readOther (scheme cs : List Char) : Except UrlError Url :=
  match cs with
  | '/' :: '/' :: rest => readHierarchy scheme rest
  | _ =>
    let (path, query, fragment) := readTail false cs
    let path := match path with
      | '/' :: rest => .segments (Path.read false rest)
      | _ => .opaqueText (encode isControl path)
    .ok ⟨scheme, none, path, query, fragment⟩

/-- Reads an address. -/
def parse (s : String) : Except UrlError Url :=
  let outer := fun (c : Char) => c.toNat ≤ 0x20
  let trimmed := ((s.toList.dropWhile outer).reverse.dropWhile outer).reverse
  match readScheme? (trimmed.filter fun c => !isPassedOver c) with
  | none => .error .noScheme
  | some (scheme, rest) =>
    if scheme = "file".toList then readFile scheme rest
    else if isSpecialScheme scheme then readHierarchy scheme (rest.dropWhile isSlash)
    else readOther scheme rest

end RateHerald.Url
