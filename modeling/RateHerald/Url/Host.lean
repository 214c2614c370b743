import RateHerald.Decimal.Reader
import RateHerald.Decimal.Written
import RateHerald.Url.Domain
import RateHerald.Url.Form
import RateHerald.Url.UrlError

/-!
# Hosts

The host of a web address is an IPv6 address between square brackets, an IPv4 address, or a domain
name. Numbers of an IPv4 address may be written in base eight, ten or sixteen, and the last of them
may stand for several bytes. Every host is kept in one written form. Where the scheme is not one of
the web's own, a host is any text without the characters that divide an address.

## Main declarations

* `Host.readIpv4` and `Host.readIpv6` read numeric hosts; `Host.writeIpv4` and `Host.writeIpv6`
  write them.
* `Host.read` reads the host of a web address, `Host.readOpaque` that of another address.
-/

namespace RateHerald.Url.Host

/-! ## IPv4 -/

/-- The value of digits in a base of at most sixteen, if they are all digits of that base. -/
def digitsIn? (base : Nat) (cs : List Char) : Option Nat :=
  cs.foldlM (fun n c => do
    let d ← hexValue? c
    if d < base then some (base * n + d) else none) 0

/-- A number of an IPv4 address: base sixteen after `0x`, base eight after a leading zero, else base
ten. -/
def number? (cs : List Char) : Option Nat :=
  match cs with
  | [] => none
  | '0' :: 'x' :: rest => digitsIn? 16 rest
  | '0' :: 'X' :: rest => digitsIn? 16 rest
  | '0' :: c :: rest => digitsIn? 8 (c :: rest)
  | _ => digitsIn? 10 cs

/-- The labels of a name, without the empty one after a final point. -/
def labels (cs : List Char) : List (List Char) :=
  let parts := Form.splitAt '.' cs
  if parts.getLast? = some [] then parts.dropLast else parts

/-- Whether the last label is a number, so that the host can only be an IPv4 address. -/
def endsInNumber (cs : List Char) : Bool :=
  match (labels cs).getLast? with
  | none => false
  | some part => (!part.isEmpty && part.all Char.isDigit) || (number? part).isSome

/-- The value of an IPv4 address: all numbers but the last are bytes, and the last fills the rest.
-/
def readIpv4 (cs : List Char) : Except UrlError Nat :=
  match (labels cs).mapM number? with
  | none => .error .invalidIpv4
  | some ns =>
    match ns.getLast? with
    | none => .error .invalidIpv4
    | some last =>
      let front := ns.dropLast
      if ns.length > 4 || front.any (· > 255) || last ≥ Nat.pow 256 (5 - ns.length) then
        .error .invalidIpv4
      else
        .ok (front.zipIdx.foldl (fun sum (n, i) => sum + n * Nat.pow 256 (3 - i)) last)

/-- An IPv4 address as four bytes. -/
def writeIpv4 (n : Nat) : List Char :=
  Decimal.digits (n / Nat.pow 256 3 % 256) ++ '.' :: Decimal.digits (n / Nat.pow 256 2 % 256) ++
    '.' :: Decimal.digits (n / 256 % 256) ++ '.' :: Decimal.digits (n % 256)

/-! ## IPv6 -/

/-- A piece of an IPv6 address: one to four hexadecimal digits. -/
def piece? (cs : List Char) : Option Nat :=
  if cs.isEmpty || cs.length > 4 then none else digitsIn? 16 cs

/-- A byte in base ten without leading zeros. -/
def byte? (cs : List Char) : Option Nat :=
  if cs.isEmpty || !cs.all Char.isDigit || (cs.length > 1 && cs.head? == some '0') then none
  else
    let n := Decimal.digitsValue cs
    if n ≤ 255 then some n else none

/-- The two pieces of an IPv4 address in base ten. -/
def dotted? (cs : List Char) : Option (List Nat) :=
  match (Form.splitAt '.' cs).mapM byte? with
  | some [a, b, c, d] => some [256 * a + b, 256 * c + d]
  | _ => none

/-- The pieces of a part of an IPv6 address between colons; the last may be an IPv4 address if
`atEnd` holds. -/
def pieces? (atEnd : Bool) : List (List Char) → Option (List Nat)
  | [] => some []
  | [part] =>
    if atEnd && part.contains '.' then dotted? part else (piece? part).map fun n => [n]
  | part :: rest => do
    let n ← piece? part
    let ns ← pieces? atEnd rest
    some (n :: ns)

/-- The texts before and after the first double colon. -/
def splitDouble? : List Char → Option (List Char × List Char)
  | ':' :: ':' :: rest => some ([], rest)
  | c :: rest => (splitDouble? rest).map fun (a, b) => (c :: a, b)
  | [] => none

/-- The parts of a text between colons, none if there is no text. -/
def colonParts (cs : List Char) : List (List Char) :=
  if cs.isEmpty then [] else Form.splitAt ':' cs

/-- The eight pieces of an IPv6 address; a double colon stands for one or more zero pieces. -/
def readIpv6 (cs : List Char) : Except UrlError (List Nat) :=
  let pieces := match splitDouble? cs with
    | none => do
      let ns ← pieces? true (colonParts cs)
      if ns.length = 8 then some ns else none
    | some (before, after) => do
      let ns ← pieces? false (colonParts before)
      let ms ← pieces? true (colonParts after)
      if ns.length + ms.length ≤ 7 then
        some (ns ++ List.replicate (8 - ns.length - ms.length) 0 ++ ms)
      else none
  match pieces with
  | some ns => .ok ns
  | none => .error .invalidIpv6

/-- The length of the run of zeros at the beginning. -/
def zeroRun (ns : List Nat) : Nat :=
  (ns.takeWhile (· == 0)).length

/-- The place and length of the first longest run of zeros; `index` is the place of the first
piece. -/
def longestZeros (index : Nat) : List Nat → Nat × Nat
  | [] => (index, 0)
  | n :: rest =>
    let here := zeroRun (n :: rest)
    let (place, length) := longestZeros (index + 1) rest
    if length ≤ here then (index, here) else (place, length)

/-- Pieces with colons between them. -/
def joinPieces (ns : List Nat) : List Char :=
  [':'].intercalate (ns.map (Nat.toDigits 16))

/-- An IPv6 address between square brackets; the first longest run of two or more zero pieces is a
double colon. -/
def writeIpv6 (ns : List Nat) : List Char :=
  let (place, length) := longestZeros 0 ns
  let text :=
    if length < 2 then joinPieces ns
    else joinPieces (ns.take place) ++ ':' :: ':' :: joinPieces (ns.drop (place + length))
  '[' :: text ++ [']']

/-! ## Hosts -/

/-- Reads a host that begins with a square bracket. -/
def readBracketed (cs : List Char) : Except UrlError (List Char) :=
  if cs.getLast? = some ']' then (readIpv6 (cs.drop 1).dropLast).map writeIpv6
  else .error .invalidIpv6

/-- The written form of the host of a web address. -/
def read (cs : List Char) : Except UrlError (List Char) :=
  if cs.head? = some '[' then readBracketed cs
  else
    match (ofBytes? (decode cs)).bind Domain.toAscii? with
    | none => .error .invalidDomain
    | some [] => .error .emptyHost
    | some domain =>
      if endsInNumber domain then (readIpv4 domain).map writeIpv4 else .ok domain

/-- Whether no host may hold the character. -/
def isForbidden (c : Char) : Bool :=
  c.toNat == 0 || c == '\t' || c == '\n' || c == '\r' || c == ' ' || c == '#' || c == '/' ||
    c == ':' || c == '<' || c == '>' || c == '?' || c == '@' || c == '[' || c == '\\' || c == ']' ||
    c == '^' || c == '|'

/-- The written form of the host of an address that is not one of the web's own. -/
def readOpaque (cs : List Char) : Except UrlError (List Char) :=
  if cs.head? = some '[' then readBracketed cs
  else if cs.any isForbidden then .error .invalidHostChar
  else .ok (encode isControl cs)

end RateHerald.Url.Host
