/-!
# Why a text is not an address on the web
-/

namespace RateHerald

/-- Why a text is not an address on the web. -/
inductive UrlError where
  /-- There is no scheme. -/
  | noScheme
  /-- There is no host where one is needed. -/
  | emptyHost
  /-- The port is not a number up to 65535. -/
  | invalidPort
  /-- The host looks like an IPv4 address and is none. -/
  | invalidIpv4
  /-- The host looks like an IPv6 address and is none. -/
  | invalidIpv6
  /-- The host is not a domain name. -/
  | invalidDomain
  /-- The host holds a character that no host may hold. -/
  | invalidHostChar
deriving Repr, DecidableEq

/-- The reason in words. -/
def UrlError.message : UrlError → String
  | .noScheme => "relative URL without a base"
  | .emptyHost => "empty host"
  | .invalidPort => "invalid port number"
  | .invalidIpv4 => "invalid IPv4 address"
  | .invalidIpv6 => "invalid IPv6 address"
  | .invalidDomain => "invalid international domain name"
  | .invalidHostChar => "invalid domain character"

end RateHerald
