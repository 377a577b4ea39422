set_option autoImplicit false

/-!
# What can be wrong with a URL

## Main definitions

* `BookFeed.Url.Error`, `BookFeed.Url.Error.message` — the faults and their wording.
-/

namespace BookFeed.Url

/-- Why a text is no URL. -/
inductive Error where
  /-- There is no scheme, and nothing to be relative to. -/
  | relativeWithoutBase
  /-- There is no scheme, and what it would be relative to has no hierarchy. -/
  | relativeToPlainPath
  /-- A scheme that needs a host, and no host. -/
  | emptyHost
  /-- A port that is no number of 16 bits. -/
  | invalidPort
  /-- A host that ends in a number and is no IPv4 address. -/
  | invalidIpv4
  /-- Brackets without an IPv6 address in them. -/
  | invalidIpv6
  /-- A host that no domain name can be. -/
  | invalidDomain
  /-- A character that no host may have, where hosts are otherwise free. -/
  | invalidHostCharacter
deriving DecidableEq, Repr

/-- The wording of a fault. -/
def Error.message : Error → String
  | .relativeWithoutBase => "relative URL without a base"
  | .relativeToPlainPath => "relative URL with a cannot-be-a-base base"
  | .emptyHost => "empty host"
  | .invalidPort => "invalid port number"
  | .invalidIpv4 => "invalid IPv4 address"
  | .invalidIpv6 => "invalid IPv6 address"
  | .invalidDomain => "invalid international domain name"
  | .invalidHostCharacter => "invalid domain character"

end BookFeed.Url
