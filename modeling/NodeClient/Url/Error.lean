/-
  NodeClient.Url.Error
  ────────────────────
  Why a text is no URL, and the wording.
-/
namespace NodeClient

/-- Why a text is no URL. -/
inductive UrlError where
  /-- There is no scheme in front. -/
  | relative
  | emptyHost
  /-- The name of the host is no domain name. -/
  | invalidDomain
  /-- The name of the host has a character that no host has. -/
  | invalidHostCharacter
  | invalidAddressV4
  | invalidAddressV6
  | invalidPort
  deriving Repr, DecidableEq

/-- The wording of each cause. -/
def UrlError.message : UrlError → String
  | .relative => "relative URL without a base"
  | .emptyHost => "empty host"
  | .invalidDomain => "invalid international domain name"
  | .invalidHostCharacter => "invalid domain character"
  | .invalidAddressV4 => "invalid IPv4 address"
  | .invalidAddressV6 => "invalid IPv6 address"
  | .invalidPort => "invalid port number"

end NodeClient
