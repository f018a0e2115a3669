import FacetFilter.Text.Quoted

/-! Why a text is no absolute URL. -/

namespace FacetFilter

namespace Url

inductive Flaw where
  | relative
  | emptyHost
  | invalidPort
  | invalidIpv4
  | invalidIpv6
  /-- A character that no host of a general scheme may hold. -/
  | invalidDomainCharacter
  /-- A name that no host of a web or file scheme may have. -/
  | invalidDomain
  /-- The text is too long. -/
  | overflow
deriving DecidableEq, Repr

def Flaw.message : Flaw → String
  | .relative => "relative URL without a base"
  | .emptyHost => "empty host"
  | .invalidPort => "invalid port number"
  | .invalidIpv4 => "invalid IPv4 address"
  | .invalidIpv6 => "invalid IPv6 address"
  | .invalidDomainCharacter => "invalid domain character"
  | .invalidDomain => "invalid international domain name"
  | .overflow => "URLs more than 4 GB are not supported"

end Url

/-- A text that was given for the URL of a page, and what is wrong with it. -/
structure UrlError where
  text : String
  flaw : Url.Flaw
deriving DecidableEq, Repr

def UrlError.message (e : UrlError) : String :=
  "invalid page URL " ++ Text.quoted e.text ++ ": " ++ e.flaw.message

end FacetFilter
