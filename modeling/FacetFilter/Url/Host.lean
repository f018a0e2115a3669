import FacetFilter.Text.Utf8
import FacetFilter.Url.Allowed
import FacetFilter.Url.Flaw
import FacetFilter.Url.Ipv4
import FacetFilter.Url.Ipv6

/-! Hosts. Web and file URLs have names in lower case and numeric addresses; in other URLs a
name is kept as it is written, and only an address in brackets is recognized. How a name of a
web or file URL is written in ASCII depends on tables of all scripts, so the mapping is an
argument here. -/

namespace FacetFilter.Url

inductive Host where
  | empty
  | name (text : List Char)
  | ipv4 (address : Nat)
  | ipv6 (pieces : List Nat)
deriving DecidableEq, Repr

namespace Host

def text : Host → List Char
  | .empty => []
  | .name cs => cs
  | .ipv4 address => Ipv4.text address
  | .ipv6 pieces => '[' :: Ipv6.text pieces ++ [']']

/-- An address in brackets; `rest` is what follows the opening one. -/
def ofBracketed (rest : List Char) : Except Flaw Host :=
  if rest.getLast? = some ']' then
    match Ipv6.pieces? rest.dropLast with
    | some pieces => .ok (.ipv6 pieces)
    | none => .error .invalidIpv6
  else .error .invalidIpv6

/-- The characters that no name of a web or file host may hold. -/
def isForbiddenInName (c : Char) : Bool :=
  c.toNat ≤ 0x20 || c.toNat == 0x7F || "%#/:<>?@[\\]^|".toList.contains c

/-- The mapping of names that are ASCII and have no label in Punycode: it makes letters small.
Every other name is refused, like one with a character that names may not have. -/
def asciiName (cs : List Char) : Option (List Char) :=
  let name := cs.map Char.toLower
  if name.any (fun c => isForbiddenInName c || 0x80 ≤ c.toNat) ||
      (Text.pieces '.' name).any ("xn--".toList.isPrefixOf ·) then none
  else some name

/-- What a name in ASCII stands for; one that ends in a number has to be an address. -/
def ofName (name : List Char) : Except Flaw Host :=
  if name.isEmpty then .error .emptyHost
  else if Ipv4.isMeant name then
    match Ipv4.address? name with
    | some address => .ok (.ipv4 address)
    | none => .error .invalidIpv4
  else .ok (.name name)

/-- The host of a web or file URL. Escapes in a name are resolved before it is mapped. -/
def ofSpecial (toAscii : List Char → Option (List Char)) : List Char → Except Flaw Host
  | '[' :: rest => ofBracketed rest
  | cs =>
    match (Text.Utf8.decode? (Text.Percent.unescape (Text.Utf8.encode cs))).bind toAscii with
    | none => .error .invalidDomain
    | some mapped => ofName mapped

/-- The characters that no host of a general URL may hold. -/
def isForbiddenInGeneral (c : Char) : Bool :=
  c == '\x00' || "\t\n\x0d #/:<>?@[\\]^|".toList.contains c

/-- The host of a general URL, which may be empty. -/
def ofGeneral : List Char → Except Flaw Host
  | [] => .ok .empty
  | '[' :: rest => ofBracketed rest
  | cs =>
    if cs.any isForbiddenInGeneral then .error .invalidDomainCharacter
    else .ok (.name (Text.Percent.escape inRootless cs))

end Host

end FacetFilter.Url
