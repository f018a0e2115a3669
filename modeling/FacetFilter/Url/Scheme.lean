/-! Schemes of URLs. Web schemes have a host and a default port, `file` has its own rules for
hosts and drive letters, and every other scheme follows the general syntax. -/

namespace FacetFilter.Url

inductive Kind where
  | web (defaultPort : Nat)
  | file
  | general
deriving DecidableEq, Repr

/-- In web and file URLs a backslash separates like a slash. -/
def Kind.isSpecial : Kind → Bool
  | .web _ | .file => true
  | .general => false

/-- The kind of a scheme in lower case. -/
def Kind.ofScheme (scheme : List Char) : Kind :=
  match String.ofList scheme with
  | "http" | "ws" => .web 80
  | "https" | "wss" => .web 443
  | "ftp" => .web 21
  | "file" => .file
  | _ => .general

/-- Whether a character separates path segments, and ends a host. -/
def Kind.separates (kind : Kind) (c : Char) : Bool := c == '/' || (kind.isSpecial && c == '\\')

/-- The characters of a scheme after the first, which is a letter. -/
def inScheme (c : Char) : Bool := c.isAlphanum || c == '+' || c == '-' || c == '.'

/-- The text before the first colon as a scheme, in lower case. -/
def scheme? (cs : List Char) : Option (List Char) :=
  match cs with
  | first :: more =>
    if first.isAlpha && more.all inScheme then some (cs.map Char.toLower) else none
  | [] => none

end FacetFilter.Url
