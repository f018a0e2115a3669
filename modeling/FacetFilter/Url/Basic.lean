import FacetFilter.Url.Authority
import FacetFilter.Url.Library
import FacetFilter.Url.Path

/-! Absolute URLs by their parts, and the text that the parts make up. -/

namespace FacetFilter

structure Url where
  scheme : List Char
  authority : Option Url.Authority
  path : Url.Path
  query : Option (List Char)
  fragment : Option (List Char)
deriving DecidableEq, Repr

namespace Url

def kind (u : Url) : Kind := .ofScheme u.scheme

/-- The text between the scheme and the path. Where there is no authority, a path that begins
with two slashes has a dot segment before it. -/
def beforePath (u : Url) : List Char :=
  match u.authority with
  | some a => '/' :: '/' :: a.text
  | none => if ['/', '/'].isPrefixOf u.path.text then ['/', '.'] else []

/-- The text up to the end of the path. -/
def front (u : Url) : List Char := u.scheme ++ ':' :: u.beforePath ++ u.path.text

def parts (u : Url) : UrlParts := ⟨u.front, u.path.isRootless, u.query, u.fragment⟩

def text (u : Url) : String := String.ofList u.parts.chars

/-- A rootless path with no query or fragment after it does not end in spaces. -/
def withoutTrailingSpaces (u : Url) : Url :=
  match u.path, u.query, u.fragment with
  | .rootless cs, none, none =>
    { u with path := .rootless (cs.reverse.dropWhile (· == ' ')).reverse }
  | _, _, _ => u

def withoutFragment (u : Url) : Url := { u with fragment := none }.withoutTrailingSpaces

/-- The URL with another query, escaped as its scheme asks, or with none. -/
def withQuery (u : Url) : Option (List Char) → Url
  | some cs => { u with query := some (Text.Percent.escape (inQuery u.kind.isSpecial) cs) }
  | none => { u with query := none }.withoutTrailingSpaces

end Url

end FacetFilter
