import FacetFilter.Url.Flaw

/-! The library that reads and changes URLs, by what the program asks of it. Its URLs are a type of
its own; what is seen of one are the parts of its text. -/

namespace FacetFilter

/-- The parts of the text of a URL. -/
structure UrlParts where
  /-- The text up to the end of the path. -/
  front : List Char
  /-- Whether the path is a text without structure, as in `mailto:` URLs. -/
  isOpaque : Bool
  query : Option (List Char)
  fragment : Option (List Char)
deriving DecidableEq, Repr

namespace UrlParts

/-- A part with the character that introduces it, or nothing. -/
def introduced (mark : Char) : Option (List Char) → List Char
  | some cs => mark :: cs
  | none => []

/-- The parts as they are written. -/
def chars (p : UrlParts) : List Char :=
  p.front ++ introduced '?' p.query ++ introduced '#' p.fragment

end UrlParts

/-- A library for URLs. -/
structure UrlLibrary where
  Parsed : Type
  parse : String → Except Url.Flaw Parsed
  text : Parsed → String
  parts : Parsed → UrlParts
  withoutFragment : Parsed → Parsed
  /-- The URL with another query, or with none. -/
  withQuery : Parsed → Option (List Char) → Parsed

end FacetFilter
