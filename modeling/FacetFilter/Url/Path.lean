import FacetFilter.Text.Pieces
import FacetFilter.Url.Allowed
import FacetFilter.Url.Scheme

/-! Paths of URLs. A rooted path is a list of segments, from which the dot segments have been
resolved; a rootless path, as in `mailto:` URLs, is a text without structure. -/

namespace FacetFilter.Url

/-- A rooted path without segments is empty text. -/
inductive Path where
  | rooted (segments : List (List Char))
  | rootless (text : List Char)
deriving DecidableEq, Repr

namespace Path

def text : Path → List Char
  | .rooted [] => []
  | .rooted segments => '/' :: Text.join '/' segments
  | .rootless cs => cs

def isRootless : Path → Bool
  | .rooted _ => false
  | .rootless _ => true

/-- A segment that stands for the place it is in. -/
def isDot (segment : List Char) : Bool :=
  [".", "%2e"].contains (String.ofList (segment.map Char.toLower))

/-- A segment that stands for the place above. -/
def isDoubleDot (segment : List Char) : Bool :=
  ["..", ".%2e", "%2e.", "%2e%2e"].contains (String.ofList (segment.map Char.toLower))

/-- A letter with a colon or a bar after it. -/
def isDrive : List Char → Bool
  | [letter, mark] => letter.isAlpha && (mark == ':' || mark == '|')
  | _ => false

/-- A drive letter, alone or with a backslash after it, which no double dot removes. -/
def holdsFast : List Char → Bool
  | letter :: mark :: rest => isDrive [letter, mark] && (rest.isEmpty || rest.head? == some '\\')
  | _ => false

/-- The segments, innermost first, without the innermost. -/
def up : List (List Char) → List (List Char)
  | [] => []
  | segment :: below => if holdsFast segment then segment :: below else below

/-- The first segment of a file path, when it is a drive letter, is written with a colon. -/
def settled (kind : Kind) (below : List (List Char)) (segment : List Char) : List Char :=
  match segment with
  | [letter, _] =>
    if kind = .file ∧ below.isEmpty ∧ isDrive segment then [letter, ':'] else segment
  | _ => segment

/-- A letter with a colon at the start of a segment, when a break and then more of the segment
come after it, and what comes after. -/
def driveAtBreak? (segment : List Char) : Option (List Char × List Char) :=
  match segment.dropWhile isBreak with
  | letter :: rest =>
    match rest.dropWhile isBreak with
    | ':' :: mark :: rest =>
      let after := withoutBreaks rest
      if letter.isAlpha && isBreak mark && !after.isEmpty then some ([letter, ':'], after) else none
    | _ => none
  | [] => none

example : driveAtBreak? "C:\t../x".toList = some ("C:".toList, "../x".toList) := by decide +kernel
example : driveAtBreak? "C:\t".toList = none := by decide +kernel
example : driveAtBreak? "C:f\too".toList = none := by decide +kernel

/-- The segments as they are followed. -/
structure Trail where
  segments : List (List Char)
  /-- A drive letter came first, as a whole segment. -/
  hasDrive : Bool

/-- Follows segments from the place given by `below`, innermost first. A dot segment at the
end leaves an empty segment. In a file path a break after a drive letter that comes first ends
the segment, and what is left of it stands for itself even if it is a dot segment. -/
def follow (kind : Kind) (hasDrive : Bool) (below : List (List Char)) : List (List Char) → Trail
  | [] => ⟨below.reverse, hasDrive⟩
  | segment :: more =>
    let isFirst := kind = .file ∧ below.isEmpty
    match if isFirst then driveAtBreak? segment else none with
    | some (drive, after) =>
      follow kind hasDrive (Text.Percent.escape inPath after :: drive :: below) more
    | none =>
      let segment := Text.Percent.escape inPath (withoutBreaks segment)
      let below' :=
        if isDoubleDot segment then up below
        else if isDot segment then below
        else settled kind below segment :: below
      if more.isEmpty && (isDoubleDot segment || isDot segment) then
        ⟨([] :: below').reverse, hasDrive⟩
      else follow kind (hasDrive || (isFirst ∧ isDrive segment)) below' more

/-- The trail of the text after the root slash, in which breaks may stand. -/
def trail (kind : Kind) (cs : List Char) : Trail :=
  follow kind false [] (cs.splitOnP kind.separates)

def segments (kind : Kind) (cs : List Char) : List (List Char) := (trail kind cs).segments

/-- The segments without the empty ones that stand before another. -/
def withoutLeadingEmpty : List (List Char) → List (List Char)
  | [] :: segment :: more => withoutLeadingEmpty (segment :: more)
  | segments => segments

end Path

end FacetFilter.Url
