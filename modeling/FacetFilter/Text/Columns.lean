/-! Text in columns and lines. A column is filled up with spaces to a width that is counted in
characters, and left as it is when it is wider. A line ends with a line feed. -/

namespace FacetFilter.Text

/-- Fills up on the right. -/
def padRight (width : Nat) (s : String) : String :=
  s ++ String.ofList (List.replicate (width - s.toList.length) ' ')

/-- Fills up on the left. -/
def padLeft (width : Nat) (s : String) : String :=
  String.ofList (List.replicate (width - s.toList.length) ' ') ++ s

/-- The text that lines make, one after another. -/
def ofLines (lines : List String) : String := String.join (lines.map (· ++ "\n"))

end FacetFilter.Text
