/-! Blank characters and trimming. A character is blank when Unicode gives it the
property White_Space; trimming removes blanks at both ends and nothing in between. -/

namespace FacetFilter.Text

/-- The code points with the property White_Space: the five controls from tabulation to
carriage return, the space, and the spaces and separators outside ASCII. -/
def isBlank (c : Char) : Bool :=
  let n := c.toNat
  (9 ≤ n && n ≤ 13) || n == 0x20 || n == 0x85 || n == 0xA0 || n == 0x1680 ||
    (0x2000 ≤ n && n ≤ 0x200A) || n == 0x2028 || n == 0x2029 || n == 0x202F || n == 0x205F ||
    n == 0x3000

/-- A text without the blanks at its ends. -/
def trim (cs : List Char) : List Char :=
  ((cs.dropWhile isBlank).reverse.dropWhile isBlank).reverse

/-- `trim` on strings. -/
def trimmed (s : String) : String := String.ofList (trim s.toList)

/-- The first character of a text from which leading blanks were dropped is no blank. -/
theorem head?_dropWhile_isBlank (cs : List Char) :
    ∀ c ∈ (cs.dropWhile isBlank).head?, isBlank c = false := by
  intro c hc
  have h := List.head?_dropWhile_not isBlank cs
  rw [Option.mem_def] at hc
  simpa [hc] using h

@[simp] theorem trim_nil : trim [] = [] := rfl

/-- Trimming takes nothing from a text whose ends are no blanks. -/
theorem trim_eq_self {cs : List Char} (hd : ∀ c ∈ cs.head?, isBlank c = false)
    (hl : ∀ c ∈ cs.getLast?, isBlank c = false) : trim cs = cs := by
  have drop : ∀ l : List Char, (∀ c ∈ l.head?, isBlank c = false) → l.dropWhile isBlank = l := by
    intro l h
    cases l with
    | nil => rfl
    | cons a l => simp [h a (by simp)]
  rw [trim, drop cs hd, drop cs.reverse (by simpa using hl), List.reverse_reverse]

end FacetFilter.Text
