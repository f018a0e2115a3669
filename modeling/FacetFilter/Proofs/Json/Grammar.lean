import FacetFilter.Json.Node
import FacetFilter.Text.Hexadecimal

/-! The grammar of JSON text: which texts stand for a node. A node has many of them, which differ in
white space, in the escapes of its strings and in how the exponents of its numbers are written.
Nothing is derived for a node that is broken off, nor for a string in which half of a surrogate
pair stands alone. -/

namespace FacetFilter.Json.Grammar

/-- White space between tokens. -/
def Spaces (w : List Char) : Prop := ∀ c ∈ w, c = ' ' ∨ c = '\n' ∨ c = '\t' ∨ c = '\x0d'

/-! ## Numbers -/

/-- One or more decimal digits. -/
def DigitRun (ds : List Char) : Prop := ds ≠ [] ∧ ∀ d ∈ ds, d.isDigit = true

/-- Digits of which the first is a zero only where it is the only one. -/
def WholePart (ds : List Char) : Prop := DigitRun ds ∧ (ds.head? = some '0' → ds = ['0'])

/-- The digits after the point, which is left out when there are none. -/
inductive FractionText : List Char → List Char → Prop where
  | none : FractionText [] []
  | digits {ds : List Char} : DigitRun ds → FractionText ds ('.' :: ds)

/-- The exponent with its sign, which may be left out when it is positive. -/
inductive ExponentText : Option (Bool × List Char) → List Char → Prop where
  | none : ExponentText none []
  | bare {e : Char} {ds : List Char} :
      e = 'e' ∨ e = 'E' → DigitRun ds → ExponentText (some (false, ds)) (e :: ds)
  | plus {e : Char} {ds : List Char} :
      e = 'e' ∨ e = 'E' → DigitRun ds → ExponentText (some (false, ds)) (e :: '+' :: ds)
  | minus {e : Char} {ds : List Char} :
      e = 'e' ∨ e = 'E' → DigitRun ds → ExponentText (some (true, ds)) (e :: '-' :: ds)

inductive NumeralText : Numeral → List Char → Prop where
  | parts {n : Numeral} {fraction exponent : List Char} : WholePart n.whole →
      FractionText n.fraction fraction → ExponentText n.exponent exponent →
      NumeralText n ((if n.negative then ['-'] else []) ++ n.whole ++ fraction ++ exponent)

/-! ## Strings -/

/-- The letters that make an escape with a backslash before them, and what they stand for. -/
def escapes : List (Char × Char) :=
  [('"', '"'), ('\\', '\\'), ('/', '/'), ('b', '\x08'), ('f', '\x0c'), ('n', '\n'), ('r', '\x0d'),
    ('t', '\t')]

/-- A code unit as four hexadecimal digits, in either case. -/
def UnitText (u : Nat) (ds : List Char) : Prop := ds.length = 4 ∧ Text.hexNumber? ds = some u

/-- What may stand between quotes for some characters. One past U+FFFF may be given by the two
halves of its surrogate pair. -/
inductive Spelled : List Char → List Char → Prop where
  | nil : Spelled [] []
  | plain {c : Char} {cs t : List Char} : 0x20 ≤ c.toNat → c ≠ '"' → c ≠ '\\' →
      Spelled cs t → Spelled (c :: cs) (c :: t)
  | escape {letter c : Char} {cs t : List Char} : (letter, c) ∈ escapes →
      Spelled cs t → Spelled (c :: cs) ('\\' :: letter :: t)
  | unit {u : Nat} {ds cs t : List Char} : UnitText u ds → ¬(0xD800 ≤ u ∧ u ≤ 0xDFFF) →
      Spelled cs t → Spelled (Char.ofNat u :: cs) ('\\' :: 'u' :: ds ++ t)
  | pair {high low : Nat} {ds es cs t : List Char} : UnitText high ds → UnitText low es →
      0xD800 ≤ high ∧ high ≤ 0xDBFF → 0xDC00 ≤ low ∧ low ≤ 0xDFFF → Spelled cs t →
      Spelled (Char.ofNat (0x10000 + (high - 0xD800) * 0x400 + (low - 0xDC00)) :: cs)
        ('\\' :: 'u' :: ds ++ '\\' :: 'u' :: es ++ t)

/-! ## Documents -/

/-- The parts that documents are made of. An element is a value with white space around it; items
and members stand between brackets, with commas between them. -/
inductive Phrase where
  | value (v : Node)
  | element (v : Node)
  | items (vs : List Node)
  | member (m : StringText × Node)
  | members (ms : List (StringText × Node))

/-- The texts of each part. -/
inductive Written : Phrase → List Char → Prop where
  | null : Written (.value .null) ['n', 'u', 'l', 'l']
  | false : Written (.value (.boolean false)) ['f', 'a', 'l', 's', 'e']
  | true : Written (.value (.boolean true)) ['t', 'r', 'u', 'e']
  | number {n : Numeral} {t : List Char} : NumeralText n t → Written (.value (.number n)) t
  | string {cs t : List Char} : Spelled cs t →
      Written (.value (.string (some (String.ofList cs)))) ('"' :: t ++ ['"'])
  | emptyArray {w : List Char} : Spaces w → Written (.value (.array [] none)) ('[' :: w ++ [']'])
  | array {vs : List Node} {t : List Char} : Written (.items vs) t →
      Written (.value (.array vs none)) ('[' :: t ++ [']'])
  | emptyObject {w : List Char} : Spaces w →
      Written (.value (.object [] none)) ('\x7b' :: w ++ ['\x7d'])
  | object {ms : List (StringText × Node)} {t : List Char} : Written (.members ms) t →
      Written (.value (.object ms none)) ('\x7b' :: t ++ ['\x7d'])
  | element {v : Node} {w t w' : List Char} : Spaces w → Written (.value v) t → Spaces w' →
      Written (.element v) (w ++ t ++ w')
  | lastItem {v : Node} {t : List Char} : Written (.element v) t → Written (.items [v]) t
  | item {v : Node} {vs : List Node} {t ts : List Char} : Written (.element v) t →
      Written (.items vs) ts → Written (.items (v :: vs)) (t ++ ',' :: ts)
  | member {key : List Char} {v : Node} {w k w' t : List Char} : Spaces w → Spelled key k →
      Spaces w' → Written (.element v) t →
      Written (.member (some (String.ofList key), v)) (w ++ '"' :: k ++ '"' :: w' ++ ':' :: t)
  | lastMember {m : StringText × Node} {t : List Char} : Written (.member m) t →
      Written (.members [m]) t
  | moreMembers {m : StringText × Node} {ms : List (StringText × Node)} {t ts : List Char} :
      Written (.member m) t → Written (.members ms) ts →
      Written (.members (m :: ms)) (t ++ ',' :: ts)

/-- Digits alone are a number. -/
theorem written_digits {ds : List Char} (h : WholePart ds) :
    Written (.value (.number ⟨false, ds, [], none⟩)) ds := by
  have hn := NumeralText.parts (n := ⟨false, ds, [], none⟩) h .none .none
  simpa using Written.number hn

/-- A value without white space around it. -/
theorem written_bare {v : Node} {t : List Char} (h : Written (.value v) t) :
    Written (.element v) t := by
  have hnone : Spaces [] := by simp [Spaces]
  simpa using Written.element hnone h hnone

/-- A text is a document with a node as its value. -/
def Denotes (text : String) (root : Node) : Prop := Written (.element root) text.toList

end FacetFilter.Json.Grammar
