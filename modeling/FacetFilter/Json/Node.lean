/-! JSON documents as they are met when text is read from left to right. A document that is
cut off or malformed is kept up to the place where reading stops, so that a decoder can tell
which comes first, a mismatch of shape or the end of well-formed text. -/

namespace FacetFilter.Json

/-- A number as it is written. -/
structure Numeral where
  negative : Bool
  whole : List Char
  fraction : List Char
  /-- Sign and digits of the exponent. -/
  exponent : Option (Bool × List Char)
deriving DecidableEq, Repr

/-- Whether a number is written without a fraction and an exponent. -/
def Numeral.isWhole (n : Numeral) : Bool := n.fraction.isEmpty && n.exponent.isNone

inductive FaultClass where
  /-- The text ends too early. -/
  | ended
  | malformed
deriving DecidableEq, Repr

/-- Why reading stops. The same place can be judged differently when the value there is wanted
and when it is only passed over. -/
structure Fault where
  wanted : FaultClass
  passed : FaultClass
deriving DecidableEq, Repr

namespace Fault

def ended : Fault := ⟨.ended, .ended⟩
def malformed : Fault := ⟨.malformed, .malformed⟩

end Fault

/-- The text of a string; a string with half of a surrogate pair has none. -/
abbrev StringText := Option String

/-- A value, or the fault in its place. An array or object that is not closed holds the fault
that ended it, and so does everything around it. -/
inductive Node where
  | null
  | boolean (b : Bool)
  | number (n : Numeral)
  | string (s : StringText)
  | array (items : List Node) (ending : Option Fault)
  | object (members : List (StringText × Node)) (ending : Option Fault)
  | broken (f : Fault)

/-- The fault that ends a node, if one does. -/
def Node.fault? : Node → Option Fault
  | .array _ ending => ending
  | .object _ ending => ending
  | .broken f => some f
  | _ => none

/-- A value and the fault of the text after it. -/
structure Document where
  root : Node
  after : Option Fault

end FacetFilter.Json
