import FacetFilter.Pattern.Basic

/-! Which patterns are supported. What a pattern matches is UTF-8 throughout, and no tables of
Unicode are at hand: so where characters are matched, nothing may ask for their case or for the
classes that Unicode makes of them, and where octets are matched, nothing may match an octet
outside ASCII. -/

namespace FacetFilter.Pattern

structure Mode where
  /-- Characters are matched, not octets. -/
  unicode : Bool
  /-- Letters match in either case. -/
  anyCase : Bool
deriving DecidableEq, Repr

def Mode.initial : Mode := ⟨true, false⟩

def Mode.withFlags (m : Mode) (f : Flags) : Mode :=
  ⟨f.state 'u' m.unicode, f.state 'i' m.anyCase⟩

/-- An octet outside ASCII is no character. -/
def Literal.isSupported (m : Mode) (l : Literal) : Bool :=
  if m.unicode then !m.anyCase else !(l.isOctet && 0x7F < l.char.toNat)

/-- In a set of octets no character outside ASCII can stand. -/
def Literal.isSupportedInSet (m : Mode) (l : Literal) : Bool :=
  if m.unicode then !m.anyCase else l.char.toNat ≤ 0x7F

/-- The classes have members outside ASCII when characters are matched, and all others always
have. -/
def isShorthandSupported (m : Mode) (negated : Bool) : Bool := !m.unicode && !negated

mutual

def SetItem.isSupported (m : Mode) : SetItem → Bool
  | .literal l => l.isSupportedInSet m
  | .range low high => low.isSupportedInSet m && high.isSupportedInSet m
  | .shorthand negated => isShorthandSupported m negated
  | .named negated => if m.unicode then !m.anyCase else !negated
  | .nested negated s => (m.unicode || !negated) && s.isSupported m

def CharSet.isSupported (m : Mode) : CharSet → Bool
  | .union items => SetItem.areSupported m items
  | .combined left right => left.isSupported m && right.isSupported m

def SetItem.areSupported (m : Mode) : List SetItem → Bool
  | [] => true
  | item :: items => item.isSupported m && SetItem.areSupported m items

end

mutual

/-- The mode after a pattern, if it is supported. Flags hold to the end of their group, from
one alternative into the next. -/
def modeAfter? (m : Mode) : Pattern → Option Mode
  | .literal l => if l.isSupported m then some m else none
  | .dot => if m.unicode then some m else none
  | .anchor => some m
  | .wordBoundary => if m.unicode then none else some m
  | .shorthand negated => if isShorthandSupported m negated then some m else none
  | .set negated s => if (m.unicode || !negated) && s.isSupported m then some m else none
  | .flags f => some (m.withFlags f)
  | .repeated p => modeAfter? m p
  | .group f p => (modeAfter? (m.withFlags f) p).map fun _ => m
  | .sequence ps => modeAfterAll? m ps
  | .choice ps => modeAfterAll? m ps

def modeAfterAll? (m : Mode) : List Pattern → Option Mode
  | [] => some m
  | p :: ps => (modeAfter? m p).bind fun m => modeAfterAll? m ps

end

/-- The levels of nesting that are allowed. -/
def depthLimit : Nat := 250

def isSupported (p : Pattern) : Bool := p.depth ≤ depthLimit && (modeAfter? .initial p).isSome

end FacetFilter.Pattern
