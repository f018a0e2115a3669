/-! Patterns for the values of fields: regular expressions with groups, sets of characters and
flags. Nothing is matched with them, they are only read and checked; so a repetition keeps
neither its bounds nor its preference, and a set does not keep by which operator its halves are
combined. -/

namespace FacetFilter

namespace Pattern

/-- Flags that are turned on and flags that are turned off together, by their letters. -/
structure Flags where
  on : List Char
  off : List Char
deriving DecidableEq, Repr

/-- What a flag comes to when it was `before`. -/
def Flags.state (f : Flags) (letter : Char) (before : Bool) : Bool :=
  if f.on.contains letter then true else if f.off.contains letter then false else before

structure Literal where
  char : Char
  /-- It was written with two hexadecimal digits, and may stand for an octet. -/
  isOctet : Bool
deriving DecidableEq, Repr

mutual

/-- What a set of characters is made up of. -/
inductive SetItem where
  | literal (l : Literal)
  | range (low high : Literal)
  /-- The digits, the blanks or the characters of words, or all others. -/
  | shorthand (negated : Bool)
  /-- A class of ASCII characters given by its name, or all others. -/
  | named (negated : Bool)
  | nested (negated : Bool) (set : CharSet)

inductive CharSet where
  | union (items : List SetItem)
  | combined (left right : CharSet)

end

end Pattern

inductive Pattern where
  | literal (l : Pattern.Literal)
  /-- Any character but the end of a line. -/
  | dot
  /-- The start or the end of the text or of a line. -/
  | anchor
  /-- The start or the end of a word, or a place that is neither. -/
  | wordBoundary
  | shorthand (negated : Bool)
  | set (negated : Bool) (s : Pattern.CharSet)
  /-- Flags for the rest of the group. -/
  | flags (f : Pattern.Flags)
  | repeated (p : Pattern)
  /-- A group, with the flags for what is in it. -/
  | group (f : Pattern.Flags) (p : Pattern)
  | sequence (ps : List Pattern)
  | choice (ps : List Pattern)

namespace Pattern

/-- Patterns one after another; one alone stands for itself. -/
def ofSequence : List Pattern → Pattern
  | [p] => p
  | ps => .sequence ps

/-- Alternatives; one alone stands for itself. -/
def ofChoice : List Pattern → Pattern
  | [p] => p
  | ps => .choice ps

/-- A list adds a level of nesting when it has more than one element. -/
def levels (size : Nat) : Nat := if size ≤ 1 then 0 else 1

mutual

/-- The levels of nesting in an item of a set. -/
def SetItem.depth : SetItem → Nat
  | .nested _ s => s.depth + 1
  | _ => 0

def CharSet.depth : CharSet → Nat
  | .union items => SetItem.maxDepth items + levels items.length
  | .combined left right => max left.depth right.depth + 1

def SetItem.maxDepth : List SetItem → Nat
  | [] => 0
  | item :: items => max item.depth (SetItem.maxDepth items)

end

mutual

/-- The levels of nesting: sets, repetitions, groups, sequences and alternatives. -/
def depth : Pattern → Nat
  | .set _ s => s.depth + 1
  | .repeated p => p.depth + 1
  | .group _ p => p.depth + 1
  | .sequence ps => maxDepth ps + levels ps.length
  | .choice ps => maxDepth ps + levels ps.length
  | _ => 0

def maxDepth : List Pattern → Nat
  | [] => 0
  | p :: ps => max p.depth (maxDepth ps)

end

end Pattern

end FacetFilter
