import FacetFilter.Pattern.Basic
import FacetFilter.Text.Blank
import FacetFilter.Text.Hexadecimal
import FacetFilter.Text.Letters
import FacetFilter.Text.Pieces

/-! Reading patterns. Nothing that needs a closing brace is read: no bounds of a repetition, no
code point in braces and no property. Where patterns are `spaced`, blanks and comments may stand
between their parts. -/

namespace FacetFilter.Pattern

/-- A text without the blanks and comments at its start. -/
def afterBlanks (inComment : Bool) : List Char → List Char
  | [] => []
  | c :: rest =>
    if inComment then afterBlanks (c != '\n') rest
    else if Text.isBlank c then afterBlanks false rest
    else if c == '#' then afterBlanks true rest
    else c :: rest

def afterSpace (spaced : Bool) (cs : List Char) : List Char :=
  if spaced then afterBlanks false cs else cs

/-- What a character or an escape stands for, in a set or outside. -/
inductive Atom where
  | literal (l : Literal)
  | shorthand (negated : Bool)
  | anchor
  | wordBoundary
deriving DecidableEq, Repr

def Atom.pattern : Atom → Pattern
  | .literal l => .literal l
  | .shorthand negated => .shorthand negated
  | .anchor => .anchor
  | .wordBoundary => .wordBoundary

def Atom.literal? : Atom → Option Literal
  | .literal l => some l
  | _ => none

/-- A place in the text is no item of a set. -/
def Atom.setItem? : Atom → Option SetItem
  | .literal l => some (.literal l)
  | .shorthand negated => some (.shorthand negated)
  | .anchor | .wordBoundary => none

/-- As many hexadecimal digits as asked for, and what follows them. -/
def hexDigits? (spaced : Bool) : Nat → List Char → Option (List Char × List Char)
  | 0, cs => some ([], cs)
  | count + 1, cs =>
    match afterSpace spaced cs with
    | [] => none
    | c :: rest => (hexDigits? spaced count rest).map fun (digits, rest) => (c :: digits, rest)

/-- A character given by as many digits as its escape has. -/
def hexLiteral? (spaced : Bool) (count : Nat) (cs : List Char) :
    Option (Literal × List Char) := do
  let (digits, rest) ← hexDigits? spaced count cs
  let c ← Text.codePoint? digits
  return (⟨c, count == 2⟩, rest)

/-- The controls that have a letter of their own. -/
def control? : Char → Option Char
  | 'a' => some '\x07'
  | 'f' => some '\x0c'
  | 't' => some '\t'
  | 'n' => some '\n'
  | 'r' => some '\x0d'
  | 'v' => some '\x0b'
  | _ => none

/-- An escape, from after the backslash. All of ASCII but letters, digits and angle brackets
stands for itself after one; properties and references to groups are refused. -/
def escape? (spaced : Bool) : List Char → Option (Atom × List Char)
  | [] => none
  | c :: rest =>
    let hex := fun count =>
      (hexLiteral? spaced count rest).map fun (l, rest) => (Atom.literal l, rest)
    if c == 'x' then hex 2
    else if c == 'u' then hex 4
    else if c == 'U' then hex 8
    else if "dsw".toList.contains c then some (.shorthand false, rest)
    else if "DSW".toList.contains c then some (.shorthand true, rest)
    else if "Az".toList.contains c then some (.anchor, rest)
    else if "bB<>".toList.contains c then some (.wordBoundary, rest)
    else if c.toNat < 0x80 && !c.isAlphanum then some (.literal ⟨c, false⟩, rest)
    else (control? c).map fun control => (.literal ⟨control, false⟩, rest)

/-- A character or an escape in a set. -/
def setAtom? (spaced : Bool) : List Char → Option (Atom × List Char)
  | [] => none
  | '\\' :: rest => escape? spaced rest
  | c :: rest => some (.literal ⟨c, false⟩, rest)

/-- The next character that is no blank, in which the sign that begins a comment counts as a
blank once; where there is none, the next character. -/
def ahead? (spaced : Bool) (cs : List Char) : Option Char :=
  if !spaced then cs.head? else
    match cs.dropWhile Text.isBlank with
    | '#' :: rest => (rest.dropWhile Text.isBlank).head?.or cs.head?
    | rest => rest.head?.or cs.head?

/-- A single item of a set or a range. A hyphen makes no range before another one or before the
end of the set. -/
def setRange? (spaced : Bool) (cs : List Char) : Option (SetItem × List Char) := do
  let (first, rest) ← setAtom? spaced cs
  let single := first.setItem?.map fun item => (item, rest)
  match afterSpace spaced rest with
  | '-' :: after =>
    if [some ']', some '-'].contains (ahead? spaced after) then single else
      let (last, rest) ← setAtom? spaced (afterSpace spaced after)
      let low ← first.literal?
      let high ← last.literal?
      if low.char ≤ high.char then some (.range low high, rest) else none
  | _ => single

/-- The names of classes of ASCII characters. -/
def classNames : List String :=
  ["alnum", "alpha", "ascii", "blank", "cntrl", "digit", "graph", "lower", "print", "punct",
    "space", "upper", "word", "xdigit"]

/-- A class given by its name, from after the opening bracket. -/
def named? (cs : List Char) : Option (SetItem × List Char) :=
  let read := fun (negated : Bool) (cs : List Char) =>
    match Text.cut ':' cs with
    | (name, some (']' :: rest)) =>
      if classNames.contains (String.ofList name) then some (SetItem.named negated, rest) else none
    | _ => none
  match cs with
  | ':' :: '^' :: rest => read true rest
  | ':' :: rest => read false rest
  | _ => none

/-- Whether a set is negated, from after its opening bracket. -/
def negation (spaced : Bool) (cs : List Char) : Bool × List Char :=
  match afterSpace spaced cs with
  | '^' :: rest => (true, rest)
  | cs => (false, cs)

/-- The set of the items read last, combined with what comes before them. -/
def joined (left? : Option CharSet) (items : List SetItem) : CharSet :=
  let right := CharSet.union items.reverse
  match left? with
  | some left => .combined left right
  | none => right

/-- A set up to its closing bracket. Hyphens at its start stand for themselves, as does a
closing bracket before any item. The fuel is more than there are characters. -/
def setWithin? (spaced : Bool) (atStart : Bool) (left? : Option CharSet)
    (items : List SetItem) (cs : List Char) : Nat → Option (CharSet × List Char)
  | 0 => none
  | fuel + 1 =>
    match afterSpace spaced cs with
    | [] => none
    | c :: rest =>
      if atStart && (c == '-' || (c == ']' && items.isEmpty)) then
        setWithin? spaced (c == '-') left? (.literal ⟨c, false⟩ :: items) rest fuel
      else if c == ']' then some (joined left? items, rest)
      else if c == '[' then
        match named? rest with
        | some (item, rest) => setWithin? spaced false left? (item :: items) rest fuel
        | none => do
          let (negated, rest) := negation spaced rest
          let (inner, rest) ← setWithin? spaced true none [] rest fuel
          setWithin? spaced false left? (.nested negated inner :: items) rest fuel
      else if "&-~".toList.contains c && rest.head? == some c then
        setWithin? spaced false (some (joined left? items)) [] (rest.drop 1) fuel
      else do
        let (item, rest) ← setRange? spaced (c :: rest)
        setWithin? spaced false left? (item :: items) rest fuel

/-- A set from after its opening bracket. -/
def set? (spaced : Bool) (cs : List Char) : Option (Pattern × List Char) := do
  let (negated, rest) := negation spaced cs
  let (members, rest) ← setWithin? spaced true none [] rest (rest.length + 1)
  return (.set negated members, rest)

/-- Flags from their letters: each at most once, those after a hyphen turned off. -/
def flags? (letters : List Char) : Option Flags :=
  let (on, off?) := Text.cut '-' letters
  let off := off?.getD []
  if (on ++ off).all "imsRUux".toList.contains && (on ++ off).Nodup && off? ≠ some [] then
    some ⟨on, off⟩
  else none

def isNameStart (c : Char) : Bool := c == '_' || Text.isLetter c

def isNamePart (c : Char) : Bool := "_.[]".toList.contains c || Text.isLetterOrNumber c

/-- The name of a group, from after its opening angle bracket. -/
def groupName? (cs : List Char) : Option (List Char × List Char) :=
  match Text.cut '>' cs with
  | (first :: more, some rest) =>
    if isNameStart first && more.all isNamePart then some (first :: more, rest) else none
  | _ => none

/-- What an opening parenthesis begins: flags for what follows, or a group, which may have
flags or a name. -/
inductive Opening where
  | flags (f : Flags)
  | group (f : Flags) (name? : Option (List Char))
deriving DecidableEq, Repr

/-- An opening, from after the parenthesis. Conditions on what lies ahead or behind are
refused. -/
def opening? (spaced : Bool) (cs : List Char) : Option (Opening × List Char) :=
  let named := fun cs =>
    (groupName? cs).map fun (name, rest) => (Opening.group ⟨[], []⟩ (some name), rest)
  match afterSpace spaced cs with
  | '?' :: 'P' :: '<' :: rest => named rest
  | '?' :: '<' :: rest => named rest
  | '?' :: rest => do
    match rest.span fun c => c != ':' && c != ')' with
    | (letters, ':' :: rest) => (flags? letters).map fun f => (.group f none, rest)
    | ([], _) => none
    | (letters, ')' :: rest) => (flags? letters).map fun f => (.flags f, rest)
    | _ => none
  | rest => some (.group ⟨[], []⟩ none, rest)

/-- The text that is left, and what bears on it. -/
structure Remainder where
  text : List Char
  spaced : Bool
  /-- The names of the groups that were read. -/
  names : List (List Char)
deriving DecidableEq, Repr

/-- The last pattern repeated. Flags and nothing at all cannot be repeated. -/
def repeated? : List Pattern → Option (List Pattern)
  | [] | .flags _ :: _ => none
  | p :: items => some (.repeated p :: items)

/-- The end of a group or of the text. -/
def closed (branches items : List Pattern) : Pattern :=
  ofChoice ((ofSequence items.reverse :: branches).reverse)

/-- Reads to the end of the group or of the text, after `items` in the alternative that is being
read and `branches` for those before it, last ones first. The fuel is more than there are
characters. -/
def groupWithin? (branches items : List Pattern) (r : Remainder) :
    Nat → Option (Pattern × Remainder)
  | 0 => none
  | fuel + 1 =>
    let text := afterSpace r.spaced r.text
    let goOn := fun (p : Pattern) (rest : List Char) =>
      groupWithin? branches (p :: items) { r with text := rest } fuel
    match text with
    | [] | ')' :: _ => some (closed branches items, { r with text := text })
    | '|' :: rest =>
      groupWithin? (ofSequence items.reverse :: branches) [] { r with text := rest } fuel
    | '(' :: rest =>
      match opening? r.spaced rest with
      | none => none
      | some (.flags f, rest) =>
        groupWithin? branches (.flags f :: items)
          { r with text := rest, spaced := f.state 'x' r.spaced } fuel
      | some (.group f name?, rest) =>
        if name?.any r.names.contains then none else
          let names := name?.toList ++ r.names
          match groupWithin? [] [] ⟨rest, f.state 'x' r.spaced, names⟩ fuel with
          | some (p, ⟨')' :: rest, _, names⟩) =>
            groupWithin? branches (.group f p :: items) ⟨rest, r.spaced, names⟩ fuel
          | _ => none
    | '[' :: rest => (set? r.spaced rest).bind fun (p, rest) => goOn p rest
    | '{' :: _ => none
    | '\\' :: rest => (escape? r.spaced rest).bind fun (a, rest) => goOn a.pattern rest
    | '.' :: rest => goOn .dot rest
    | c :: rest =>
      if "?*+".toList.contains c then
        (repeated? items).bind fun items =>
          let rest := if rest.head? = some '?' then rest.drop 1 else rest
          groupWithin? branches items { r with text := rest } fuel
      else if c == '^' || c == '$' then goOn .anchor rest
      else goOn (.literal ⟨c, false⟩) rest

/-- The pattern that a text gives. A closing parenthesis needs an open group. -/
def parse? (cs : List Char) : Option Pattern :=
  match groupWithin? [] [] ⟨cs, false, []⟩ (cs.length + 1) with
  | some (p, ⟨[], _, _⟩) => some p
  | _ => none

end FacetFilter.Pattern
