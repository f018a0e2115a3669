import FacetFilter.Toml.Quoted
import FacetFilter.Toml.Scalar

/-! Reading TOML documents. Values nest to a bounded depth; the steps of every other loop are
bounded by the length of the text, since each of them takes at least one character. -/

namespace FacetFilter.Toml

/-- A step that takes characters from the front of the text, or refuses it. -/
abbrev Read (α : Type) := StateT (List Char) Option α

namespace Read

def look : Read (Option Char) := fun cs => some (cs.head?, cs)

def skipSpaces : Read Unit := fun cs => some ((), cs.dropWhile isSpace)

def takeWhile (p : Char → Bool) : Read (List Char) := fun cs => some (cs.span p)

def exactly (c : Char) : Read Unit := fun cs =>
  match cs with
  | [] => none
  | d :: rest => if d = c then some ((), rest) else none

/-- A comment up to the end of its line, if one stands here. -/
def comment : Read Unit := fun cs =>
  match cs with
  | '#' :: rest => some ((), rest.dropWhile isPlain)
  | cs => some ((), cs)

/-- The end of a line or of the text. -/
def lineEnd : Read Unit := fun cs =>
  match cs with
  | '\n' :: rest => some ((), rest)
  | '\x0d' :: '\n' :: rest => some ((), rest)
  | [] => some ((), [])
  | _ => none

/-- Spaces and a comment may stand before the end of a line. -/
def endOfLine : Read Unit := do
  skipSpaces
  comment
  lineEnd

end Read

open Read

/-- How deep arrays and tables in braces may stand within each other. -/
def deepest : Nat := 79

/-- A dotted key has fewer parts than this. -/
def keyParts : Nat := 80

def isBareKey (c : Char) : Bool := c.isAlphanum || c == '_' || c == '-'

/-- One part of a key: a bare word or a string on one line. -/
def keyPart : Read String := do
  match ← look with
  | some '"' | some '\x27' => return String.ofList (← lineString?)
  | _ =>
    let word ← takeWhile isBareKey
    if word.isEmpty then failure
    return String.ofList word

def keyPath : Nat → Read (List String)
  | 0 => failure
  | steps + 1 => do
    skipSpaces
    let part ← keyPart
    skipSpaces
    if (← look) = some '.' then
      exactly '.'
      return part :: (← keyPath steps)
    return [part]

/-- A key: the parts before its last one, and that one. -/
def key : Read (List String × String) := do
  let parts ← keyPath ((← get).length + 1)
  match parts.getLast? with
  | some last => if parts.length < keyParts then return (parts.dropLast, last) else failure
  | none => failure

/-- Spaces, line ends and comments between the values of an array. -/
def skipLines : Nat → Read Unit
  | 0 => failure
  | steps + 1 => do
    skipSpaces
    match ← look with
    | some '#' =>
      comment
      skipLines steps
    | some '\n' | some '\x0d' =>
      lineEnd
      skipLines steps
    | _ => return

def skipBetween : Read Unit := do skipLines ((← get).length + 1)

/-- The values of an array up to its closing bracket; a comma may stand before it. -/
def arrayItems (value : Read Item) : Nat → Read (List Item)
  | 0 => failure
  | steps + 1 => do
    skipBetween
    if (← look) = some ']' then
      exactly ']'
      return []
    let item ← value
    skipBetween
    if (← look) = some ',' then
      exactly ','
      return item :: (← arrayItems value steps)
    exactly ']'
    return [item]

/-- A key and a value with an equals sign between them. -/
def member (value : Read Item) : Read ((List String × String) × Item) := do
  let k ← key
  exactly '='
  skipSpaces
  return (k, ← value)

/-- The members of a table in braces up to the closing one; none may be empty. -/
def inlineMembers (value : Read Item) : Nat → Entries → Read Entries
  | 0, _ => failure
  | steps + 1, es => do
    let ((path, last), item) ← member value
    let es ← es.addInline last item path .defined
    skipSpaces
    if (← look) = some ',' then
      exactly ','
      inlineMembers value steps es
    else
      exactly '\x7d'
      return es

/-- The characters of a word that stands for a value. -/
def isWordChar (c : Char) : Bool :=
  c.isAlphanum || c == '+' || c == '-' || c == '_' || c == '.' || c == ':'

/-- A number, a date or a word. A space may stand between a date and a time. -/
def wordValue : Read Item := do
  let word ← takeWhile isWordChar
  match ← get with
  | ' ' :: c :: _ =>
    if isDate word && c.isDigit then
      exactly ' '
      let time ← takeWhile isWordChar
      if isTimeOfInstant time then return .datetime else failure
    else scalar? word
  | _ => scalar? word

/-- A value with room for so many brackets and braces within each other. -/
def value : Nat → Read Item
  | 0 => do
    match ← look with
    | some '"' | some '\x27' => return .string (String.ofList (← string?))
    | _ => wordValue
  | room + 1 => do
    match ← look with
    | some '[' =>
      exactly '['
      return .array (← arrayItems (value room) ((← get).length + 1))
    | some '\x7b' =>
      exactly '\x7b'
      skipSpaces
      if (← look) = some '\x7d' then
        exactly '\x7d'
        return .inline .defined []
      return .inline .defined (← inlineMembers (value room) ((← get).length + 1) [])
    | some '"' | some '\x27' => return .string (String.ofList (← string?))
    | _ => wordValue

/-- A header in brackets. -/
def header (d : Draft) : Read Draft := do
  exactly '['
  if (← look) = some '[' then
    exactly '['
    let (parents, last) ← key
    exactly ']'
    exactly ']'
    endOfLine
    d.openElement parents last
  else
    let (parents, last) ← key
    exactly ']'
    endOfLine
    d.openTable parents last

/-- One line: empty, a comment, a header, or a key and its value. -/
def line (d : Draft) : Read Draft := do
  skipSpaces
  match ← look with
  | none => return d
  | some '\n' | some '\x0d' | some '#' =>
    endOfLine
    return d
  | some '[' => header d
  | _ =>
    let ((path, last), item) ← member (value deepest)
    endOfLine
    d.addLine path last item

def lines : Nat → Draft → Read Draft
  | 0, _ => failure
  | steps + 1, d => do
    if (← look).isNone then return d
    lines steps (← line d)

/-- A mark of the byte order may stand before the text. -/
def afterByteOrderMark : List Char → List Char
  | '\uFEFF' :: rest => rest
  | cs => cs

/-- The root table of a document. -/
def ofText? (text : String) : Option Entries :=
  let cs := afterByteOrderMark text.toList
  ((lines (cs.length + 1) .empty).run cs).map (·.1.root)

end FacetFilter.Toml
