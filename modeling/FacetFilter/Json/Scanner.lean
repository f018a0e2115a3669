import FacetFilter.Json.Node
import FacetFilter.Text.Hexadecimal
import FacetFilter.Text.Utf8

/-! Reading JSON text one character at a time. Open arrays and objects are on a stack, so that
documents may be nested to any depth, and the state tells what may come next. -/

namespace FacetFilter.Json

/-- An array or object that is open, with what it holds so far, last first. An object may wait
for the value of a key. -/
inductive Frame where
  | array (items : List Node)
  | object (members : List (StringText × Node)) (key? : Option StringText)

/-- What is expected between two tokens. -/
inductive Expectation where
  | value
  | valueOrClose
  | key
  | keyOrClose
  | colon
  /-- A comma or the end of what is open. -/
  | more
  /-- Nothing but white space. -/
  | nothing

/-- How far an escape in a string has come. -/
inductive Escape where
  | none
  /-- After the backslash. -/
  | letter
  /-- After `\u` and some digits: how many, and their value. -/
  | hex (count value : Nat)
deriving DecidableEq

/-- A string being read: its characters, last first, the first half of a surrogate pair that
waits for the second one, and whether a half has stayed alone. -/
structure Literal where
  chars : List Char
  escape : Escape
  high : Option Nat
  unpaired : Bool

/-- Which part of a number is being read. -/
inductive NumeralPart where
  | start
  | zero
  | whole
  | fractionStart
  | fraction
  | exponentStart
  | exponentSign
  | exponent
deriving DecidableEq

inductive Token where
  | between (e : Expectation)
  /-- A word of which these letters are still to come. -/
  | word (letters : List Char) (value : Node)
  | string (isKey : Bool) (l : Literal)
  | number (part : NumeralPart) (n : Numeral)

/-- `root?` is the value of the document once it is complete. -/
structure ScanState where
  token : Token
  open_ : List Frame
  root? : Option Node

namespace ScanState

def initial : ScanState := ⟨.between .value, [], none⟩

/-- A complete value goes to the innermost open frame. -/
def deliver (open_ : List Frame) (v : Node) : ScanState :=
  match open_ with
  | [] => ⟨.between .nothing, [], some v⟩
  | .array items :: outer => ⟨.between .more, .array (v :: items) :: outer, none⟩
  | .object members key? :: outer =>
    ⟨.between .more, .object ((key?.join, v) :: members) none :: outer, none⟩

/-- The frame as a node. -/
def closed (ending : Option Fault) : Frame → Node
  | .array items => .array items.reverse ending
  | .object members _ => .object members.reverse ending

def isSpace (c : Char) : Bool := c == ' ' || c == '\n' || c == '\t' || c == '\x0d'

def newLiteral : Literal := ⟨[], .none, none, false⟩

/-- The first character of a value. -/
def beginValue (s : ScanState) (c : Char) : Except Fault ScanState :=
  match c with
  | '[' => .ok ⟨.between .valueOrClose, .array [] :: s.open_, none⟩
  | '\x7b' => .ok ⟨.between .keyOrClose, .object [] none :: s.open_, none⟩
  | '"' => .ok { s with token := .string false newLiteral }
  | 'n' => .ok { s with token := .word "ull".toList .null }
  | 't' => .ok { s with token := .word "rue".toList (.boolean true) }
  | 'f' => .ok { s with token := .word "alse".toList (.boolean false) }
  | '-' => .ok { s with token := .number .start ⟨true, [], [], none⟩ }
  | '0' => .ok { s with token := .number .zero ⟨false, ['0'], [], none⟩ }
  | c =>
    if c.isDigit then .ok { s with token := .number .whole ⟨false, [c], [], none⟩ }
    else .error .malformed

/-- Closes the innermost frame if `c` is its closing bracket. -/
def close (s : ScanState) (c : Char) : Except Fault ScanState :=
  match s.open_, c with
  | .array items :: outer, ']' => .ok (deliver outer (closed none (.array items)))
  | .object members key? :: outer, '\x7d' =>
    .ok (deliver outer (closed none (.object members key?)))
  | _, _ => .error .malformed

/-- What follows a comma in the innermost frame. -/
def afterComma (s : ScanState) : Except Fault ScanState :=
  match s.open_ with
  | .array _ :: _ => .ok { s with token := .between .value }
  | .object _ _ :: _ => .ok { s with token := .between .key }
  | [] => .error .malformed

/-- A character between two tokens. -/
def betweenStep (s : ScanState) (e : Expectation) (c : Char) : Except Fault ScanState :=
  if isSpace c then .ok { s with token := .between e } else
    match e with
    | .value => s.beginValue c
    | .valueOrClose => if c = ']' then s.close c else s.beginValue c
    | .key =>
      if c = '"' then .ok { s with token := .string true newLiteral } else .error .malformed
    | .keyOrClose =>
      if c = '"' then .ok { s with token := .string true newLiteral } else s.close c
    | .colon => if c = ':' then .ok { s with token := .between .value } else .error .malformed
    | .more => if c = ',' then s.afterComma else s.close c
    | .nothing => .error .malformed

/-- The fault of a string that has to stop here. -/
def literalFault (l : Literal) (f : FaultClass) : Fault := ⟨if l.unpaired then .malformed else f, f⟩

/-- A first half that waits in vain stays alone. -/
def Literal.giveUp (l : Literal) : Literal :=
  if l.high.isSome then { l with high := none, unpaired := true } else l

/-- A character that stands for itself in a string, or the one an escape letter stands for. -/
def Literal.push (l : Literal) (c : Char) : Literal :=
  let l := Literal.giveUp l
  { l with chars := c :: l.chars, escape := .none }

/-- A code unit given by its digits. -/
def Literal.unit (l : Literal) (u : Nat) : Literal :=
  match l.high with
  | some h =>
    if 0xDC00 ≤ u ∧ u ≤ 0xDFFF then
      let c := Char.ofNat (0x10000 + (h - 0xD800) * 0x400 + (u - 0xDC00))
      { l with chars := c :: l.chars, escape := .none, high := none }
    else { l with escape := .none, high := none, unpaired := true }
  | none =>
    if 0xDC00 ≤ u ∧ u ≤ 0xDFFF then { l with escape := .none, unpaired := true }
    else if 0xD800 ≤ u ∧ u ≤ 0xDBFF then { l with escape := .none, high := some u }
    else { l with chars := Char.ofNat u :: l.chars, escape := .none }

/-- The character that an escape letter stands for. -/
def escaped? : Char → Option Char
  | '"' => some '"'
  | '\\' => some '\\'
  | '/' => some '/'
  | 'b' => some '\x08'
  | 'f' => some '\x0c'
  | 'n' => some '\n'
  | 'r' => some '\x0d'
  | 't' => some '\t'
  | _ => none

/-- A character inside a string, before `rest`. Four octets have to be left for the digits of
an escape: with fewer the text ends too early, whatever they are. -/
def literalStep (l : Literal) (c : Char) (rest : List Char) : Except Fault Literal :=
  match l.escape with
  | .none =>
    if c = '\\' then .ok { l with escape := .letter }
    else if c.toNat < 0x20 then .error (literalFault (Literal.giveUp l) .malformed)
    else .ok (Literal.push l c)
  | .letter =>
    if c = 'u' then .ok { l with escape := .hex 0 0 }
    else match escaped? c with
      | some e => .ok (Literal.push l e)
      | none => .error (literalFault (Literal.giveUp l) .malformed)
  | .hex count value =>
    match Text.hexValue? c with
    | some d =>
      if count = 3 then .ok (Literal.unit l (value * 16 + d))
      else .ok { l with escape := .hex (count + 1) (value * 16 + d) }
    | none =>
      if count + (Text.Utf8.encode (c :: rest)).length < 4 then .error (literalFault l .ended)
      else .error (literalFault l .malformed)

/-- The text of a string that is closed here. -/
def Literal.text (l : Literal) : StringText :=
  if l.unpaired || l.high.isSome then none else some (String.ofList l.chars.reverse)

/-- A key waits for its value in the innermost object. -/
def keepKey (open_ : List Frame) (key : StringText) : List Frame :=
  match open_ with
  | .object members _ :: outer => .object members (some key) :: outer
  | frames => frames

/-- A character of a number: what it makes of it, or nothing when the number is complete
before it. -/
def numeralStep (part : NumeralPart) (n : Numeral) (c : Char) :
    Except Fault (Option (NumeralPart × Numeral)) :=
  let toFraction := .ok (some (.fractionStart, n))
  let toExponent := .ok (some (.exponentStart, n))
  let isE := c == 'e' || c == 'E'
  match part with
  | .start =>
    if c = '0' then .ok (some (.zero, { n with whole := [c] }))
    else if c.isDigit then .ok (some (.whole, { n with whole := [c] }))
    else .error .malformed
  | .zero =>
    if c.isDigit then .error .malformed
    else if c = '.' then toFraction else if isE then toExponent else .ok none
  | .whole =>
    if c.isDigit then .ok (some (.whole, { n with whole := n.whole ++ [c] }))
    else if c = '.' then toFraction else if isE then toExponent else .ok none
  | .fractionStart =>
    if c.isDigit then .ok (some (.fraction, { n with fraction := [c] })) else .error .malformed
  | .fraction =>
    if c.isDigit then .ok (some (.fraction, { n with fraction := n.fraction ++ [c] }))
    else if isE then toExponent else .ok none
  | .exponentStart =>
    if c = '+' ∨ c = '-' then
      .ok (some (.exponentSign, { n with exponent := some (c == '-', []) }))
    else if c.isDigit then .ok (some (.exponent, { n with exponent := some (false, [c]) }))
    else .error .malformed
  | .exponentSign | .exponent =>
    if c.isDigit then
      .ok (some (.exponent, { n with exponent := n.exponent.map fun (s, ds) => (s, ds ++ [c]) }))
    else if part = .exponent then .ok none else .error .malformed

/-- The state in which `c` is met: a number that is complete before it has been delivered. -/
def before (s : ScanState) (c : Char) : ScanState :=
  match s.token with
  | .number part n =>
    match numeralStep part n c with
    | .ok none => deliver s.open_ (.number n)
    | _ => s
  | _ => s

/-- One character, met in the state `before` it. -/
def step (s : ScanState) (c : Char) (rest : List Char) : Except Fault ScanState :=
  match s.token with
  | .between e => s.betweenStep e c
  | .word letters value =>
    match letters with
    | [] => .error .malformed
    | l :: more =>
      if c ≠ l then .error .malformed
      else if more.isEmpty then .ok (deliver s.open_ value)
      else .ok { s with token := .word more value }
  | .string isKey l =>
    if c = '"' ∧ l.escape = .none then
      if isKey then
        .ok ⟨.between .colon, keepKey s.open_ (Literal.text l), none⟩
      else .ok (deliver s.open_ (.string (Literal.text l)))
    else (literalStep l c rest).map fun l => { s with token := .string isKey l }
  | .number part n =>
    (numeralStep part n c).map fun grown =>
      match grown with
      | some (part, n) => { s with token := .number part n }
      | none => s

/-- Whether a fault in this state takes the place of a value. -/
def awaitsValue (s : ScanState) : Bool :=
  match s.token with
  | .between .value => true
  | .between _ => false
  | .string isKey _ => !isKey
  | .word _ _ | .number _ _ => true

/-- A node with everything that is open around it, broken off by a fault. -/
def breakOff (f : Fault) (v : Option Node) : List Frame → Node
  | [] => v.getD (.broken f)
  | .array items :: outer =>
    breakOff f (some (.array (v.toList ++ items).reverse (some f))) outer
  | .object members key? :: outer =>
    let last := match v, key? with
      | some v, some key => [(key, v)]
      | none, some key => [(key, .broken f)]
      | _, none => []
    breakOff f (some (.object (last ++ members).reverse (some f))) outer

/-- The document when reading stops at a fault. -/
def stop (s : ScanState) (f : Fault) : Document :=
  match s.root? with
  | some root => ⟨root, some f⟩
  | none => ⟨breakOff f (if s.awaitsValue then some (.broken f) else none) s.open_, none⟩

/-- The document when the text ends. A number that cannot end here is cut off when it is
wanted and malformed when it is passed over. -/
def finish (s : ScanState) : Document :=
  match s.token with
  | .between .nothing => ⟨s.root?.getD (.broken .ended), none⟩
  | .number part n =>
    if part = .zero ∨ part = .whole ∨ part = .fraction ∨ part = .exponent then
      match (deliver s.open_ (.number n)).root? with
      | some root => ⟨root, none⟩
      | none => (deliver s.open_ (.number n)).stop .ended
    else s.stop ⟨.ended, .malformed⟩
  | .string _ l => s.stop (literalFault l .ended)
  | _ => s.stop .ended

/-- All characters from a state on. -/
def run (s : ScanState) : List Char → Document
  | [] => s.finish
  | c :: rest =>
    match (s.before c).step c rest with
    | .ok next => run next rest
    | .error f => (s.before c).stop f

end ScanState

/-- The document that a text holds, up to the first fault. -/
def Document.ofText (text : String) : Document := ScanState.initial.run text.toList

end FacetFilter.Json
