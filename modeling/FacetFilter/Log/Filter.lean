import FacetFilter.Log.Event
import FacetFilter.Log.FieldValue
import FacetFilter.Text.Utf8

/-! Which events are logged. A filter is a list of directives between commas: a level for all
events, or a level for the parts of the program whose name begins in a certain way, or for the
events that have a certain field. Of the directives that apply to an event, the one that narrows
down the most decides. -/

namespace FacetFilter.Log

/-- The finest rank that passes for the parts under a name and for events with a field; without
a name or a field it stands for all of them. -/
structure Rule where
  origin? : Option String
  field? : Option String
  rank : Nat
deriving DecidableEq, Repr

/-- Directives about spans decide nothing here, since the program opens no spans. -/
inductive Directive where
  | rule (r : Rule)
  | aboutSpans
deriving DecidableEq, Repr

/-- The rank of a level by its name in any case, or by its number; zero lets nothing pass. -/
def rankOf? (cs : List Char) : Option Nat :=
  match String.ofList (cs.map Char.toLower) with
  | "off" => some 0
  | "error" | "" => some 1
  | "warn" => some 2
  | "info" => some 3
  | "debug" => some 4
  | "trace" => some 5
  | _ =>
    let digits := match cs with
      | '+' :: rest => rest
      | cs => cs
    let n := Nat.ofDigitChars 10 digits 0
    if digits ≠ [] ∧ digits.all Char.isDigit ∧ n ≤ 5 then some n else none

/-- The level after an equals sign; none given stands for the finest. -/
def rankAfterEquals? (cs : List Char) : Option Nat := if cs.isEmpty then some 5 else rankOf? cs

/-- The characters that a directive may begin with, brackets apart. -/
def beginsDirective (c : Char) : Bool := "-:_".toList.contains c || Text.isLetterOrNumber c

/-- What follows a closing bracket: the end, or a level. The text goes on after `place`
octets. -/
def rankAfterBracket? (text : List Char) (place : Nat) : List Char → Option Nat
  | [] => some 5
  | '=' :: _ => rankAfterEquals? (Text.Utf8.dropOctets (place + 1) text)
  | _ => none

/-- A field that a directive asks for, by its name alone or with a value. -/
structure Field where
  name : String
  hasValue : Bool
deriving DecidableEq, Repr

/-- A field, where the value counts up to a second equals sign. -/
def field? (cs : List Char) : Option Field :=
  match Text.cut '=' cs with
  | (name, none) => if name.isEmpty then none else some ⟨String.ofList name, false⟩
  | (name, some rest) =>
    if FieldValue.isValid (Text.cut '=' rest).1 then some ⟨String.ofList name, true⟩ else none

/-- The name of a span with a field in braces, or without one, from after the opening bracket at
`place`. A field without a value and without the name of a span concerns events. -/
def bracketed? (text : List Char) (origin? : Option String) (place : Nat) (cs : List Char) :
    Option Directive :=
  match cs.span fun c => c != ']' && c != '\x7b' with
  | (name, ']' :: rest) =>
    (rankAfterBracket? text (place + Text.Utf8.size name + 1) rest).map fun _ => .aboutSpans
  | (name, '\x7b' :: rest) =>
    match Text.cut '\x7d' rest with
    | (within, some (']' :: rest)) => do
      let fieldPlace := place + Text.Utf8.size name + 1
      let field ← field? (Text.Utf8.slice fieldPlace (Text.Utf8.size within) text)
      let rank ← rankAfterBracket? text (fieldPlace + Text.Utf8.size within + 2) rest
      return if name.isEmpty && !field.hasValue then .rule ⟨origin?, some field.name, rank⟩
        else .aboutSpans
    | _ => none
  | _ => none

/-- One directive. Its parts are found without the blanks around it, but taken from the text
with them, so that a directive with blanks around it rarely means anything. A word that is no
level names a part, of which everything passes. -/
def directive? (text : List Char) : Option Directive :=
  let cs := Text.trim text
  match cs with
  | [] => none
  | '[' :: rest => bracketed? text none 1 rest
  | first :: _ =>
    if !beginsDirective first then none else
      let (word, rest) := cs.span fun c => c != '=' && c != '['
      let place := Text.Utf8.size word
      let origin := String.ofList (Text.Utf8.takeOctets place text)
      match rest with
      | '=' :: _ =>
        (rankAfterEquals? (Text.Utf8.dropOctets (place + 1) text)).map fun n =>
          .rule ⟨some origin, none, n⟩
      | '[' :: rest => bracketed? text (some origin) (place + 1) rest
      | _ =>
        match rankOf? text with
        | some n => some (.rule ⟨none, none, n⟩)
        | none => some (.rule ⟨some (String.ofList text), none, 5⟩)

abbrev Filter := List Directive

namespace Filter

/-- All directives have to be well-formed; empty ones are passed over. -/
def parse? (text : String) : Option Filter :=
  ((Text.pieces ',' text.toList).filter (!·.isEmpty)).mapM directive?

/-- The filter for when none is given, or one that is not well-formed. -/
def default : Filter := [
  .rule ⟨none, none, 3⟩,
  .rule ⟨some "facetctl", none, 4⟩,
  .rule ⟨some "facetctl_core", none, 4⟩]

def ofText (text? : Option String) : Filter := (text?.bind parse?).getD default

end Filter

namespace Rule

def appliesTo (r : Rule) (e : Event) : Bool :=
  (r.origin?.all fun name => name.toList.isPrefixOf e.origin.toList) &&
    r.field?.all e.fields.contains

/-- The length of the name, if there is one. -/
def reach (r : Rule) : Nat := (r.origin?.map (·.length + 1)).getD 0

/-- Whether a rule narrows down at least as much as another one: first by a longer name, then by
a field, and of two fields by the one that comes later in order. -/
def prevails (r s : Rule) : Bool :=
  if r.reach ≠ s.reach then s.reach < r.reach
  else match r.field?, s.field? with
    | _, none => true
    | none, some _ => false
    | some a, some b => b ≤ a

/-- The rule that decides on an event. -/
def deciding (rules : List Rule) (e : Event) : Option Rule :=
  (rules.filter (·.appliesTo e)).foldl (fun best? r =>
    match best? with
    | none => some r
    | some best => some (if r.prevails best then r else best)) none

end Rule

namespace Filter

/-- Whether an event passes. A filter without directives lets only errors pass. -/
def passes (f : Filter) (e : Event) : Bool :=
  let rules := f.filterMap fun
    | .rule r => some r
    | .aboutSpans => none
  let rules := if f.isEmpty then [⟨none, none, 1⟩] else rules
  (Rule.deciding rules e).any (e.level.rank ≤ ·.rank)

end Filter

end FacetFilter.Log
