import FacetFilter.Decimal.Binary64

/-! TOML documents: values, and tables in the order in which their keys are first met. -/

namespace FacetFilter.Toml

inductive Float where
  | number (x : Decimal.Binary64)
  | nan
deriving DecidableEq, Repr

/-- How a table came about: by its own header or braces, as the parent of a header, or by
dotted keys. What may still be added to it depends on this. -/
inductive Origin where
  | defined
  | implied
  | dotted
deriving DecidableEq, Repr

inductive Item where
  | string (s : String)
  | integer (n : Int)
  | float (x : Float)
  | boolean (b : Bool)
  | datetime
  | array (items : List Item)
  /-- A table in braces. -/
  | inline (origin : Origin) (entries : List (String × Item))
  | table (origin : Origin) (entries : List (String × Item))
  /-- An array of tables that headers made. -/
  | tables (elements : List (List (String × Item)))

abbrev Entries := List (String × Item)

namespace Entries

def get? (es : Entries) (key : String) : Option Item := es.lookup key

/-- Another item for a key that is there. -/
def replace (es : Entries) (key : String) (item : Item) : Entries :=
  es.map fun (k, old) => if k = key then (k, item) else (k, old)

def without (es : Entries) (key : String) : Entries := es.filter fun (k, _) => k ≠ key

/-- A new key, which goes last; a key that is there is refused. -/
def add (es : Entries) (key : String) (item : Item) : Option Entries :=
  if (es.get? key).isSome then none else some (es ++ [(key, item)])

/-- Changes the table at a path from a table of some origin. Tables that are missing on the way
are made. Dotted keys may not enter a table that has a header, nor one in braces. -/
def change (dotted : Bool) (f : Origin → Entries → Option Entries) :
    List String → Origin → Entries → Option Entries
  | [], origin, es => f origin es
  | key :: path, _, es =>
    match es.get? key with
    | none =>
      let origin := if dotted then .dotted else .implied
      (change dotted f path origin []).map fun inner => es ++ [(key, .table origin inner)]
    | some (.table origin inner) =>
      if dotted ∧ origin = .defined then none
      else (change dotted f path origin inner).map fun inner =>
        es.replace key (.table origin inner)
    | some (.tables elements) =>
      match elements.getLast? with
      | none => none
      | some last => (change dotted f path .defined last).map fun last =>
          es.replace key (.tables (elements.dropLast ++ [last]))
    | some _ => none

/-- Adds a key to the table that the keys before it lead to. Only a table made by dotted keys
takes dotted keys. -/
def addDotted (es : Entries) (path : List String) (key : String) (item : Item) :
    Option Entries :=
  change true (fun origin inner =>
    if decide (origin = .dotted) == path.isEmpty then none else inner.add key item) path .defined es

/-- The same within braces, where every table on the way is one in braces. -/
def addInline (key : String) (item : Item) : List String → Origin → Entries → Option Entries
  | [], _, es => es.add key item
  | part :: path, _, es =>
    match es.get? part with
    | none => (addInline key item path .dotted []).map fun inner =>
        es ++ [(part, .inline .dotted inner)]
    | some (.inline .dotted inner) => (addInline key item path .dotted inner).map fun inner =>
        es.replace part (.inline .dotted inner)
    | some _ => none

end Entries

/-- A document while its lines are read: the root table and the path of the table that the last
header opened. -/
structure Draft where
  root : Entries
  focus : List String

namespace Draft

def empty : Draft := ⟨[], []⟩

/-- A header opens a table. One that was only implied so far moves to the end; any other table
is refused. -/
def openTable (d : Draft) (parents : List String) (key : String) : Option Draft :=
  (Entries.change false (fun _ es =>
    match es.get? key with
    | none => some (es ++ [(key, .table .defined [])])
    | some (.table .implied inner) => some (es.without key ++ [(key, .table .defined inner)])
    | some _ => none) parents .defined d.root).map fun root => ⟨root, parents ++ [key]⟩

/-- A header with two brackets opens another element of an array of tables. -/
def openElement (d : Draft) (parents : List String) (key : String) : Option Draft :=
  (Entries.change false (fun _ es =>
    match es.get? key with
    | none => some (es ++ [(key, .tables [[]])])
    | some (.tables elements) => some (es.replace key (.tables (elements ++ [[]])))
    | some _ => none) parents .defined d.root).map fun root => ⟨root, parents ++ [key]⟩

/-- A line of a key and a value in the open table. -/
def addLine (d : Draft) (path : List String) (key : String) (item : Item) : Option Draft :=
  (Entries.change false (fun _ es => es.addDotted path key item) d.focus .defined d.root).map
    fun root => { d with root }

end Draft

end FacetFilter.Toml
