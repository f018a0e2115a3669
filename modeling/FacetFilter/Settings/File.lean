import FacetFilter.Decimal.Layout
import FacetFilter.Files
import FacetFilter.Settings.Basic
import FacetFilter.Shape.Mismatch
import FacetFilter.Toml.Document

/-! Settings files. The fields are looked at in the order of the document, and one that cannot
be read is told before one that is missing. -/

namespace FacetFilter.Settings

open FacetFilter.Shape FacetFilter.Toml

/-- What an item is that should be something else. -/
def found : Item → Found
  | .string s => .string s
  | .integer n => .integer (toString n)
  | .float (.number x) => .float (x.text .positional)
  | .float .nan => .float "NaN"
  | .boolean b => .boolean b
  | .datetime => .map
  | .array _ | .tables _ => .sequence
  | .inline _ _ | .table _ _ => .map

def string : Item → Except Mismatch String
  | .string s => .ok s
  | item => .error (.wrongType (found item) "a string")

def boolean : Item → Except Mismatch Bool
  | .boolean b => .ok b
  | item => .error (.wrongType (found item) "a boolean")

def orderNamed (name : String) : Except Mismatch MemberOrder :=
  match [MemberOrder.sorted, .insertion].find? (·.name == name) with
  | some o => .ok o
  | none => .error (.unknownVariant name ["sorted", "insertion"])

/-- The name of an item's type where a table is expected. -/
def typeName : Item → String
  | .string _ => "string"
  | .integer _ => "integer"
  | .float _ => "float"
  | .boolean _ => "boolean"
  | .datetime => "datetime"
  | .array _ => "array"
  | .inline _ _ => "inline table"
  | .table _ _ => "table"
  | .tables _ => "array of tables"

/-- An order has nothing more to say. Only tables in sequence are called an array here. -/
def nothingMore : Item → Except Mismatch Unit
  | .array items => if items.isEmpty then .ok () else .error (.other "expected empty table")
  | .tables elements => if elements.isEmpty then .ok () else .error (.other "expected empty array")
  | .inline _ es | .table _ es =>
    if es.isEmpty then .ok () else .error (.other "expected empty table")
  | item => .error (.other ("expected table, found " ++ typeName item))

/-- An order is given by its name, or by a table with this name as its only key. -/
def memberOrder : Item → Except Mismatch MemberOrder
  | .string name => orderNamed name
  | .inline _ es | .table _ es =>
    match es with
    | [] => .error (.other "wanted exactly 1 element, found 0 elements")
    | [(name, item)] => do
      let o ← orderNamed name
      nothingMore item
      return o
    | _ => .error (.other "wanted exactly 1 element, more than 1 element")
  | _ => .error (.other "wanted string or table")

/-- Sections from the entries of a table; other keys are passed over. -/
def sectionsOfTable (es : Entries) : Except Mismatch Sections :=
  es.foldlM (fun s (key, item) =>
    match Category.ofKey? key with
    | some c => (boolean item).map (s.set c)
    | none => .ok s) .allOpen

/-- Sections from a sequence in the order of the categories; more items are passed over. -/
def sectionsOfSequence (items : List Item) : Except Mismatch Sections :=
  (Category.all.zip items).foldlM (fun s (c, item) => (boolean item).map (s.set c)) .allOpen

def sectionFlags : Item → Except Mismatch Sections
  | .inline _ es | .table _ es => sectionsOfTable es
  | .array items => sectionsOfSequence items
  | .tables elements => sectionsOfSequence (elements.map (.table .defined))
  | .datetime => .ok .allOpen
  | item => .error (.wrongType (found item) "struct SectionState")

/-- The fields met so far. -/
structure Fields where
  baseUrl? : Option String
  order? : Option MemberOrder
  sections? : Option Sections

def readField (fields : Fields) (entry : String × Item) : Except Mismatch Fields := do
  let (key, item) := entry
  if key = "base_url" then return { fields with baseUrl? := some (← string item) }
  else if key = "commit_order" then return { fields with order? := some (← memberOrder item) }
  else if key = "sections" then return { fields with sections? := some (← sectionFlags item) }
  else return fields

def ofEntries (es : Entries) : Except Mismatch Settings := do
  let fields ← es.foldlM readField ⟨none, none, none⟩
  match fields.baseUrl? with
  | none => throw (.missingField "base_url")
  | some baseUrl => return ⟨baseUrl, fields.order?.getD .sorted, fields.sections?⟩

/-- Why settings cannot be loaded. -/
inductive Problem where
  | unreadable (e : FileError)
  | malformed
  | mismatch (m : Mismatch)
deriving DecidableEq, Repr

def ofText (text : String) : Except Problem Settings :=
  match ofText? text with
  | none => .error .malformed
  | some es => (ofEntries es).mapError .mismatch

def load (content : FileContent) : Except Problem Settings :=
  match content.text with
  | .error e => .error (.unreadable e)
  | .ok text => ofText text

/-- The file that is written where there is none. -/
def defaultText : String :=
  "base_url = " ++ Text.quoted default.baseUrl ++ "\ncommit_order = " ++
    Text.quoted default.order.name ++ "\n"

/-- The settings in force, and the text of the file to create if there is none. -/
def loadOrCreate (content : FileContent) : Except Problem (Settings × Option String) :=
  match content with
  | .absent => .ok (default, some defaultText)
  | content => (load content).map (·, none)

end FacetFilter.Settings
