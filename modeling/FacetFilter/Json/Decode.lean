import FacetFilter.Json.Numeral
import FacetFilter.Json.Scanner
import FacetFilter.Shape.Mismatch

/-! Decoding JSON documents into values of a given shape. What comes first in the text is told
first: a mismatch, or the fault that ends the text. -/

namespace FacetFilter.Json

open FacetFilter.Shape

/-- Why a document cannot be decoded. -/
inductive Problem where
  | ended
  | malformed
  | mismatch (m : Mismatch)
deriving DecidableEq, Repr

namespace Problem

def ofClass : FaultClass → Problem
  | .ended => .ended
  | .malformed => .malformed

/-- The problem of a fault where a value is wanted. -/
def ofFault (f : Fault) : Problem := ofClass f.wanted

end Problem

abbrev Decoder (α : Type) := Node → Except Problem α

/-- What a node is that should be something else. -/
def found (node : Node) : Except Problem Found :=
  match node with
  | .null => .ok .null
  | .boolean b => .ok (.boolean b)
  | .number n =>
    match n.value? with
    | none => .error .malformed
    | some (.unsigned v) => .ok (.integer v.repr)
    | some (.negative v) => .ok (.integer ("-" ++ v.repr))
    | some (.float x) => .ok (.float (x.text .compact))
  | .string none => .error .malformed
  | .string (some s) => .ok (.string s)
  | .array _ _ => .ok .sequence
  | .object _ _ => .ok .map
  | .broken f => .error (.ofFault f)

/-- A node of the wrong kind. -/
def unexpected {α : Type} (expected : String) (node : Node) : Except Problem α := do
  throw (.mismatch (.wrongType (← found node) expected))

/-- What is passed over need only be complete. -/
def passOver (node : Node) : Except Problem Unit :=
  match node.fault? with
  | none => .ok ()
  | some f => .error (.ofClass f.passed)

/-- What is open has to be closed in the end. -/
def atEnd (ending : Option Fault) : Except Problem Unit :=
  match ending with
  | none => .ok ()
  | some f => .error (.ofFault f)

def string : Decoder String
  | .string (some s) => .ok s
  | node => unexpected "a string" node

/-- An integer that is not negative and lies below `bound`. -/
def natural (expected : String) (bound : Nat) : Decoder Nat
  | .number n =>
    match n.value? with
    | some (.unsigned v) =>
      if v < bound then .ok v else .error (.mismatch (.outOfRange v.repr expected))
    | some (.negative v) => .error (.mismatch (.outOfRange ("-" ++ v.repr) expected))
    | _ => unexpected expected (.number n)
  | node => unexpected expected node

def uint64 : Decoder UInt64 := fun node => (natural "u64" UInt64.size node).map UInt64.ofNat

def uint32 : Decoder UInt32 := fun node => (natural "u32" UInt32.size node).map UInt32.ofNat

def list {α : Type} (item : Decoder α) : Decoder (List α)
  | .array items ending => do
    let values ← items.mapM item
    atEnd ending
    return values
  | node => unexpected "a sequence" node

/-- A key has a text when it is wanted. -/
def keyText : StringText → Except Problem String
  | some key => .ok key
  | none => .error .malformed

/-- The members of an object in order. -/
def map {α : Type} (value : Decoder α) : Decoder (List (String × α))
  | .object members ending => do
    let pairs ← members.mapM fun (key, node) => do
      let key ← keyText key
      return (key, ← value node)
    atEnd ending
    return pairs
  | node => unexpected "a map" node

/-- Null stands for the default. -/
def orNull {α : Type} (default : α) (value : Decoder α) : Decoder α
  | .null => .ok default
  | node => value node

/-- A field of a record: its name, its decoder and the value it has when it is missing, if it
may be missing. -/
structure RecordField (α : Type) where
  name : String
  decoder : Decoder α
  default? : Option α

namespace RecordField

variable {α : Type}

def orMissing (f : RecordField α) (read : Option α) : Except Problem α :=
  match read.or f.default? with
  | some a => .ok a
  | none => .error (.mismatch (.missingField f.name))

/-- The field read once; a second time is refused before its value is looked at. -/
def readOnce (f : RecordField α) (read : Option α) (node : Node) : Except Problem (Option α) :=
  match read with
  | some _ => .error (.mismatch (.duplicateField f.name))
  | none => (f.decoder node).map some

/-- The field at a place in a sequence. -/
def readAt (f : RecordField α) (place : Nat) (record : String) (items : List Node)
    (ending : Option Fault) : Except Problem (α × List Node) :=
  match items with
  | node :: rest => (f.decoder node).map (·, rest)
  | [] => do
    atEnd ending
    match f.default? with
    | some a => return (a, [])
    | none => throw (.mismatch (.tooShort place (record ++ " with 3 elements")))

end RecordField

variable {α β γ : Type}

/-- What has been read of a record of three fields. -/
abbrev Gathered (α β γ : Type) := Option α × Option β × Option γ

/-- One member of an object that stands for a record. A member with a name of its own is passed
over. -/
def gather (a : RecordField α) (b : RecordField β) (c : RecordField γ) (read : Gathered α β γ)
    (member : StringText × Node) : Except Problem (Gathered α β γ) := do
  let key ← keyText member.1
  let (x, y, z) := read
  if key = a.name then return (← a.readOnce x member.2, y, z)
  else if key = b.name then return (x, ← b.readOnce y member.2, z)
  else if key = c.name then return (x, y, ← c.readOnce z member.2)
  else
    passOver member.2
    return read

/-- A record of three fields: an object with a member for each of them, or an array of their
values in this order. Fields that are missing are told in this order. -/
def record (name : String) (a : RecordField α) (b : RecordField β) (c : RecordField γ) :
    Decoder (α × β × γ)
  | .object members ending => do
    let (x, y, z) ← members.foldlM (gather a b c) (none, none, none)
    atEnd ending
    return (← a.orMissing x, ← b.orMissing y, ← c.orMissing z)
  | .array items ending => do
    let (x, items) ← a.readAt 0 name items ending
    let (y, items) ← b.readAt 1 name items ending
    let (z, items) ← c.readAt 2 name items ending
    if !items.isEmpty then throw .malformed
    atEnd ending
    return (x, y, z)
  | node => unexpected name node

/-- The value that a whole text stands for. -/
def decode (value : Decoder α) (text : String) : Except Problem α := do
  let document := Document.ofText text
  let a ← value document.root
  atEnd document.after
  return a

end FacetFilter.Json
