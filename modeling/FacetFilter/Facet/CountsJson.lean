import FacetFilter.Facet.Counts
import FacetFilter.Json.Decode
import FacetFilter.Json.Writer

/-! Facet counts as the data service sends them, and as they are written back. -/

namespace FacetFilter

namespace Counts

open FacetFilter.Json

def nameField : RecordField String := ⟨"name", string, none⟩
def countField : RecordField UInt64 := ⟨"count", uint64, none⟩

def country : Decoder CountryCount := fun node =>
  (record "struct CountryFacet" ⟨"code", string, none⟩ nameField countField node).map
    fun (code, name, count) => ⟨code, name, count⟩

def asn : Decoder AsnCount := fun node =>
  (record "struct AsnFacet" ⟨"code", uint32, none⟩ nameField countField node).map
    fun (code, name, count) => ⟨code, name, count⟩

/-- Services are members of an object, in any order; null stands for none. -/
def serviceMap : Decoder (List ServiceCount) :=
  orNull [] fun node => (map uint64 node).map (·.map fun (name, count) => ⟨name, count⟩)

/-- Every category may be missing. -/
def decoder : Decoder Counts := fun node =>
  (record "struct FacetCounts" ⟨"countries", list country, some []⟩ ⟨"asns", list asn, some []⟩
    ⟨"services", serviceMap, some []⟩ node).map
    fun (countries, asns, services) => ofListed countries asns services

/-- The counts in a text. -/
def ofJson (text : String) : Except Problem Counts := decode decoder text

/-- The message for counts of the wrong shape. -/
def mismatchMessage (m : Shape.Mismatch) : String := "invalid facet counts: " ++ m.message

/-- Country and AS entries as objects of code, name and count, services as one object. -/
def jsonChars (counts : Counts) : List Char :=
  let entry := fun (code : List Char) (name : String) (count : UInt64) => objectChars
    [("code", code), ("name", stringChars name), ("count", numberChars count.toNat)]
  objectChars [
    ("countries", arrayChars
      (counts.countries.map fun e => entry (stringChars e.code) e.name e.count)),
    ("asns", arrayChars
      (counts.asns.map fun e => entry (numberChars e.code.toNat) e.name e.count)),
    ("services", objectChars
      (counts.services.map fun s => (s.name, numberChars s.count.toNat)))]

def json (counts : Counts) : String := String.ofList counts.jsonChars

end Counts

end FacetFilter
