import FacetFilter.Proofs.Facet.CountsShape
import FacetFilter.Proofs.Json.Writer
import FacetFilter.Selection.FiltersJson

/-! Facet counts and filters that are written as JSON are read back as they were. What is written
stands for a node, and the node gives back every part. -/

namespace FacetFilter

open FacetFilter.Json FacetFilter.Json.Grammar FacetFilter.Text

/-- A list is written by its items, whatever they are. -/
theorem written_array_map {α : Type} {node : α → Node} {text : α → List Char}
    (h : ∀ a, Written (.value (node a)) (text a)) (items : List α) :
    Written (.value (.array (items.map node) none)) (arrayChars (items.map text)) := by
  refine written_arrayChars ?_
  rw [List.forall₂_map_left_iff, List.forall₂_map_right_iff, List.forall₂_same]
  exact fun a _ => h a

namespace Counts

/-- The node of an entry with its code, name and count. -/
def entryNode (code : Node) (name : String) (count : UInt64) : Node :=
  .object [(some "code", code), (some "name", .string (some name)),
    (some "count", .ofNat count.toNat)] none

def countryNode (e : CountryCount) : Node := entryNode (.string (some e.code)) e.name e.count

def asnNode (e : AsnCount) : Node := entryNode (.ofNat e.code.toNat) e.name e.count

/-- The node that counts are written as. -/
def node (counts : Counts) : Node :=
  .object [(some "countries", .array (counts.countries.map countryNode) none),
    (some "asns", .array (counts.asns.map asnNode) none),
    (some "services",
      .object (counts.services.map fun s => (some s.name, .ofNat s.count.toNat)) none)] none

theorem written_entryNode {code : Node} {t : List Char} (h : Written (.value code) t)
    (name : String) (count : UInt64) :
    Written (.value (entryNode code name count)) (objectChars
      [("code", t), ("name", stringChars name), ("count", numberChars count.toNat)]) :=
  written_objectChars (.cons ⟨rfl, h⟩ (.cons ⟨rfl, written_stringChars name⟩
    (.cons ⟨rfl, written_numberChars count.toNat⟩ .nil)))

theorem written_node (counts : Counts) : Written (.value counts.node) counts.jsonChars := by
  have hcountries := written_array_map
    (fun e : CountryCount => written_entryNode (written_stringChars e.code) e.name e.count)
    counts.countries
  have hasns := written_array_map
    (fun e : AsnCount => written_entryNode (written_numberChars e.code.toNat) e.name e.count)
    counts.asns
  have hservices : Written
      (.value (.object (counts.services.map fun s => (some s.name, .ofNat s.count.toNat)) none))
      (objectChars (counts.services.map fun s => (s.name, numberChars s.count.toNat))) := by
    refine written_objectChars ?_
    rw [List.forall₂_map_left_iff, List.forall₂_map_right_iff, List.forall₂_same]
    exact fun s _ => ⟨rfl, written_numberChars s.count.toNat⟩
  exact written_objectChars
    (.cons ⟨rfl, hcountries⟩ (.cons ⟨rfl, hasns⟩ (.cons ⟨rfl, hservices⟩ .nil)))

theorem denotes_json (counts : Counts) : Denotes counts.json counts.node := by
  rw [Denotes, json, String.toList_ofList]
  exact written_bare (written_node counts)

theorem entry_entryNode {IsCode IsName IsCount : Node → Prop} {code : Node} {name : String}
    {count : UInt64} (hcode : IsCode code) (hname : IsName (.string (some name)))
    (hcount : IsCount (.ofNat count.toNat)) :
    Entry IsCode IsName IsCount (entryNode code name count) :=
  ⟨_, _, _, .object (by simp [named]) (by simp [named]) (by simp [named]), hcode, hname, hcount⟩

/-- The node of counts gives them. -/
theorem given_node (counts : Counts) : Given counts.node counts := by
  refine ⟨some _, some _, some _, counts.services,
    .object (by simp [named]; rfl) (by simp [named]; rfl) (by simp [named]; rfl), ?_, ?_, ?_, ?_⟩
  · refine ⟨_, rfl, ?_⟩
    rw [List.forall₂_map_left_iff, List.forall₂_same]
    exact fun e _ => entry_entryNode rfl rfl (isNatural_ofNat _)
  · refine ⟨_, rfl, ?_⟩
    rw [List.forall₂_map_left_iff, List.forall₂_same]
    exact fun e _ => entry_entryNode (isNatural_ofNat _) rfl (isNatural_ofNat _)
  · refine ⟨_, rfl, ?_⟩
    rw [List.forall₂_map_left_iff, List.forall₂_same]
    exact fun s _ => ⟨rfl, isNatural_ofNat _⟩
  · intro s
    rw [← mem_servicesOf_iff, servicesOf_of_ascending counts.ascending]

theorem read_json (counts : Counts) : ofJson counts.json = .ok counts := by
  have hdenotes := denotes_json counts
  rw [ofJson, decode_of_denotes hdenotes, decoder_eq_ok_iff (isWritten_of_denotes hdenotes)]
  exact given_node counts

/-- The counts in a text, written anew. -/
def rewritten (text : String) : Except Problem String := (ofJson text).map json

end Counts

namespace RawFilters

/-- The node that the values of one category are written as. -/
def listNode (values : List String) : Node :=
  .array (values.map fun v => .string (some v)) .none

/-- The node that filters are written as. -/
def node (raw : RawFilters) : Node :=
  .object (Category.all.map fun c => (some c.key, listNode (raw.get c))) .none

theorem denotes_json (raw : RawFilters) : Denotes raw.json raw.node := by
  rw [Denotes, json, String.toList_ofList]
  refine written_bare (written_objectChars ?_)
  rw [List.forall₂_map_left_iff, List.forall₂_map_right_iff, List.forall₂_same]
  exact fun c _ => ⟨rfl, written_array_map written_stringChars (raw.get c)⟩

theorem gives_listNode (c : Category) (values : List String) :
    (field c).Gives (some (listNode values)) values := by
  refine list_eq_ok_iff.mpr ⟨_, rfl, ?_⟩
  rw [List.forall₂_map_left_iff, List.forall₂_same]
  exact fun v _ => rfl

theorem fields_node (raw : RawFilters) :
    Fields (field .country).name (field .asn).name (field .service).name raw.node
      (some (listNode (raw.get .country))) (some (listNode (raw.get .asn)))
      (some (listNode (raw.get .service))) :=
  .object (by simp [named, field, Category.all, Category.key])
    (by simp [named, field, Category.all, Category.key])
    (by simp [named, field, Category.all, Category.key])

theorem read_json (raw : RawFilters) : ofJson raw.json = .ok raw := by
  have hdenotes := denotes_json raw
  rw [ofJson, decode_of_denotes hdenotes, decoder, map_eq_ok_iff]
  refine ⟨(raw.get .country, raw.get .asn, raw.get .service), ?_, rfl⟩
  exact (record_eq_ok_iff _ (by decide) (by decide) (by decide)
    (isWritten_of_denotes hdenotes)).mpr ⟨_, _, _, fields_node raw, gives_listNode _ _,
      gives_listNode _ _, gives_listNode _ _⟩

end RawFilters

/-- Counts and filters are read back from their text. So counts that are read from any text are read
again from the text they are written as, and writing that anew changes nothing. -/
theorem read_written_json :
    (∀ counts : Counts, Counts.ofJson counts.json = .ok counts) ∧
    (∀ raw : RawFilters, RawFilters.ofJson raw.json = .ok raw) ∧
    ∀ text counts, Counts.ofJson text = .ok counts →
      Counts.rewritten text = .ok counts.json ∧ Counts.ofJson counts.json = .ok counts ∧
        Counts.rewritten counts.json = .ok counts.json := by
  refine ⟨Counts.read_json, RawFilters.read_json, fun text counts h => ?_⟩
  have hagain := Counts.read_json counts
  exact ⟨congrArg (Except.map Counts.json) h, hagain, congrArg (Except.map Counts.json) hagain⟩

/-- Services that are listed out of order, one with a line break in its name. -/
theorem read_written_json_services :
    Counts.ofJson "\x7b\"services\": \x7b\"b\":1,\"a\\u000a\":2\x7d\x7d" =
        .ok ⟨[], [], [⟨"a\n", 2⟩, ⟨"b", 1⟩], by decide⟩ ∧
      Counts.rewritten "\x7b\"services\": \x7b\"b\":1,\"a\\u000a\":2\x7d\x7d" = .ok
        "\x7b\"countries\":[],\"asns\":[],\"services\":\x7b\"a\\n\":2,\"b\":1\x7d\x7d" := by
  have hread : Counts.ofJson "\x7b\"services\": \x7b\"b\":1,\"a\\u000a\":2\x7d\x7d" =
      .ok ⟨[], [], [⟨"a\n", 2⟩, ⟨"b", 1⟩], by decide⟩ := by rfl
  obtain ⟨hwritten, -, -⟩ := read_written_json.2.2 _ _ hread
  exact ⟨hread, hwritten⟩

end FacetFilter
