import FacetFilter.Facet.CountsJson
import FacetFilter.Proofs.Facet.Services
import FacetFilter.Proofs.Json.Decode
import FacetFilter.Proofs.Json.Writer
import Mathlib.Algebra.Group.Nat.Defs

/-! Which documents are taken for facet counts, and what they are taken for. Three categories stand
in an object or an array, each of which may be missing; an entry has a code, a name and a count.
Members of other names do not matter. -/

namespace FacetFilter.Counts

open FacetFilter.Json FacetFilter.Json.Grammar FacetFilter.Text

variable {α β : Type}

/-! ## The shape -/

/-- The node gives a code, a name and a count of some kind. -/
def Entry (IsCode IsName IsCount : Node → Prop) (node : Node) : Prop :=
  ∃ c n k, Fields "code" "name" "count" node (some c) (some n) (some k) ∧
    IsCode c ∧ IsName n ∧ IsCount k

def IsText (node : Node) : Prop := ∃ s, node = .string (some s)

/-- The node is a number below a bound, written with digits alone. -/
def IsBelow (bound : Nat) (node : Node) : Prop := ∃ v, node.IsNatural v ∧ v < bound

/-- The node is an array with entries of one kind. -/
def IsListOf (IsEntry : Node → Prop) (node : Node) : Prop :=
  ∃ vs, node = .array vs none ∧ ∀ v ∈ vs, IsEntry v

/-- The node is null, or an object with counts under names. -/
def IsServices (node : Node) : Prop :=
  node = .null ∨ ∃ ms, node = .object ms none ∧
    ∀ m ∈ ms, (∃ name, m.1 = some name) ∧ IsBelow (2 ^ 64) m.2

/-- The node has the shape of facet counts. -/
def Shaped (node : Node) : Prop :=
  ∃ countries? asns? services?,
    Fields "countries" "asns" "services" node countries? asns? services? ∧
      (∀ v ∈ countries?, IsListOf (Entry IsText IsText (IsBelow (2 ^ 64))) v) ∧
      (∀ v ∈ asns?, IsListOf (Entry (IsBelow (2 ^ 32)) IsText (IsBelow (2 ^ 64))) v) ∧
      ∀ v ∈ services?, IsServices v

/-! ## The counts of a node -/

def GivesCountry (node : Node) (e : CountryCount) : Prop :=
  Entry (· = .string (some e.code)) (· = .string (some e.name)) (·.IsNatural e.count.toNat) node

def GivesAsn (node : Node) (e : AsnCount) : Prop :=
  Entry (·.IsNatural e.code.toNat) (· = .string (some e.name)) (·.IsNatural e.count.toNat) node

/-- The entries of a category in their order; there are none where it is missing. -/
def GivesList (GivesEntry : Node → α → Prop) (node? : Option Node) (entries : List α) : Prop :=
  match node? with
  | none => entries = []
  | some node => ∃ vs, node = .array vs none ∧ List.Forall₂ GivesEntry vs entries

/-- The services as they are listed; there are none where they are missing or null. -/
def GivesServices (node? : Option Node) (listed : List ServiceCount) : Prop :=
  match node? with
  | none | some .null => listed = []
  | some node => ∃ ms, node = .object ms none ∧
      List.Forall₂ (fun m s => m.1 = some s.name ∧ m.2.IsNatural s.count.toNat) ms listed

/-- Countries and AS entries are those of the node in their order; of the services that it lists
the last of each name. -/
def Given (node : Node) (counts : Counts) : Prop :=
  ∃ countries? asns? services? listed,
    Fields "countries" "asns" "services" node countries? asns? services? ∧
      GivesList GivesCountry countries? counts.countries ∧
      GivesList GivesAsn asns? counts.asns ∧
      GivesServices services? listed ∧ ∀ s, s ∈ counts.services ↔ Latest s listed

/-! ## A node of the shape gives counts -/

theorem exists_isNatural_uint64_iff {node : Node} :
    (∃ count : UInt64, node.IsNatural count.toNat) ↔ IsBelow (2 ^ 64) node := by
  constructor
  · exact fun ⟨count, h⟩ => ⟨count.toNat, h, count.toNat_lt⟩
  · rintro ⟨v, h, hlt⟩
    exact ⟨UInt64.ofNat v, by rwa [UInt64.toNat_ofNat_of_lt' hlt]⟩

theorem exists_isNatural_uint32_iff {node : Node} :
    (∃ code : UInt32, node.IsNatural code.toNat) ↔ IsBelow (2 ^ 32) node := by
  constructor
  · exact fun ⟨code, h⟩ => ⟨code.toNat, h, code.toNat_lt⟩
  · rintro ⟨v, h, hlt⟩
    exact ⟨UInt32.ofNat v, by rwa [UInt32.toNat_ofNat_of_lt' hlt]⟩

/-- An entry whose parts are given has parts of their kinds. -/
theorem exists_entry_iff {CodeIs : α → Node → Prop} {IsCode : Node → Prop}
    (hcode : ∀ v, (∃ code, CodeIs code v) ↔ IsCode v) (node : Node) :
    (∃ code name, ∃ count : UInt64,
      Entry (CodeIs code) (· = .string (some name)) (·.IsNatural count.toNat) node) ↔
        Entry IsCode IsText (IsBelow (2 ^ 64)) node := by
  constructor
  · rintro ⟨code, name, count, c, n, k, hfields, hc, hn, hk⟩
    exact ⟨c, n, k, hfields, (hcode c).mp ⟨_, hc⟩, ⟨_, hn⟩, exists_isNatural_uint64_iff.mp ⟨_, hk⟩⟩
  · rintro ⟨c, n, k, hfields, hc, ⟨name, hn⟩, hk⟩
    obtain ⟨code, hc⟩ := (hcode c).mpr hc
    obtain ⟨count, hk⟩ := exists_isNatural_uint64_iff.mpr hk
    exact ⟨code, name, count, c, n, k, hfields, hc, hn, hk⟩

theorem exists_givesCountry_iff (node : Node) :
    (∃ e, GivesCountry node e) ↔ Entry IsText IsText (IsBelow (2 ^ 64)) node := by
  have htext : ∀ v, (∃ code, v = .string (some code)) ↔ IsText v := fun _ => Iff.rfl
  rw [← exists_entry_iff htext]
  exact ⟨fun ⟨e, h⟩ => ⟨e.code, e.name, e.count, h⟩, fun ⟨_, _, _, h⟩ => ⟨⟨_, _, _⟩, h⟩⟩

theorem exists_givesAsn_iff (node : Node) :
    (∃ e, GivesAsn node e) ↔ Entry (IsBelow (2 ^ 32)) IsText (IsBelow (2 ^ 64)) node := by
  rw [← exists_entry_iff fun _ => exists_isNatural_uint32_iff]
  exact ⟨fun ⟨e, h⟩ => ⟨e.code, e.name, e.count, h⟩, fun ⟨_, _, _, h⟩ => ⟨⟨_, _, _⟩, h⟩⟩

theorem exists_givesList_iff {GivesEntry : Node → α → Prop} {IsEntry : Node → Prop}
    (hentry : ∀ v, (∃ e, GivesEntry v e) ↔ IsEntry v) (node? : Option Node) :
    (∃ entries, GivesList GivesEntry node? entries) ↔ ∀ v ∈ node?, IsListOf IsEntry v := by
  cases node? with
  | none => simp [GivesList]
  | some node =>
    simp only [GivesList, IsListOf, Option.mem_some_iff, forall_eq', ← hentry,
      ← exists_forall₂_iff]
    rw [exists_comm]
    exact exists_congr fun vs => exists_and_left

theorem exists_givesServices_iff {node? : Option Node} :
    (∃ listed, GivesServices node? listed) ↔ ∀ v ∈ node?, IsServices v := by
  have hmember : ∀ m : StringText × Node,
      (∃ s : ServiceCount, m.1 = some s.name ∧ m.2.IsNatural s.count.toNat) ↔
        (∃ name, m.1 = some name) ∧ IsBelow (2 ^ 64) m.2 := by
    intro m
    rw [← exists_isNatural_uint64_iff]
    constructor
    · exact fun ⟨s, hname, hcount⟩ => ⟨⟨s.name, hname⟩, s.count, hcount⟩
    · exact fun ⟨⟨name, hname⟩, count, hcount⟩ => ⟨⟨name, count⟩, hname, hcount⟩
  unfold GivesServices IsServices
  split
  · simp
  · simp
  · next node hnull =>
    simp only [Option.mem_some_iff, forall_eq', ← hmember, ← exists_forall₂_iff]
    rw [or_iff_right hnull, exists_comm]
    exact exists_congr fun ms => exists_and_left

theorem exists_given_iff {node : Node} : (∃ counts, Given node counts) ↔ Shaped node := by
  have hcountries := exists_givesList_iff exists_givesCountry_iff
  have hasns := exists_givesList_iff exists_givesAsn_iff
  simp only [Shaped, ← hcountries, ← hasns, ← exists_givesServices_iff]
  constructor
  · rintro ⟨counts, a?, b?, c?, listed, hfields, ha, hb, hc, -⟩
    exact ⟨a?, b?, c?, hfields, ⟨_, ha⟩, ⟨_, hb⟩, ⟨_, hc⟩⟩
  · rintro ⟨a?, b?, c?, hfields, ⟨countries, ha⟩, ⟨asns, hb⟩, ⟨listed, hc⟩⟩
    exact ⟨ofListed countries asns listed, a?, b?, c?, listed, hfields, ha, hb, hc,
      fun s => mem_servicesOf_iff⟩

theorem isNatural_ofNat (n : Nat) : (Node.ofNat n).IsNatural n :=
  ⟨_, rfl, rfl, rfl, rfl, Nat.ofDigitChars_toDigits (by decide) (by decide)⟩

/-! ## Decoding -/

/-- A record whose fields may not be missing. -/
theorem record_entry_eq_ok_iff {expected : String} {code : Decoder α} {x : α}
    {IsCode : Node → Prop} (hcode : ∀ c, code c = .ok x ↔ IsCode c) {node : Node}
    (hnode : node.IsWritten) {name : String} {count : UInt64} :
    record expected ⟨"code", code, none⟩ nameField countField node = .ok (x, name, count) ↔
      Entry IsCode (· = .string (some name)) (·.IsNatural count.toNat) node := by
  have hrequired : ∀ {β : Type} (f : RecordField β) (v? : Option Node) (b : β),
      f.default? = none → (f.Gives v? b ↔ ∃ v, v? = some v ∧ f.decoder v = .ok b) := by
    intro β f v? b hf
    cases v? <;> simp [RecordField.Gives, hf]
  have hname : "code" ≠ "name" := by decide
  have hcount : "code" ≠ "count" := by decide
  rw [record_eq_ok_iff expected hname hcount (by decide) hnode]
  constructor
  · rintro ⟨x?, y?, z?, hfields, hx, hy, hz⟩
    obtain ⟨c, rfl, hc⟩ := (hrequired _ _ _ rfl).mp hx
    obtain ⟨n, rfl, hn⟩ := (hrequired _ _ _ rfl).mp hy
    obtain ⟨k, rfl, hk⟩ := (hrequired _ _ _ rfl).mp hz
    exact ⟨c, n, k, hfields, (hcode c).mp hc, string_eq_ok_iff.mp hn, uint64_eq_ok_iff.mp hk⟩
  · rintro ⟨c, n, k, hfields, hc, hn, hk⟩
    exact ⟨some c, some n, some k, hfields, (hcode c).mpr hc, string_eq_ok_iff.mpr hn,
      uint64_eq_ok_iff.mpr hk⟩

theorem country_eq_ok_iff {node : Node} (hnode : node.IsWritten) {e : CountryCount} :
    country node = .ok e ↔ GivesCountry node e := by
  rw [country, map_eq_ok_iff, GivesCountry,
    ← record_entry_eq_ok_iff (fun _ => string_eq_ok_iff) hnode]
  constructor
  · rintro ⟨read, h, rfl⟩
    exact h
  · exact fun h => ⟨(e.code, e.name, e.count), h, rfl⟩

theorem asn_eq_ok_iff {node : Node} (hnode : node.IsWritten) {e : AsnCount} :
    asn node = .ok e ↔ GivesAsn node e := by
  rw [asn, map_eq_ok_iff, GivesAsn, ← record_entry_eq_ok_iff (fun _ => uint32_eq_ok_iff) hnode]
  constructor
  · rintro ⟨read, h, rfl⟩
    exact h
  · exact fun h => ⟨(e.code, e.name, e.count), h, rfl⟩

/-- A category that may be missing. -/
theorem gives_list_iff {name : String} {item : Decoder α} {GivesEntry : Node → α → Prop}
    (hitem : ∀ v : Node, v.IsWritten → ∀ a, item v = .ok a ↔ GivesEntry v a) {node? : Option Node}
    (hnode? : ∀ v ∈ node?, v.IsWritten) {entries : List α} :
    RecordField.Gives ⟨name, list item, some []⟩ node? entries ↔
      GivesList GivesEntry node? entries := by
  cases node? with
  | none => simp [RecordField.Gives, GivesList, eq_comm]
  | some node =>
    simp only [RecordField.Gives, GivesList, list_eq_ok_iff]
    refine exists_congr fun vs => and_congr_right ?_
    rintro rfl
    have hvs := (hnode? _ rfl).items.2
    exact forall₂_congr_of_mem fun v hv => hitem v (hvs v hv)

theorem serviceMap_eq_ok_iff {node : Node} {listed : List ServiceCount} :
    serviceMap node = .ok listed ↔ GivesServices (some node) listed := by
  have hmembers : ∀ node : Node,
      (map uint64 node).map (·.map fun p => ServiceCount.mk p.1 p.2) = .ok listed ↔
        ∃ ms, node = .object ms none ∧
          List.Forall₂ (fun m s => m.1 = some s.name ∧ m.2.IsNatural s.count.toNat) ms listed := by
    intro node
    simp only [map_eq_ok_iff, map_decoder_eq_ok_iff, uint64_eq_ok_iff]
    constructor
    · rintro ⟨pairs, ⟨ms, rfl, hms⟩, rfl⟩
      exact ⟨ms, rfl, List.forall₂_map_right_iff.mpr hms⟩
    · rintro ⟨ms, rfl, hms⟩
      have hlisted : (listed.map fun s => (s.name, s.count)).map
          (fun p => ServiceCount.mk p.1 p.2) = listed := by
        rw [List.map_map]
        exact List.map_id listed
      exact ⟨_, ⟨ms, rfl, List.forall₂_map_right_iff.mpr hms⟩, hlisted⟩
  unfold serviceMap orNull GivesServices
  cases node with
  | null => simp [eq_comm]
  | _ => exact hmembers _

theorem decoder_eq_ok_iff {node : Node} (hnode : node.IsWritten) {counts : Counts} :
    decoder node = .ok counts ↔ Given node counts := by
  rw [decoder, map_eq_ok_iff]
  have hservices : ∀ (c? : Option Node) (listed : List ServiceCount),
      RecordField.Gives ⟨"services", serviceMap, some []⟩ c? listed ↔ GivesServices c? listed := by
    intro c? listed
    cases c? with
    | none => simp [RecordField.Gives, GivesServices, eq_comm]
    | some v => exact serviceMap_eq_ok_iff
  constructor
  · rintro ⟨⟨countries, asns, listed⟩, hread, rfl⟩
    obtain ⟨a?, b?, c?, hfields, ha, hb, hc⟩ :=
      (record_eq_ok_iff _ (by decide) (by decide) (by decide) hnode).mp hread
    obtain ⟨hwa, hwb, -⟩ := hfields.isWritten hnode
    exact ⟨a?, b?, c?, listed, hfields,
      (gives_list_iff (fun _ h _ => country_eq_ok_iff h) hwa).mp ha,
      (gives_list_iff (fun _ h _ => asn_eq_ok_iff h) hwb).mp hb, (hservices _ _).mp hc,
      fun s => mem_servicesOf_iff⟩
  · rintro ⟨a?, b?, c?, listed, hfields, ha, hb, hc, hlatest⟩
    obtain ⟨hwa, hwb, -⟩ := hfields.isWritten hnode
    refine ⟨(counts.countries, counts.asns, listed), ?_, ?_⟩
    · exact (record_eq_ok_iff _ (by decide) (by decide) (by decide) hnode).mpr ⟨a?, b?, c?, hfields,
        (gives_list_iff (fun _ h _ => country_eq_ok_iff h) hwa).mpr ha,
        (gives_list_iff (fun _ h _ => asn_eq_ok_iff h) hwb).mpr hb, (hservices _ _).mpr hc⟩
    · have hsame : servicesOf listed = counts.services :=
        eq_of_mem_iff (ascending_servicesOf listed) counts.ascending
          fun s => mem_servicesOf_iff.trans (hlatest s).symm
      cases counts
      exact (Counts.mk.injEq ..).mpr ⟨rfl, rfl, hsame⟩

/-- Of a text that stands for a value, the value decides: it is taken for facet counts exactly when
it has their shape, and for those that it gives. -/
theorem ofJson_eq_ok_iff {text : String} {root : Node} (h : Denotes text root) :
    ((∃ counts, ofJson text = .ok counts) ↔ Shaped root) ∧
      ∀ counts, ofJson text = .ok counts ↔ Given root counts := by
  have hgiven : ∀ counts, ofJson text = .ok counts ↔ Given root counts := fun counts => by
    rw [ofJson, decode_of_denotes h, decoder_eq_ok_iff (isWritten_of_denotes h)]
  refine ⟨?_, hgiven⟩
  rw [← exists_given_iff]
  exact exists_congr hgiven

/-- White space, an escape, an entry without names, a member of another name and a service that is
listed again. -/
theorem ofJson_eq_ok_iff_listed_again :
    let text := "\x7b\"asns\":[ [7,\"\\u0041\",2]],\"x\":null,\"services\":\x7b\"b\":1,\"b\":3\x7d\x7d"
    let root : Node := .object [
      (some "asns", .array [.array [.ofNat 7, .string (some "A"), .ofNat 2] none] none),
      (some "x", .null),
      (some "services", .object [(some "b", .ofNat 1), (some "b", .ofNat 3)] none)] none
    let counts : Counts := ⟨[], [⟨7, "A", 2⟩], [⟨"b", 3⟩], by decide⟩
    Denotes text root ∧ Shaped root ∧ Given root counts ∧ ofJson text = .ok counts := by
  intro text root counts
  have hdenotes : Denotes text root := by
    have hnone : Spaces [] := by simp [Spaces]
    have hspace : Spaces [' '] := by simp [Spaces]
    have hunit : UnitText 0x41 ['0', '0', '4', '1'] := ⟨rfl, by decide⟩
    have hletter : String.ofList [Char.ofNat 0x41] = "A" := by rfl
    have hname := hletter ▸ Written.string (Spelled.unit hunit (by decide) .nil)
    have hentry := Written.array (.item (written_bare (written_numberChars 7))
      (.item (written_bare hname) (.lastItem (written_bare (written_numberChars 2)))))
    have hasns := Written.array (.lastItem (.element hspace hentry hnone))
    have hservices := Written.object (.moreMembers (written_member "b" (written_numberChars 1))
      (.lastMember (written_member "b" (written_numberChars 3))))
    have hobject := Written.object (.moreMembers (written_member "asns" hasns)
      (.moreMembers (written_member "x" .null) (.lastMember (written_member "services" hservices))))
    have hwritten := written_bare hobject
    rw [Denotes]
    convert hwritten using 1
    decide
  have hgiven : Given root counts := by
    have hlisted : servicesOf [⟨"b", 1⟩, ⟨"b", 3⟩] = counts.services := by decide
    refine ⟨none, some _, some _, [⟨"b", 1⟩, ⟨"b", 3⟩], .object rfl rfl rfl, rfl,
      ⟨_, rfl, .cons ?_ .nil⟩, ⟨_, rfl, ?_⟩, fun s => hlisted ▸ mem_servicesOf_iff⟩
    · exact ⟨_, _, _, .array (by decide), isNatural_ofNat 7, rfl, isNatural_ofNat 2⟩
    · exact .cons ⟨rfl, isNatural_ofNat 1⟩ (.cons ⟨rfl, isNatural_ofNat 3⟩ .nil)
  obtain ⟨hshaped, hread⟩ := ofJson_eq_ok_iff hdenotes
  have hcounts := (hread counts).mpr hgiven
  exact ⟨hdenotes, hshaped.mp ⟨counts, hcounts⟩, hgiven, hcounts⟩

end FacetFilter.Counts
