import FacetFilter.Facet.AsNumber

/-! Facet counts: for each category the values that occur in the current results and how often
each one does. They are given from outside and only shown; selections need not agree with
them. -/

namespace FacetFilter

structure CountryCount where
  code : String
  name : String
  count : UInt64
deriving DecidableEq, Repr

/-- AS entries are named by bare number. -/
structure AsnCount where
  code : AsNumber
  name : String
  count : UInt64
deriving DecidableEq, Repr

structure ServiceCount where
  name : String
  count : UInt64
deriving DecidableEq, Repr

/-- Services in strictly ascending order of their names. -/
structure Counts where
  countries : List CountryCount
  asns : List AsnCount
  services : List ServiceCount
  ascending : services.Pairwise fun s t => s.name < t.name
deriving DecidableEq, Repr

namespace Counts

def empty : Counts := ⟨[], [], [], .nil⟩

/-- Puts a service in its place; one of the same name gives way. -/
def putService (s : ServiceCount) : List ServiceCount → List ServiceCount
  | [] => [s]
  | t :: rest =>
    if s.name < t.name then s :: t :: rest
    else if s.name = t.name then s :: rest
    else t :: putService s rest

/-- The services of a list in order of their names; the last of one name counts. -/
def servicesOf (listed : List ServiceCount) : List ServiceCount :=
  listed.foldl (fun done s => putService s done) []

theorem eq_or_mem_of_mem_putService {s t : ServiceCount} {services : List ServiceCount}
    (h : t ∈ putService s services) : t = s ∨ t ∈ services := by
  induction services with
  | nil => exact Or.inl (List.mem_singleton.mp h)
  | cons u rest ih =>
    unfold putService at h
    split at h
    · exact List.mem_cons.mp h
    · split at h
      · rcases List.mem_cons.mp h with rfl | h
        · exact Or.inl rfl
        · exact Or.inr (List.mem_cons_of_mem _ h)
      · rcases List.mem_cons.mp h with rfl | h
        · exact Or.inr List.mem_cons_self
        · exact (ih h).imp id (List.mem_cons_of_mem _)

theorem ascending_putService (s : ServiceCount) {services : List ServiceCount}
    (h : services.Pairwise fun s t => s.name < t.name) :
    (putService s services).Pairwise fun s t => s.name < t.name := by
  induction services with
  | nil => exact List.pairwise_singleton _ _
  | cons t rest ih =>
    obtain ⟨hbelow, hrest⟩ := List.pairwise_cons.mp h
    unfold putService
    split
    · next hlt =>
      refine List.pairwise_cons.mpr ⟨fun u hu => ?_, h⟩
      rcases List.mem_cons.mp hu with rfl | hu
      · exact hlt
      · exact String.lt_trans hlt (hbelow u hu)
    · next hlt =>
      split
      · next heq =>
        exact List.pairwise_cons.mpr ⟨fun u hu => heq ▸ hbelow u hu, hrest⟩
      · next hne =>
        have habove : t.name < s.name := Std.lt_of_le_of_ne (String.not_lt.mp hlt) (Ne.symm hne)
        refine List.pairwise_cons.mpr ⟨fun u hu => ?_, ih hrest⟩
        rcases eq_or_mem_of_mem_putService hu with rfl | hu
        · exact habove
        · exact hbelow u hu

/-- Services put in their places one after another stand in order. -/
theorem ascending_servicesOf (listed : List ServiceCount) :
    (servicesOf listed).Pairwise fun s t => s.name < t.name := by
  have hfold : ∀ done : List ServiceCount, (done.Pairwise fun s t => s.name < t.name) →
      (listed.foldl (fun done s => putService s done) done).Pairwise
        fun s t => s.name < t.name := by
    induction listed with
    | nil => exact fun done h => h
    | cons s listed ih => exact fun done h => ih _ (ascending_putService s h)
  exact hfold [] .nil

/-- Counts whose services are listed in any order. -/
def ofListed (countries : List CountryCount) (asns : List AsnCount)
    (services : List ServiceCount) : Counts :=
  ⟨countries, asns, servicesOf services, ascending_servicesOf services⟩

end Counts

end FacetFilter
