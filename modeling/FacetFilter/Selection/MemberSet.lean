/-! Sets of filter values that remember when each value arrived. Membership and equality do
not see the order of arrival; listing in that order is what the stamps are for. The entries
themselves are kept in no order that means anything. -/

namespace FacetFilter

/-- A member and the stamp it was given on arrival. -/
structure Entry where
  member : String
  stamp : Nat
deriving DecidableEq, Repr

/-- No member has two entries, no stamp is given twice, and the next stamp is above all that
are in use. -/
structure MemberSet where
  entries : List Entry
  /-- A natural number where 64 bits are kept. The two agree while fewer than 2^64 values have
  arrived; only the result on runs of changes speaks of that bound, which it assumes of the
  arrivals and finds kept by the stamps. -/
  nextStamp : Nat
  distinct : (entries.map Entry.member).Nodup
  stampsDistinct : (entries.map Entry.stamp).Nodup
  stampsBelow : ∀ e ∈ entries, e.stamp < nextStamp

namespace MemberSet

def empty : MemberSet := ⟨[], 0, by simp, by simp, by simp⟩

def members (s : MemberSet) : List String := s.entries.map Entry.member

def size (s : MemberSet) : Nat := s.entries.length

def isEmpty (s : MemberSet) : Bool := s.entries.isEmpty

def contains (s : MemberSet) (v : String) : Bool := s.members.contains v

theorem contains_iff {s : MemberSet} {v : String} : s.contains v = true ↔ v ∈ s.members := by
  simp [contains]

/-- A value that is no member arrives with the next stamp. -/
def add (s : MemberSet) (v : String) (h : s.contains v = false) : MemberSet where
  entries := ⟨v, s.nextStamp⟩ :: s.entries
  nextStamp := s.nextStamp + 1
  distinct := by
    have : v ∉ s.members := fun hm => by simp [contains_iff.mpr hm] at h
    exact List.nodup_cons.mpr ⟨this, s.distinct⟩
  stampsDistinct := by
    refine List.nodup_cons.mpr ⟨fun hm => ?_, s.stampsDistinct⟩
    obtain ⟨e, he, hs⟩ := List.mem_map.mp hm
    exact absurd (s.stampsBelow e he) (by simp at hs; omega)
  stampsBelow := by
    intro e he
    rcases List.mem_cons.mp he with rfl | he
    · exact Nat.lt_succ_self _
    · exact Nat.lt_succ_of_lt (s.stampsBelow e he)

/-- The set without `v`. -/
def erase (s : MemberSet) (v : String) : MemberSet where
  entries := s.entries.filter (·.member != v)
  nextStamp := s.nextStamp
  distinct := s.distinct.sublist (List.filter_sublist.map _)
  stampsDistinct := s.stampsDistinct.sublist (List.filter_sublist.map _)
  stampsBelow := fun e he => s.stampsBelow e (List.mem_filter.mp he).1

/-- Adds a value, and tells whether it is new. -/
def insert (s : MemberSet) (v : String) : Bool × MemberSet :=
  if h : s.contains v then (false, s) else (true, s.add v (by simpa using h))

/-- Takes a value out, and tells whether it was a member. -/
def remove (s : MemberSet) (v : String) : Bool × MemberSet :=
  if s.contains v then (true, s.erase v) else (false, s)

/-- Flips membership of a value, and tells whether it is a member afterwards. -/
def toggle (s : MemberSet) (v : String) : Bool × MemberSet :=
  match s.remove v with
  | (true, without) => (false, without)
  | (false, same) => same.insert v

/-- The set of the listed values; a value listed again keeps its first place. -/
def ofList (values : List String) : MemberSet :=
  values.foldl (fun s v => (s.insert v).2) empty

/-- Members in the order in which they (last) arrived. -/
def inArrivalOrder (s : MemberSet) : List String :=
  (s.entries.mergeSort fun a b => a.stamp ≤ b.stamp).map Entry.member

/-- Equality of sets: as many members, and each one in the other set. -/
def same (a b : MemberSet) : Bool := a.size == b.size && a.members.all b.contains

@[simp] theorem members_empty : empty.members = [] := rfl

@[simp] theorem members_add (s : MemberSet) (v : String) (h : s.contains v = false) :
    (s.add v h).members = v :: s.members := rfl

theorem mem_members_erase {s : MemberSet} {v w : String} :
    w ∈ (s.erase v).members ↔ w ∈ s.members ∧ w ≠ v := by
  simp only [members, erase, List.mem_map, List.mem_filter, bne_iff_ne, ne_eq]
  constructor
  · rintro ⟨e, ⟨he, hv⟩, rfl⟩; exact ⟨⟨e, he, rfl⟩, hv⟩
  · rintro ⟨⟨e, he, rfl⟩, hv⟩; exact ⟨e, ⟨he, hv⟩, rfl⟩

theorem nodup_members (s : MemberSet) : s.members.Nodup := s.distinct

theorem length_members (s : MemberSet) : s.members.length = s.size := List.length_map _

/-- Flipping a value changes its membership. -/
theorem contains_toggle_self (s : MemberSet) (v : String) :
    (s.toggle v).2.contains v = !s.contains v := by
  by_cases h : s.contains v
  · have : v ∉ (s.erase v).members := fun hm => (mem_members_erase.mp hm).2 rfl
    have hf : (s.erase v).contains v = false := by
      rw [Bool.eq_false_iff]; exact fun hc => this (contains_iff.mp hc)
    simp [toggle, remove, h, hf]
  · have : v ∈ (s.add v (by simpa using h)).members := List.mem_cons_self
    simp [toggle, remove, insert, h, contains_iff.mpr this]

/-- Flipping a value leaves the membership of every other value as it is. -/
theorem contains_toggle_of_ne (s : MemberSet) {v w : String} (hne : w ≠ v) :
    (s.toggle v).2.contains w = s.contains w := by
  by_cases h : s.contains v
  · simp only [toggle, remove, h, ite_true]
    rw [Bool.eq_iff_iff, contains_iff, contains_iff, mem_members_erase]
    exact ⟨And.left, fun hw => ⟨hw, hne⟩⟩
  · simp only [toggle, remove, insert, h, dite_false, Bool.false_eq_true, ite_false]
    rw [Bool.eq_iff_iff, contains_iff, members_add, List.mem_cons, ← contains_iff]
    exact ⟨fun hw => hw.resolve_left hne, Or.inr⟩

/-- A toggle tells the membership that it leaves behind. -/
theorem toggle_fst (s : MemberSet) (v : String) : (s.toggle v).1 = (s.toggle v).2.contains v := by
  rw [contains_toggle_self]
  by_cases h : s.contains v <;> simp [toggle, remove, insert, h]

end MemberSet

end FacetFilter
