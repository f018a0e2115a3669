import FacetFilter.Selection.MemberSet
import Mathlib.Data.List.Nodup
import Mathlib.Data.List.Induction
import Mathlib.Data.List.Perm.Subperm

/-! What a member set shows: its members as a set, and the order of their arrival. The order in
which the entries are kept shows nowhere: equality compares memberships, and the stamps alone
determine the order of arrival. -/

namespace FacetFilter.MemberSet

variable {s t : MemberSet} {v w : String}

theorem mem_members_insert : w ∈ (s.insert v).2.members ↔ w = v ∨ w ∈ s.members := by
  by_cases h : s.contains v
  · have hv : v ∈ s.members := contains_iff.mp h
    simp only [insert, h, dite_true]
    exact ⟨Or.inr, fun hw => hw.elim (fun e => e ▸ hv) id⟩
  · simp [insert, h]

theorem mem_members_foldl_insert (values : List String) (s : MemberSet) :
    w ∈ (values.foldl (fun s v => (s.insert v).2) s).members ↔ w ∈ values ∨ w ∈ s.members := by
  induction values generalizing s with
  | nil => simp
  | cons v rest ih =>
    rw [List.foldl_cons, ih, mem_members_insert, List.mem_cons]
    exact ⟨fun h => by tauto, fun h => by tauto⟩

/-- The set of a list has the members of the list. -/
theorem mem_members_ofList {values : List String} :
    w ∈ (ofList values).members ↔ w ∈ values := by
  simp [ofList, mem_members_foldl_insert]

theorem mem_members_toggle :
    w ∈ (s.toggle v).2.members ↔ if w = v then w ∉ s.members else w ∈ s.members := by
  by_cases h : w = v
  · subst h
    rw [if_pos rfl, ← contains_iff, ← contains_iff, contains_toggle_self]
    simp
  · rw [if_neg h, ← contains_iff, contains_toggle_of_ne s h, contains_iff]

/-- Equality of sets sees nothing but membership. One inclusion and the size are enough, since
no member has two entries. -/
theorem same_iff : s.same t = true ↔ ∀ v, v ∈ s.members ↔ v ∈ t.members := by
  simp only [same, Bool.and_eq_true, beq_iff_eq, List.all_eq_true, contains_iff]
  rw [← length_members, ← length_members]
  constructor
  · rintro ⟨hsize, hsub⟩ v
    have hperm : s.members.Perm t.members :=
      (s.nodup_members.subperm hsub).perm_of_length_le (Nat.le_of_eq hsize.symm)
    exact hperm.mem_iff
  · intro h
    have hperm := (List.perm_ext_iff_of_nodup s.nodup_members t.nodup_members).mpr h
    exact ⟨hperm.length_eq, fun v hv => (h v).mp hv⟩

theorem perm_of_same (h : s.same t = true) : s.members.Perm t.members :=
  (List.perm_ext_iff_of_nodup s.nodup_members t.nodup_members).mpr (same_iff.mp h)

theorem isEmpty_iff : s.isEmpty = true ↔ s.members = [] := by
  simp [isEmpty, members]

/-! ## Order of arrival -/

theorem pairwise_stamp_mergeSort (entries : List Entry) :
    (entries.mergeSort fun a b => a.stamp ≤ b.stamp).Pairwise fun a b => a.stamp ≤ b.stamp := by
  have h := @List.pairwise_mergeSort _ (fun a b : Entry => decide (a.stamp ≤ b.stamp))
    (fun a b c hab hbc => by simp only [decide_eq_true_eq] at *; omega)
    (fun a b => by simp only [Bool.or_eq_true, decide_eq_true_eq]; omega) entries
  simpa using h

/-- The entries in the order of their stamps are those of the set in order of arrival. No two
stamps are equal, so there is only one such order. -/
theorem inArrivalOrder_eq {l : List Entry} (hp : l.Perm s.entries)
    (hs : l.Pairwise fun a b => a.stamp ≤ b.stamp) : s.inArrivalOrder = l.map Entry.member := by
  have hperm := List.mergeSort_perm s.entries fun a b => decide (a.stamp ≤ b.stamp)
  have heq : (s.entries.mergeSort fun a b => decide (a.stamp ≤ b.stamp)) = l := by
    refine List.Perm.eq_of_pairwise ?_ (pairwise_stamp_mergeSort s.entries) hs
      (hperm.trans hp.symm)
    intro a b ha hb hab hba
    exact List.inj_on_of_nodup_map s.stampsDistinct (hperm.mem_iff.mp ha) (hp.mem_iff.mp hb)
      (Nat.le_antisymm hab hba)
  rw [inArrivalOrder, heq]

theorem inArrivalOrder_perm (s : MemberSet) : s.inArrivalOrder.Perm s.members :=
  (List.mergeSort_perm _ _).map _

theorem mem_inArrivalOrder : v ∈ s.inArrivalOrder ↔ v ∈ s.members :=
  s.inArrivalOrder_perm.mem_iff

theorem inArrivalOrder_empty : empty.inArrivalOrder = [] := by
  simp [inArrivalOrder, empty]

/-- A new member comes last: its stamp is above all that are in use. -/
theorem inArrivalOrder_add (h : s.contains v = false) :
    (s.add v h).inArrivalOrder = s.inArrivalOrder ++ [v] := by
  let sorted := s.entries.mergeSort fun a b => a.stamp ≤ b.stamp
  have hperm : sorted.Perm s.entries := List.mergeSort_perm _ _
  have hp : (sorted ++ [Entry.mk v s.nextStamp]).Perm (s.add v h).entries :=
    List.perm_append_comm.trans (hperm.cons _)
  have hs : (sorted ++ [Entry.mk v s.nextStamp]).Pairwise fun a b => a.stamp ≤ b.stamp := by
    refine List.pairwise_append.mpr ⟨pairwise_stamp_mergeSort _, List.pairwise_singleton _ _, ?_⟩
    intro e he n hn
    rw [List.mem_singleton.mp hn]
    exact Nat.le_of_lt (s.stampsBelow e (hperm.mem_iff.mp he))
  rw [inArrivalOrder_eq hp hs, List.map_append]
  rfl

theorem inArrivalOrder_insert :
    (s.insert v).2.inArrivalOrder =
      if v ∈ s.members then s.inArrivalOrder else s.inArrivalOrder ++ [v] := by
  by_cases h : s.contains v
  · simp [insert, h, contains_iff.mp h]
  · have hv : v ∉ s.members := fun hm => h (contains_iff.mpr hm)
    simp [insert, h, hv, inArrivalOrder_add]

/-- A member taken out leaves the others in their places. -/
theorem inArrivalOrder_erase (s : MemberSet) (v : String) :
    (s.erase v).inArrivalOrder = s.inArrivalOrder.filter (· != v) := by
  let sorted := s.entries.mergeSort fun a b => a.stamp ≤ b.stamp
  have hp : (sorted.filter (·.member != v)).Perm (s.erase v).entries :=
    (List.mergeSort_perm _ _).filter _
  have hs := (pairwise_stamp_mergeSort s.entries).filter (·.member != v)
  rw [inArrivalOrder_eq hp hs, inArrivalOrder, List.filter_map]
  rfl

theorem inArrivalOrder_toggle_of_notMem (h : v ∉ s.members) :
    (s.toggle v).2.inArrivalOrder = s.inArrivalOrder ++ [v] := by
  have hv : s.contains v = false := Bool.eq_false_iff.mpr fun hc => h (contains_iff.mp hc)
  simp [toggle, remove, insert, hv, inArrivalOrder_add]

/-- Whoever comes back comes last. -/
theorem inArrivalOrder_toggle (s : MemberSet) (v : String) :
    (s.toggle v).2.inArrivalOrder =
      s.inArrivalOrder.filter (· != v) ++ if v ∈ s.members then [] else [v] := by
  by_cases h : s.contains v
  · simp [toggle, remove, h, contains_iff.mp h, inArrivalOrder_erase]
  · have hv : v ∉ s.members := fun hm => h (contains_iff.mpr hm)
    have hself : s.inArrivalOrder.filter (· != v) = s.inArrivalOrder :=
      List.filter_eq_self.mpr fun w hw => by
        rw [bne_iff_ne]
        exact fun e => hv (mem_inArrivalOrder.mp (e ▸ hw))
    rw [inArrivalOrder_toggle_of_notMem hv, hself, if_neg hv]

theorem ofList_concat (values : List String) (v : String) :
    ofList (values ++ [v]) = ((ofList values).insert v).2 := by
  rw [ofList, List.foldl_append]
  rfl

/-- The values of a list arrive in the order in which they first appear. -/
theorem inArrivalOrder_ofList_eq (values : List String) :
    (ofList values).inArrivalOrder = values.eraseDups := by
  induction values using List.reverseRecOn with
  | nil => exact inArrivalOrder_empty
  | append_singleton values v ih =>
    rw [ofList_concat, inArrivalOrder_insert, ih, List.eraseDups_append]
    by_cases h : v ∈ values <;>
      simp [mem_members_ofList, List.removeAll, List.eraseDups_cons, h]

theorem eraseDups_of_nodup {values : List String} (h : values.Nodup) :
    values.eraseDups = values := by
  induction values with
  | nil => rfl
  | cons v values ih =>
    obtain ⟨hv, hn⟩ := List.nodup_cons.mp h
    have hself : values.filter (fun w => !w == v) = values :=
      List.filter_eq_self.mpr fun w hw => by
        rw [Bool.not_eq_true', beq_eq_false_iff_ne]
        exact fun e => hv (e ▸ hw)
    rw [List.eraseDups_cons, hself, ih hn]

/-- A list without repetitions is the order of arrival of its set. -/
theorem inArrivalOrder_ofList {values : List String} (h : values.Nodup) :
    (ofList values).inArrivalOrder = values := by
  rw [inArrivalOrder_ofList_eq, eraseDups_of_nodup h]

/-! ## The order in which entries are kept -/

/-- The same entries, kept in another order. -/
def Reordered (s t : MemberSet) : Prop := s.entries.Perm t.entries ∧ s.nextStamp = t.nextStamp

theorem Reordered.members_perm (h : s.Reordered t) : s.members.Perm t.members := h.1.map _

theorem Reordered.inArrivalOrder (h : s.Reordered t) : t.inArrivalOrder = s.inArrivalOrder :=
  inArrivalOrder_eq ((List.mergeSort_perm _ _).trans h.1) (pairwise_stamp_mergeSort _)

end FacetFilter.MemberSet
