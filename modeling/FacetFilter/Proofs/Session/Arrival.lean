import FacetFilter.Proofs.Session.Toggles
import Mathlib.Data.List.Dedup

/-! The order of arrival after toggles. A member that was never toggled keeps its place; one that
was, and is a member in the end, came in with its last toggle. So a run of toggles leaves the members
it did not touch as they stood, and then those it brought in, in the order of their last toggles. -/

namespace FacetFilter

namespace MemberSet

/-- The set after toggles, one after another. -/
def toggleAll (s : MemberSet) (values : List String) : MemberSet :=
  values.foldl (fun s v => (s.toggle v).2) s

theorem toggleAll_cons (s : MemberSet) (v : String) (values : List String) :
    s.toggleAll (v :: values) = (s.toggle v).2.toggleAll values := by
  rw [toggleAll, toggleAll, List.foldl_cons]

theorem mem_toggleAll_of_notMem {s : MemberSet} {v : String} {values : List String}
    (h : v ∉ values) : v ∈ (s.toggleAll values).members ↔ v ∈ s.members := by
  induction values generalizing s with
  | nil => rfl
  | cons w values ih =>
    rw [List.mem_cons, not_or] at h
    rw [toggleAll_cons, ih h.2, mem_members_toggle, if_neg h.1]

/-- Toggled members leave their places and come back, if they do, in the order of their last
toggles. -/
theorem inArrivalOrder_toggleAll (s : MemberSet) (values : List String) :
    (s.toggleAll values).inArrivalOrder = s.inArrivalOrder.filter (· ∉ values) ++
      values.dedup.filter (· ∈ (s.toggleAll values).members) := by
  induction values generalizing s with
  | nil => simp [toggleAll]
  | cons v values ih =>
    rw [toggleAll_cons, ih, inArrivalOrder_toggle, List.filter_append, List.filter_filter,
      List.append_assoc]
    refine congrArg₂ _ ?_ ?_
  -- Members of before stay when neither `v` nor the values after it are toggled.
    · refine List.filter_congr fun w _ => ?_
      rw [Bool.eq_iff_iff]
      simp [and_comm]
    · by_cases h : v ∈ values
      · rw [List.dedup_cons_of_mem h]
        split <;> simp [h]
      · have hmem := mem_toggleAll_of_notMem (s := (s.toggle v).2) h
        rw [mem_members_toggle, if_pos rfl] at hmem
        rw [List.dedup_cons_of_notMem h, List.filter_cons]
        by_cases hv : v ∈ s.members <;> simp [h, hv, hmem]

/-- New values, each toggled once, arrive in the order of their toggles. -/
theorem inArrivalOrder_toggleAll_of_notMem {s : MemberSet} {values : List String}
    (h : values.Nodup) (hnew : ∀ v ∈ values, v ∉ s.members) :
    (s.toggleAll values).inArrivalOrder = s.inArrivalOrder ++ values := by
  induction values generalizing s with
  | nil => exact (List.append_nil _).symm
  | cons v values ih =>
    obtain ⟨hv, hrest⟩ := List.nodup_cons.mp h
    rw [List.forall_mem_cons] at hnew
    have hothers : ∀ w ∈ values, w ∉ (s.toggle v).2.members := by
      intro w hw
      have hne : w ≠ v := fun he => hv (he ▸ hw)
      rw [mem_members_toggle, if_neg hne]
      exact hnew.2 w hw
    rw [toggleAll_cons, ih hrest hothers, inArrivalOrder_toggle_of_notMem hnew.1,
      List.append_assoc, List.singleton_append]

end MemberSet

/-- The normal forms that toggles flip in a category, one after another. -/
def flipped (ts : List Toggle) (c : Category) : List String :=
  ts.filterMap fun t => if t.category = c then normalForm? c t.value else none

/-- The normal forms of the filters that are listed for a category. -/
def RawFilters.normalForms (raw : RawFilters) (c : Category) : List String :=
  (raw.get c).filterMap (normalForm? c)

namespace Selection

/-- In each category toggles flip their normal forms. -/
theorem get_toggleAll (s : Selection) (ts : List Toggle) (c : Category) :
    (s.toggleAll ts).get c = (s.get c).toggleAll (flipped ts c) := by
  induction ts generalizing s with
  | nil => rfl
  | cons t ts ih =>
    rw [toggleAll_cons, ih, flipped, flipped, List.filterMap_cons]
    by_cases h : t.category = c
    · subst h
      rw [if_pos rfl]
      cases hv : normalForm? t.category t.value with
      | none => simp [toggle, hv]
      | some m => simp [toggle, hv, MemberSet.toggleAll_cons]
    · rw [if_neg h, get_toggle_of_ne s t.value (Ne.symm h)]

/-- The values of filters arrive as they first appear. -/
theorem inArrivalOrder_ofRaw (raw : RawFilters) (c : Category) :
    ((ofRaw raw).get c).inArrivalOrder = (raw.normalForms c).eraseDups := by
  rw [ofRaw, PerCategory.get_ofFun, MemberSet.inArrivalOrder_ofList_eq]
  rfl

/-- After toggles, the values of the filters that were never toggled come first, as they first
appear, and then the toggled ones that are members, in the order of their last toggles. -/
theorem inArrivalOrder_toggleAll_ofRaw (raw : RawFilters) (ts : List Toggle) (c : Category) :
    (((ofRaw raw).toggleAll ts).get c).inArrivalOrder =
      (raw.normalForms c).eraseDups.filter (· ∉ flipped ts c) ++
        (flipped ts c).dedup.filter (· ∈ (((ofRaw raw).toggleAll ts).get c).members) := by
  rw [get_toggleAll, MemberSet.inArrivalOrder_toggleAll, inArrivalOrder_ofRaw]

end Selection

end FacetFilter
