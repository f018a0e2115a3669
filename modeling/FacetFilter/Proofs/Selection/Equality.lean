import FacetFilter.Proofs.Selection.Changes
import FacetFilter.Proofs.Selection.NormalForm
import FacetFilter.Session

/-! Equality of sets is agreement about membership. Comparing looks at sizes and at one inclusion,
which is enough because no member has two entries. What a change answers, and who is a member after
it, depends on who was one before and on nothing else, so equal sets stay equal under the same
changes. Selections are compared category by category, and a session by its two selections. -/

namespace FacetFilter

namespace Change

variable {l l' : List String}

/-- Lists of the same members, in whatever order, answer a change alike and keep the same members. -/
theorem onList_perm (h : l.Perm l') (c : Change) :
    (c.onList l).1 = (c.onList l').1 ∧ (c.onList l).2.Perm (c.onList l').2 := by
  have hmem : ∀ v, v ∈ l ↔ v ∈ l' := fun _ => h.mem_iff
  cases c with
  | insert v =>
    simp only [onList, hmem]
    split
    · exact ⟨rfl, h⟩
    · exact ⟨rfl, h.append_right [v]⟩
  | remove v =>
    simp only [onList, hmem]
    split
    · exact ⟨rfl, h.erase v⟩
    · exact ⟨rfl, h⟩
  | toggle v =>
    simp only [onList, hmem]
    split
    · exact ⟨rfl, h.erase v⟩
    · exact ⟨rfl, h.append_right [v]⟩

theorem allOnList_perm (h : l.Perm l') (changes : List Change) :
    (allOnList l changes).1 = (allOnList l' changes).1 ∧
      (allOnList l changes).2.Perm (allOnList l' changes).2 := by
  induction changes generalizing l l' with
  | nil => exact ⟨rfl, h⟩
  | cons c changes ih =>
    obtain ⟨hanswer, hnext⟩ := onList_perm h c
    obtain ⟨hanswers, hlast⟩ := ih hnext
    rw [allOnList, allOnList]
    exact ⟨congrArg₂ List.cons hanswer hanswers, hlast⟩

end Change

namespace MemberSet

variable {s t : MemberSet} {changes : List Change} {answers answers' : List Bool}

theorem contains_eq_iff {v : String} :
    s.contains v = t.contains v ↔ (v ∈ s.members ↔ v ∈ t.members) := by
  rw [Bool.eq_iff_iff, contains_iff, contains_iff]

theorem same_iff_contains_eq : s.same t = true ↔ ∀ v, s.contains v = t.contains v := by
  simp only [same_iff, contains_eq_iff]

theorem size_eq_of_same (h : s.same t = true) : s.size = t.size := by
  rw [← length_members, ← length_members, (perm_of_same h).length_eq]

theorem same_refl (s : MemberSet) : s.same s = true := same_iff.mpr fun _ => Iff.rfl

theorem same_symm (h : s.same t = true) : t.same s = true :=
  same_iff.mpr fun v => (same_iff.mp h v).symm

theorem same_trans {u : MemberSet} (h : s.same t = true) (h' : t.same u = true) :
    s.same u = true :=
  same_iff.mpr fun v => (same_iff.mp h v).trans (same_iff.mp h' v)

/-- The order of arrival does not count, only who arrived. -/
theorem same_iff_perm : s.same t = true ↔ s.inArrivalOrder.Perm t.inArrivalOrder := by
  constructor
  · intro h
    exact s.inArrivalOrder_perm.trans ((perm_of_same h).trans t.inArrivalOrder_perm.symm)
  · intro h
    refine same_iff.mpr fun v => ?_
    rw [← mem_inArrivalOrder, ← mem_inArrivalOrder, h.mem_iff]

/-- Equal sets answer a change alike and stay equal. -/
theorem perform_congr (h : s.same t = true) (c : Change) :
    (s.perform c).1 = (t.perform c).1 ∧ (s.perform c).2.same (t.perform c).2 = true := by
  have hlists := Change.onList_perm (same_iff_perm.mp h) c
  rw [← perform_onList, ← perform_onList] at hlists
  exact ⟨hlists.1, same_iff_perm.mpr hlists.2⟩

/-- Equal sets answer a whole run of changes alike and are equal after it, in whatever order their
entries are kept on the way. -/
theorem Run.congr {s' t' : MemberSet} (h : s.same t = true) (hs : Run s changes answers s')
    (ht : Run t changes answers' t') : answers = answers' ∧ s'.same t' = true := by
  have hlists := Change.allOnList_perm (same_iff_perm.mp h) changes
  rw [← hs.onList.1, ← ht.onList.1] at hlists
  exact ⟨hlists.1, same_iff_perm.mpr hlists.2⟩

end MemberSet

namespace Selection

variable {s t : Selection}

theorem same_iff_contains_eq :
    s.same t = true ↔ ∀ c v, (s.get c).contains v = (t.get c).contains v := by
  simp only [same_iff, MemberSet.contains_eq_iff]

/-- Equal selections contain the same values, in whatever form a value is given. -/
theorem contains_eq_of_same (h : s.same t = true) (c : Category) (v : String) :
    s.contains c v = t.contains c v := by
  rw [contains, contains, funext (same_iff_contains_eq.mp h c)]

end Selection

/-- A session has changes when some value is in one of its selections and not in the other. -/
theorem Session.isDirty_iff_contains_ne {s : Session} :
    s.isDirty = true ↔ ∃ c v, (s.working.get c).contains v ≠ (s.baseline.get c).contains v := by
  rw [isDirty, Bool.not_eq_true', ← Bool.not_eq_true, Selection.same_iff_contains_eq]
  simp only [not_forall, ne_eq]

namespace MemberSet

open Change (allOnList)

/-- Two sets are equal exactly when they contain the same values. For sets that runs of changes lead
to, that is when the lists that the same changes make hold the same values. So equality is an
equivalence, it does not depend on the order of arrival or on the stamps, equal sets answer changes
alike and stay equal under them, one by one and in whole runs, and they have one size. Selections
are equal when this holds in every category, and a session has changes when it does not hold of its
two selections. -/
theorem equality_is_membership :
    (∀ s t : MemberSet, s.same t = true ↔ ∀ v, s.contains v = t.contains v) ∧
    (∀ (values values' : List String) (changes changes' : List Change)
      (answers answers' : List Bool) (s t : MemberSet), Run (ofList values) changes answers s →
      Run (ofList values') changes' answers' t →
      (s.same t = true ↔ ∀ v, v ∈ (allOnList values.eraseDups changes).2 ↔
        v ∈ (allOnList values'.eraseDups changes').2)) ∧
    Equivalence (fun s t : MemberSet => s.same t = true) ∧
    (∀ s t : MemberSet, s.same t = true ↔ s.inArrivalOrder.Perm t.inArrivalOrder) ∧
    (∀ (s t : MemberSet) (c : Change), s.same t = true →
      (s.perform c).1 = (t.perform c).1 ∧ (s.perform c).2.same (t.perform c).2 = true) ∧
    (∀ (s t s' t' : MemberSet) (changes : List Change) (answers answers' : List Bool),
      s.same t = true → Run s changes answers s' → Run t changes answers' t' →
      answers = answers' ∧ s'.same t' = true) ∧
    (∀ s t : MemberSet, s.same t = true → s.size = t.size) ∧
    (∀ s t : Selection, s.same t = true ↔ ∀ c v, (s.get c).contains v = (t.get c).contains v) ∧
    (∀ s : Session, s.isDirty = true ↔
      ∃ c v, (s.working.get c).contains v ≠ (s.baseline.get c).contains v) := by
  refine ⟨fun _ _ => same_iff_contains_eq, ?_, ⟨same_refl, same_symm, same_trans⟩,
    fun _ _ => same_iff_perm, fun _ _ c h => perform_congr h c,
    fun _ _ _ _ _ _ _ h hs ht => hs.congr h ht, fun _ _ => size_eq_of_same,
    fun _ _ => Selection.same_iff_contains_eq, fun _ => Session.isDirty_iff_contains_ne⟩
  intro values values' changes changes' answers answers' s t hs ht
  obtain ⟨hlist, -⟩ := hs.onList
  obtain ⟨hlist', -⟩ := ht.onList
  rw [inArrivalOrder_ofList_eq] at hlist hlist'
  rw [← hlist, ← hlist', same_iff]
  simp only [mem_inArrivalOrder]

/-- Sets of values listed in two orders, and what they become when a member leaves and comes back. -/
theorem equality_is_membership_permuted :
    let s := ofList ["A", "B"]
    let t := ofList ["B", "A", "B"]
    let changes := [.remove "A", .insert "B", .toggle "A"]
    s.same t = true ∧ s.size = t.size ∧ s.inArrivalOrder.Perm t.inArrivalOrder ∧
      (s.perform (.toggle "A")).2.same (t.perform (.toggle "A")).2 = true ∧
      ∃ answers s' t', Run s changes answers s' ∧ Run t changes answers t' ∧ s'.same t' = true ∧
        s'.same s = true := by
  intro s t changes
  obtain ⟨-, hlists, -, hperm, hstep, hrun, hsize, -, -⟩ := equality_is_membership
  have hkept : ∀ s : MemberSet, s.Reordered s := fun s => ⟨.refl _, rfl⟩
  have hs := Run.change (s := s) (c := .remove "A") (hkept _) <|
    .change (c := .insert "B") (hkept _) <| .change (c := .toggle "A") (hkept _) <| .done (hkept _)
  have ht := Run.change (s := t) (c := .remove "A") (hkept _) <|
    .change (c := .insert "B") (hkept _) <| .change (c := .toggle "A") (hkept _) <| .done (hkept _)
  have h : s.same t = true := by decide
  obtain ⟨hanswers, hlast⟩ := hrun s t _ _ changes _ _ h hs ht
  have hshown : (allOnList ["A", "B"].eraseDups changes).2 = ["B", "A"] := by decide
  have hfirst : (allOnList ["A", "B"].eraseDups []).2 = ["A", "B"] := by decide
  refine ⟨h, hsize s t h, (hperm s t).mp h, (hstep s t (.toggle "A") h).2, _, _, _, hs,
    hanswers ▸ ht, hlast, ?_⟩
  refine (hlists ["A", "B"] ["A", "B"] changes [] _ _ _ s hs (.done (hkept s))).mpr fun v => ?_
  rw [hshown, hfirst, List.mem_pair, List.mem_pair, or_comm]

end MemberSet

end FacetFilter
