import FacetFilter.Proofs.Selection.MemberSet
import Mathlib.Algebra.Group.Nat.Defs

/-! Runs of changes to a member set. In whatever order the entries come to be kept on the way, the
set shows a list without repetitions: who comes in stands last, who goes leaves the others in their
places. The stamps carry this. Each arrival takes one above all that are in use, and none is given
again after its member has gone. -/

namespace FacetFilter

/-- What is done to a set of values. -/
inductive Change where
  | insert (v : String)
  | remove (v : String)
  | toggle (v : String)

namespace Change

/-- Whether `true` as the answer means that a member came in. -/
def brings : Change → Bool
  | .insert _ | .toggle _ => true
  | .remove _ => false

/-- A change to a list without repetitions, with its answer. -/
def onList (l : List String) : Change → Bool × List String
  | .insert v => if v ∈ l then (false, l) else (true, l ++ [v])
  | .remove v => if v ∈ l then (true, l.erase v) else (false, l)
  | .toggle v => if v ∈ l then (false, l.erase v) else (true, l ++ [v])

/-- Changes to a list one after another, with their answers. -/
def allOnList (l : List String) : List Change → List Bool × List String
  | [] => ([], l)
  | c :: changes =>
    let (answer, next) := c.onList l
    let (answers, last) := allOnList next changes
    (answer :: answers, last)

/-- How many members came in. -/
def arrivals (changes : List Change) (answers : List Bool) : Nat :=
  (changes.zip answers).countP fun (c, answer) => c.brings && answer

theorem arrivals_cons (c : Change) (changes : List Change) (answer : Bool) (answers : List Bool) :
    arrivals (c :: changes) (answer :: answers) =
      (if c.brings && answer then 1 else 0) + arrivals changes answers := by
  rw [arrivals, List.zip_cons_cons, List.countP_cons, Nat.add_comm]
  rfl

end Change

namespace MemberSet

open Change (onList allOnList arrivals)

/-- A change to a set, with its answer. -/
def perform (s : MemberSet) : Change → Bool × MemberSet
  | .insert v => s.insert v
  | .remove v => s.remove v
  | .toggle v => s.toggle v

/-- Changes to a set one after another, with their answers. Before each of them and at the end the
entries may be kept in another order than before. -/
inductive Run : MemberSet → List Change → List Bool → MemberSet → Prop where
  | done {s t : MemberSet} : s.Reordered t → Run s [] [] t
  | change {s t u : MemberSet} {c : Change} {changes : List Change} {answers : List Bool} :
      s.Reordered t → Run (t.perform c).2 changes answers u →
        Run s (c :: changes) ((t.perform c).1 :: answers) u

/-- The set with its entries kept in the order of a list. -/
def keptAs (s : MemberSet) (entries : List Entry) (h : s.entries.Perm entries) : MemberSet where
  entries := entries
  nextStamp := s.nextStamp
  distinct := (h.map _).nodup_iff.mp s.distinct
  stampsDistinct := (h.map _).nodup_iff.mp s.stampsDistinct
  stampsBelow := fun e he => s.stampsBelow e (h.mem_iff.mpr he)

theorem reordered_keptAs (s : MemberSet) (entries : List Entry) (h : s.entries.Perm entries) :
    s.Reordered (s.keptAs entries h) :=
  ⟨h, rfl⟩

variable {s t : MemberSet} {changes : List Change} {answers : List Bool}

theorem nodup_inArrivalOrder (s : MemberSet) : s.inArrivalOrder.Nodup :=
  s.inArrivalOrder_perm.nodup_iff.mpr s.nodup_members

theorem contains_iff_mem_inArrivalOrder {v : String} :
    s.contains v = true ↔ v ∈ s.inArrivalOrder := by
  rw [contains_iff, mem_inArrivalOrder]

/-! ## One change -/

/-- A change does to a set what it does to the list that the set shows. -/
theorem perform_onList (s : MemberSet) (c : Change) :
    ((s.perform c).1, (s.perform c).2.inArrivalOrder) = c.onList s.inArrivalOrder := by
  have herase : ∀ v, (s.erase v).inArrivalOrder = s.inArrivalOrder.erase v := by
    intro v
    rw [inArrivalOrder_erase, s.nodup_inArrivalOrder.erase_eq_filter]
  cases c with
  | insert v =>
    by_cases h : s.contains v
    · simp [perform, insert, onList, h, contains_iff_mem_inArrivalOrder.mp h]
    · have hv : v ∉ s.inArrivalOrder := fun hm => h (contains_iff_mem_inArrivalOrder.mpr hm)
      simp [perform, insert, onList, h, hv, inArrivalOrder_add]
  | remove v =>
    by_cases h : s.contains v
    · simp [perform, remove, onList, h, contains_iff_mem_inArrivalOrder.mp h, herase]
    · have hv : v ∉ s.inArrivalOrder := fun hm => h (contains_iff_mem_inArrivalOrder.mpr hm)
      simp [perform, remove, onList, h, hv]
  | toggle v =>
    by_cases h : s.contains v
    · simp [perform, toggle, remove, onList, h, contains_iff_mem_inArrivalOrder.mp h, herase]
    · have hv : v ∉ s.inArrivalOrder := fun hm => h (contains_iff_mem_inArrivalOrder.mpr hm)
      simp [perform, toggle, remove, insert, onList, h, hv, inArrivalOrder_add]

/-- Only arrivals take stamps. -/
theorem nextStamp_perform (s : MemberSet) (c : Change) :
    (s.perform c).2.nextStamp =
      s.nextStamp + if c.brings && (s.perform c).1 then 1 else 0 := by
  cases c with
  | insert v => by_cases h : s.contains v <;> simp [perform, insert, add, Change.brings, h]
  | remove v => by_cases h : s.contains v <;> simp [perform, remove, erase, Change.brings, h]
  | toggle v =>
    by_cases h : s.contains v <;>
      simp [perform, toggle, remove, insert, add, erase, Change.brings, h]

/-- A set made of a list has given a stamp to each value that the list holds. -/
theorem nextStamp_ofList (values : List String) :
    (ofList values).nextStamp = values.eraseDups.length := by
  induction values using List.reverseRecOn with
  | nil => rfl
  | append_singleton values v ih =>
    have hstep := nextStamp_perform (ofList values) (.insert v)
    have hlist := perform_onList (ofList values) (.insert v)
    rw [ofList_concat]
    rw [perform] at hstep hlist
    have horder := congrArg Prod.snd hlist
    have hanswer := congrArg Prod.fst hlist
    dsimp only at horder hanswer
    rw [← inArrivalOrder_ofList_eq, ofList_concat, horder, hstep, ih, hanswer,
      ← inArrivalOrder_ofList_eq]
    by_cases h : v ∈ (ofList values).inArrivalOrder <;> simp [onList, Change.brings, h]

/-! ## Runs -/

/-- A run of changes to a set is one to the list that the set shows, and takes a stamp for each
arrival. -/
theorem Run.onList (h : Run s changes answers t) :
    (answers, t.inArrivalOrder) = allOnList s.inArrivalOrder changes ∧
      t.nextStamp = s.nextStamp + arrivals changes answers := by
  induction h with
  | done hkept => exact ⟨by rw [hkept.inArrivalOrder, allOnList], hkept.2.symm⟩
  | @change s t u c changes answers hkept _ ih =>
    obtain ⟨hlist, hstamp⟩ := ih
    have hstep := perform_onList t c
    constructor
    · rw [allOnList, ← hkept.inArrivalOrder, ← hstep]
      dsimp only
      rw [← hlist]
    · rw [hstamp, nextStamp_perform, Change.arrivals_cons, hkept.2, Nat.add_assoc]

/-- After any run of changes to the set of some values, a set shows the list that the same changes
make of the first occurrences of these values: its members without repetitions, in the order of
their last arrival, and every answer on the way. The next stamp is above all that are in use, and
within 64 bits as long as the arrivals are. -/
theorem run_refines_list {values : List String} (h : Run (ofList values) changes answers t)
    (hfew : values.eraseDups.length + arrivals changes answers < 2 ^ 64) :
    let shown := allOnList values.eraseDups changes
    t.inArrivalOrder = shown.2 ∧ shown.2.Nodup ∧ answers = shown.1 ∧
      (∀ v, t.contains v = true ↔ v ∈ shown.2) ∧ t.size = shown.2.length ∧
      (t.isEmpty = true ↔ shown.2 = []) ∧
      (∀ e ∈ t.entries, e.stamp < t.nextStamp) ∧ t.nextStamp < 2 ^ 64 := by
  obtain ⟨hlist, hstamp⟩ := h.onList
  rw [inArrivalOrder_ofList_eq] at hlist
  rw [nextStamp_ofList] at hstamp
  rw [← hlist]
  have hsize : t.inArrivalOrder.length = t.size :=
    t.inArrivalOrder_perm.length_eq.trans t.length_members
  refine ⟨rfl, t.nodup_inArrivalOrder, rfl, fun v => contains_iff_mem_inArrivalOrder, hsize.symm,
    ?_, t.stampsBelow, hstamp ▸ hfew⟩
  rw [isEmpty_iff, ← List.length_eq_zero_iff, ← List.length_eq_zero_iff,
    t.inArrivalOrder_perm.length_eq]

/-- A member that went and came back stands last, though the entries are turned round each time. -/
theorem run_refines_list_returned :
    ∃ answers t, Run (ofList ["A", "B", "A"])
        [.toggle "A", .insert "C", .toggle "A", .remove "B", .insert "C"] answers t ∧
      answers = [false, true, true, true, false] ∧ t.inArrivalOrder = ["C", "A"] ∧ t.size = 2 ∧
      t.nextStamp < 2 ^ 64 := by
  have turn : ∀ s : MemberSet, s.Reordered (s.keptAs _ s.entries.reverse_perm.symm) :=
    fun s => s.reordered_keptAs _ _
  have hrun := Run.change (s := ofList ["A", "B", "A"]) (c := .toggle "A") (turn _) <|
    .change (c := .insert "C") (turn _) <| .change (c := .toggle "A") (turn _) <|
    .change (c := .remove "B") (turn _) <| .change (c := .insert "C") (turn _) <|
    .done (turn _)
  obtain ⟨horder, -, hanswers, -, hsize, -, -, hstamp⟩ := run_refines_list hrun (by decide +kernel)
  exact ⟨_, _, hrun, hanswers.trans (by decide), horder.trans (by decide),
    hsize.trans (by decide), hstamp⟩

end MemberSet

end FacetFilter
