import FacetFilter.Proofs.Session.Toggles
import Mathlib.Data.List.DropRight

/-! Runs of operations on a session. A session is accounted for by the filters that it was last
started on and the toggles since then: of all that the host of a page can do, nothing else
touches a selection. So what holds of toggles holds of runs in which commits, and their ends, stand
between them. -/

namespace FacetFilter

/-- What the host of a page can do with its session. -/
inductive Operation where
  | toggle (c : Category) (value : String)
  | toggleAsn (n : AsNumber)
  /-- Looks at the request and goes nowhere. -/
  | commit
  /-- Commits on the navigation, if a commit is possible. -/
  | handOut
  | finish
  | restart (raw : RawFilters)

namespace Operation

/-- The toggle that an operation makes. -/
def toggle? : Operation → Option Toggle
  | .toggle c value => some ⟨c, value⟩
  | .toggleAsn n => some ⟨.asn, n.text⟩
  | .commit | .handOut | .finish | .restart _ => none

/-- The filters that an operation starts the session on. -/
def filters? : Operation → Option RawFilters
  | .restart raw => some raw
  | .toggle _ _ | .toggleAsn _ | .commit | .handOut | .finish => none

/-- Whether a commit in flight comes to its end with the operation. -/
def resolves : Operation → Bool
  | .finish | .restart _ => true
  | .toggle _ _ | .toggleAsn _ | .commit | .handOut => false

/-- The filters of the last start, where the first one was on `raw`. -/
def lastFilters (raw : RawFilters) (ops : List Operation) : RawFilters :=
  (ops.filterMap filters?).getLastD raw

/-- The toggles since the last start. -/
def lastToggles (ops : List Operation) : List Toggle :=
  (ops.rtakeWhile fun op => op.filters?.isNone).filterMap toggle?

theorem lastFilters_concat (raw : RawFilters) (ops : List Operation) (op : Operation) :
    lastFilters raw (ops ++ [op]) = op.filters?.getD (lastFilters raw ops) := by
  rw [lastFilters, List.filterMap_append]
  cases h : op.filters? with
  | none => simp [h, lastFilters]
  | some raw' => simp [h]

theorem lastToggles_concat (ops : List Operation) (op : Operation) :
    lastToggles (ops ++ [op]) =
      if op.filters?.isSome then [] else lastToggles ops ++ op.toggle?.toList := by
  cases h : op.filters? with
  | none =>
    rw [lastToggles, List.rtakeWhile_concat_pos _ _ _ (by simp [h]), List.filterMap_append]
    cases ht : op.toggle? <;> simp [ht, lastToggles]
  | some raw => rw [lastToggles, List.rtakeWhile_concat_neg _ _ _ (by simp [h])]; rfl

end Operation

namespace Session

open Operation (toggle? filters? resolves lastFilters lastToggles)

/-- What an operation tells its caller. -/
inductive Answer where
  | chosen (isChosen : Bool)
  | request (r : Request)
  | handedOut (isHandedOut : Bool)
  | nothing
deriving DecidableEq

/-- One operation of a run: the session that it finds, what it tells, what the navigation receives
meanwhile, and the session that it leaves. -/
structure Moment where
  before : Session
  operation : Operation
  answer : Answer
  received : List Request
  after : Session

/-- Whether a commit was handed out. -/
def Moment.isHandedOut (m : Moment) : Bool := m.answer = .handedOut true

def perform (s : Session) (op : Operation) : Moment :=
  match op with
  | .toggle c value => ⟨s, op, .chosen (s.toggle c value).1, [], (s.toggle c value).2⟩
  | .toggleAsn n => ⟨s, op, .chosen (s.toggleAsn n).1, [], (s.toggleAsn n).2⟩
  | .commit => ⟨s, op, .request s.commit, [], s⟩
  | .handOut => ⟨s, op, .handedOut s.handOut.1.isSome, s.handOut.1.toList, s.handOut.2⟩
  | .finish => ⟨s, op, .nothing, [], s.finish⟩
  | .restart raw => ⟨s, op, .nothing, [], s.restart raw⟩

/-- The session after operations, one after another. -/
def after (s : Session) (ops : List Operation) : Session :=
  ops.foldl (fun s op => (s.perform op).after) s

/-- The moments of a run. -/
def history (s : Session) : List Operation → List Moment
  | [] => []
  | op :: ops => s.perform op :: history (s.perform op).after ops

open Moment (isHandedOut)

variable {s : Session}

theorem after_concat (s : Session) (ops : List Operation) (op : Operation) :
    s.after (ops ++ [op]) = ((s.after ops).perform op).after := by
  rw [after, List.foldl_append]
  rfl

theorem history_concat (s : Session) (ops : List Operation) (op : Operation) :
    s.history (ops ++ [op]) = s.history ops ++ [(s.after ops).perform op] := by
  induction ops generalizing s with
  | nil => rfl
  | cons first ops ih => rw [List.cons_append, history, ih]; rfl

/-- Every moment of a run is an operation on the session after the operations before it. -/
theorem eq_perform_of_mem_history {ops : List Operation} {m : Moment} (h : m ∈ s.history ops) :
    ∃ before op later, ops = before ++ op :: later ∧ m = (s.after before).perform op := by
  induction ops generalizing s with
  | nil => cases h
  | cons first ops ih =>
    rcases List.mem_cons.mp h with rfl | h
    · exact ⟨[], first, ops, rfl, rfl⟩
    · obtain ⟨before, op, later, rfl, rfl⟩ := ih h
      exact ⟨first :: before, op, later, rfl, rfl⟩

/-! ## One operation -/

theorem before_perform (s : Session) (op : Operation) : (s.perform op).before = s := by
  cases op <;> rfl

theorem operation_perform (s : Session) (op : Operation) : (s.perform op).operation = op := by
  cases op <;> rfl

/-- What an operation leaves of a session. Starting on other filters replaces both selections; but
for that the working selection takes the toggle of the operation, if there is one. -/
theorem after_perform (s : Session) (op : Operation) :
    (s.perform op).after =
      { baseline := (op.filters?.map Selection.ofRaw).getD s.baseline
        working := (op.filters?.map Selection.ofRaw).getD (s.working.toggleAll op.toggle?.toList)
        order := s.order
        inFlight := !op.resolves && ((s.perform op).isHandedOut || s.inFlight) } := by
  cases op with
  | toggle c value =>
    simp [perform, snd_toggle, filters?, toggle?, resolves, isHandedOut, Selection.toggleAll]
  | toggleAsn n =>
    simp [perform, toggleAsn, snd_toggle, filters?, toggle?, resolves, isHandedOut,
      Selection.toggleAll]
  | commit => simp [perform, filters?, toggle?, resolves, isHandedOut, Selection.toggleAll]
  | handOut =>
    cases h : s.canCommit <;>
      simp [perform, handOut_eq, h, filters?, toggle?, resolves, isHandedOut, Selection.toggleAll]
  | finish => simp [perform, finish, filters?, toggle?, resolves, Selection.toggleAll]
  | restart raw => simp [perform, restart, start, filters?, resolves]

/-! ## Runs -/

theorem order_after (s : Session) (ops : List Operation) : (s.after ops).order = s.order := by
  induction ops using List.reverseRecOn with
  | nil => rfl
  | append_singleton ops op ih => rw [after_concat, after_perform, ih]

/-- Whatever was done, the baseline is that of the filters of the last start. -/
theorem baseline_after (raw : RawFilters) (o : MemberOrder) (ops : List Operation) :
    ((start raw o).after ops).baseline = .ofRaw (lastFilters raw ops) := by
  induction ops using List.reverseRecOn with
  | nil => rfl
  | append_singleton ops op ih =>
    rw [after_concat, after_perform, ih, Operation.lastFilters_concat]
    cases op.filters? <;> rfl

/-- The working selection is that of the last start after the toggles since then. -/
theorem working_after (raw : RawFilters) (o : MemberOrder) (ops : List Operation) :
    ((start raw o).after ops).working =
      (Selection.ofRaw (lastFilters raw ops)).toggleAll (lastToggles ops) := by
  induction ops using List.reverseRecOn with
  | nil => rfl
  | append_singleton ops op ih =>
    rw [after_concat, after_perform, ih, Operation.lastFilters_concat,
      Operation.lastToggles_concat]
    cases op.filters? with
    | none => exact (Selection.toggleAll_append _ _ _).symm
    | some raw' => rfl

end Session

end FacetFilter
