import FacetFilter.Panel.View
import FacetFilter.Proofs.Query.Request
import FacetFilter.Proofs.Session.Operations

/-! Commits in runs of operations. A commit is handed out when the sets differ and no other one is
outstanding; it brings the navigation one request, that of the working selection at the moment, and
touches no selection. The panel's button tells beforehand what a commit would do. -/

namespace FacetFilter.Session

open Operation (lastFilters)

/-- Some commit was handed out since the last operation that brought one to its end. -/
def Outstanding (past : List Moment) : Prop :=
  ∃ moment ∈ past.rtakeWhile fun moment => !moment.operation.resolves, moment.isHandedOut = true

theorem outstanding_concat {past : List Moment} {last : Moment} :
    Outstanding (past ++ [last]) ↔
      last.operation.resolves = false ∧ (last.isHandedOut = true ∨ Outstanding past) := by
  cases h : last.operation.resolves with
  | true => simp [Outstanding, List.rtakeWhile_concat_neg, h]
  | false =>
    rw [Outstanding, List.rtakeWhile_concat_pos _ _ _ (by simp [h])]
    simp [Outstanding, List.mem_append, or_and_right, exists_or, or_comm]

variable {s : Session}

/-- A commit is in flight exactly when one is outstanding. -/
theorem inFlight_after_iff (h : s.inFlight = false) (ops : List Operation) :
    (s.after ops).inFlight = true ↔ Outstanding (s.history ops) := by
  induction ops using List.reverseRecOn with
  | nil => simp [after, history, Outstanding, h]
  | append_singleton ops op ih =>
    rw [after_concat, history_concat, after_perform, outstanding_concat, operation_perform, ← ih,
      Bool.and_eq_true, Bool.or_eq_true, Bool.not_eq_true']

/-- The sets of two selections differ. -/
theorem isDirty_eq_true_iff : s.isDirty = true ↔
    ¬∀ c m, m ∈ (s.working.get c).members ↔ m ∈ (s.baseline.get c).members := by
  rw [← Bool.not_eq_false, isDirty_eq_false_iff]

/-- The navigation receives the request of the working selection when a commit is handed out, and
nothing otherwise. -/
theorem received_perform (s : Session) (op : Operation) :
    (s.perform op).received =
      if (s.perform op).isHandedOut then [.ofSelection s.working s.order] else [] := by
  cases op with
  | handOut => cases h : s.canCommit <;> simp [perform, handOut_eq, h, Moment.isHandedOut]
  | toggle | toggleAsn | commit | finish | restart => simp [perform, Moment.isHandedOut]

theorem answer_perform_handOut (s : Session) :
    (s.perform .handOut).answer = .handedOut true ↔ s.canCommit = true := by
  cases h : s.canCommit <;> simp [perform, handOut_eq, h]

theorem canCommit_iff : s.canCommit = true ↔ s.isDirty = true ∧ s.inFlight = false := by
  rw [canCommit, Bool.and_eq_true, Bool.not_eq_true']

/-- Over a run the navigation receives one request for each commit handed out, in their order. -/
theorem received_history (s : Session) (ops : List Operation) :
    (s.history ops).flatMap Moment.received =
      ((s.history ops).filter Moment.isHandedOut).map
        fun moment => .ofSelection moment.before.working s.order := by
  induction ops using List.reverseRecOn with
  | nil => rfl
  | append_singleton ops op ih =>
    rw [history_concat, List.flatMap_append, List.filter_append, List.map_append, ih]
    refine congrArg _ ?_
    rw [List.flatMap_singleton, received_perform, order_after]
    cases h : ((s.after ops).perform op).isHandedOut <;> simp [h, before_perform]

/-- Nothing that concerns commits touches the working selection. -/
theorem working_perform_of_commit (s : Session) {op : Operation}
    (h : op = .commit ∨ op = .handOut ∨ op = .finish) :
    (s.perform op).after.working = s.working := by
  rw [after_perform]
  rcases h with rfl | rfl | rfl <;> rfl

/-! ## The panel's button -/

theorem button_hidden_iff : ApplyButton.ofSession s = .hidden ↔ s.isDirty = false := by
  unfold ApplyButton.ofSession
  cases s.isDirty <;> cases s.inFlight <;> simp

theorem button_busy_iff :
    ApplyButton.ofSession s = .busy ↔ s.isDirty = true ∧ s.inFlight = true := by
  unfold ApplyButton.ofSession
  cases s.isDirty <;> cases s.inFlight <;> simp

/-- At every point of a run, a commit on the navigation is handed out exactly when the sets differ
and no commit is outstanding. The navigation has received one request for each commit that was handed
out, in their order, and nothing else; each is the request of the selection at its moment, so it is
empty only when that was. The baseline is that of the last start, and nothing that concerns commits
touches the working selection. The panel's button is ready exactly when a commit would be handed out
next, hidden when the sets are the same, and busy when they differ and a commit is outstanding. -/
theorem commits_of_run (raw : RawFilters) (o : MemberOrder) (ops : List Operation) :
    let past := (start raw o).history ops
    let s := (start raw o).after ops
    ((s.perform .handOut).answer = .handedOut true ↔
      (¬∀ c m, m ∈ (s.working.get c).members ↔ m ∈ (s.baseline.get c).members) ∧
        ¬Outstanding past) ∧
    past.flatMap Moment.received = (past.filter Moment.isHandedOut).map
      (fun moment => .ofSelection moment.before.working o) ∧
    (∀ moment ∈ past,
      (moment.received = if moment.isHandedOut then [.ofSelection moment.before.working o] else []) ∧
      ∀ r ∈ moment.received, r.isEmpty = moment.before.working.isEmpty) ∧
    s.baseline = .ofRaw (lastFilters raw ops) ∧
    (∀ op, op = .commit ∨ op = .handOut ∨ op = .finish →
      (s.perform op).after.working = s.working) ∧
    ∀ counts opened, let panel := Panel.build counts s opened
      (panel.apply = .ready ↔ (s.perform .handOut).answer = .handedOut true) ∧
      (panel.apply = .hidden ↔ s.working.same s.baseline = true) ∧
      (panel.apply = .busy ↔ s.working.same s.baseline = false ∧ Outstanding past) ∧
      (panel.busy = true ↔ Outstanding past) := by
  intro past s
  have hflight : s.inFlight = true ↔ Outstanding past := inFlight_after_iff rfl ops
  have hidle : s.inFlight = false ↔ ¬Outstanding past := by rw [← hflight, Bool.not_eq_true]
  refine ⟨?_, received_history (start raw o) ops, fun moment hm => ?_, baseline_after raw o ops,
    fun op => s.working_perform_of_commit, fun counts opened => ⟨?_, ?_, ?_, hflight⟩⟩
  · rw [answer_perform_handOut, canCommit_iff, isDirty_eq_true_iff, hidle]
  · obtain ⟨before, op, -, -, rfl⟩ := eq_perform_of_mem_history hm
    have hreceived := received_perform ((start raw o).after before) op
    rw [order_after] at hreceived
    rw [before_perform]
    refine ⟨hreceived, fun r hr => ?_⟩
    rw [hreceived] at hr
    split at hr
    · rw [List.mem_singleton.mp hr, Request.isEmpty_ofSelection]
    · cases hr
  · rw [answer_perform_handOut]
    exact Panel.ofSession_eq_ready_iff s
  · rw [← Bool.not_eq_false']
    exact button_hidden_iff
  · rw [← Bool.not_eq_true', ← hflight]
    exact button_busy_iff

end FacetFilter.Session
