import FacetFilter.Proofs.Session.Toggles

/-! What becomes of a request on its way from a session to the navigation task. The session does not
see whether anybody receives the URL. The task receives the first URL that is sent, whenever it is
polled; and when none was sent it ends without one as soon as the sender is gone. -/

namespace FacetFilter

namespace Task

variable {α : Type} {t : Task α} {c : Channel α} {sent : List α}

/-- The state of task and channel after these values were sent: the task waits, and they all wait
for it, or it has come to an end with the first of them. -/
inductive Receives (sent : List α) : Task α → Channel α → Prop where
  | waiting : Receives sent .waiting ⟨sent, true, true⟩
  | ended {a : α} {c : Channel α} : sent.head? = some a → Receives sent (.ended (some a)) c

namespace Receives

theorem send (h : Receives sent t c) (a : α) : Receives (sent ++ [a]) t (c.send a).2 := by
  cases h with
  | waiting => exact .waiting
  | ended hfirst => exact .ended (by rw [List.head?_append, hfirst]; rfl)

theorem poll (h : Receives sent t c) : Receives sent (t.poll c).1 (t.poll c).2 := by
  cases h with
  | waiting =>
    cases sent with
    | nil => exact .waiting
    | cons a rest => exact .ended rfl
  | ended hfirst => exact .ended hfirst

theorem pollTimes (h : Receives sent t c) (n : Nat) :
    Receives sent (t.pollTimes c n).1 (t.pollTimes c n).2 := by
  induction n generalizing t c with
  | zero => exact h
  | succ n ih => exact ih h.poll

/-- As long as nothing is sent the task waits. -/
theorem eq_of_nil (h : Receives [] t c) : t = .waiting ∧ c = .new := by
  cases h with
  | waiting => exact ⟨rfl, rfl⟩
  | ended hfirst => cases hfirst

/-- Whatever has been polled before the sender goes, the task comes to the first value. -/
theorem join (h : Receives sent t c) : t.join c.dropSender rfl = .ok sent.head? := by
  cases h with
  | waiting =>
    cases sent with
    | nil => rfl
    | cons a rest => rfl
  | ended hfirst =>
    rw [hfirst]
    rfl

end Receives

theorem pollTimes_new (n : Nat) :
    Task.waiting.pollTimes (Channel.new : Channel α) n = (.waiting, .new) := by
  have hnew : Receives [] Task.waiting (Channel.new : Channel α) := .waiting
  obtain ⟨htask, hchannel⟩ := (hnew.pollTimes n).eq_of_nil
  exact Prod.ext htask hchannel

end Task

variable {lib : UrlLibrary}

namespace Navigator

variable {n : Navigator lib}

theorem navigate_of_hasReceiver (h : n.channel.hasReceiver = true) (r : Request) :
    n.navigate r = ([.navigating (lib.text (lib.target n.page r))],
      { n with channel := (n.channel.send (lib.target n.page r)).2 }) := by
  simp [navigate, Channel.send, h]

/-- Without a receiver the URL is dropped, and nothing but a warning is left of it. -/
theorem navigate_of_closed (h : n.channel.hasReceiver = false) (r : Request) :
    n.navigate r =
      ([.navigating (lib.text (lib.target n.page r)), .commitDropped], n) := by
  simp [navigate, Channel.send, h]

end Navigator

namespace Session

variable {s : Session}

/-- A session hands its request out whether or not anybody receives the URL. -/
theorem commitWith_of_canCommit (h : s.canCommit = true) (n : Navigator lib) :
    let r := Request.ofSelection s.working s.order
    s.commitWith n =
      ⟨true, .committed r.text :: (n.navigate r).1, { s with inFlight := true },
        (n.navigate r).2⟩ := by
  rw [commitWith, handOut_eq, h]
  rfl

theorem commitWith_of_not_canCommit (h : s.canCommit = false) (n : Navigator lib) :
    s.commitWith n = ⟨false, [], s, n⟩ := by
  rw [commitWith, handOut_eq, h]
  rfl

theorem canCommit_of_isDirty (h : s.isDirty = true) (hidle : s.inFlight = false) :
    s.canCommit = true := by
  rw [canCommit, h, hidle]
  rfl

theorem canCommit_of_not_isDirty (h : s.isDirty = false) : s.canCommit = false := by
  rw [canCommit, h, Bool.false_and]

end Session

end FacetFilter
