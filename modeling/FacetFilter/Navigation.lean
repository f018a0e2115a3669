import FacetFilter.Log.Event
import FacetFilter.Session

/-! Navigation. A navigator sends the URLs that committed requests lead to into a channel, and a
task waits at the other end for the first of them. The task runs beside the program: it may look
into the channel at any time, and as often as it happens to be woken. -/

namespace FacetFilter

/-- A channel that holds any number of values on their way from a sender to a receiver. -/
structure Channel (α : Type) where
  waiting : List α
  hasSender : Bool
  hasReceiver : Bool
deriving DecidableEq, Repr

namespace Channel

variable {α : Type}

def new : Channel α := ⟨[], true, true⟩

/-- Sends a value, and tells whether there is still a receiver for it. -/
def send (c : Channel α) (a : α) : Bool × Channel α :=
  if c.hasReceiver then (true, { c with waiting := c.waiting ++ [a] }) else (false, c)

def dropSender (c : Channel α) : Channel α := { c with hasSender := false }

/-- What has not been received goes with the receiver. -/
def dropReceiver (c : Channel α) : Channel α := { c with waiting := [], hasReceiver := false }

/-- What a look into a channel comes to. -/
inductive Found (α : Type) where
  | value (a : α)
  /-- Nothing is there, and nothing can come. -/
  | closed
  | pending
deriving DecidableEq, Repr

def receive (c : Channel α) : Found α × Channel α :=
  match c.waiting with
  | a :: rest => (.value a, { c with waiting := rest })
  | [] => (if c.hasSender then .pending else .closed, c)

end Channel

/-- A navigator for the requests made from a page. -/
structure Navigator (lib : UrlLibrary) where
  page : lib.Parsed
  channel : Channel lib.Parsed

/-- Sends the URL that a request leads to. When its receiver is gone, so is the page that would
have followed, and the URL is dropped. -/
def Navigator.navigate {lib : UrlLibrary} (n : Navigator lib) (r : Request) :
    List Log.Event × Navigator lib :=
  let target := lib.target n.page r
  let (sent, channel) := n.channel.send target
  (.navigating (lib.text target) :: if sent then [] else [.commitDropped], { n with channel })

/-- A commit with a navigator: whether a request was handed to it, the events, and what has become
of session and navigator. -/
structure Committed (lib : UrlLibrary) where
  handedOut : Bool
  events : List Log.Event
  session : Session
  navigator : Navigator lib

/-- Hands the request to the navigator if a commit is possible now, whatever comes of it there. -/
def Session.commitWith {lib : UrlLibrary} (s : Session) (n : Navigator lib) : Committed lib :=
  match s.handOut with
  | (none, next) => ⟨false, [], next, n⟩
  | (some r, next) =>
    let (events, n) := n.navigate r
    ⟨true, .committed r.text :: events, next, n⟩

/-- Why a task that was awaited has no result: it was stopped, or it broke down. -/
structure JoinError where
  text : String
deriving DecidableEq, Repr

/-- A task that receives one value from a channel. -/
inductive Task (α : Type) where
  | waiting
  /-- There is no value when the channel was closed before one came. -/
  | ended (a? : Option α)
  | lost (e : JoinError)
deriving DecidableEq, Repr

namespace Task

variable {α : Type}

/-- The task looks into the channel once. When it ends, the receiver goes with it. -/
def poll (t : Task α) (c : Channel α) : Task α × Channel α :=
  match t with
  | .waiting =>
    match c.receive with
    | (.value a, c) => (.ended (some a), c.dropReceiver)
    | (.closed, c) => (.ended none, c.dropReceiver)
    | (.pending, c) => (.waiting, c)
  | done => (done, c)

def pollTimes (t : Task α) (c : Channel α) : Nat → Task α × Channel α
  | 0 => (t, c)
  | n + 1 =>
    let (t, c) := t.poll c
    t.pollTimes c n

/-- Without a sender there is nothing left to wait for. -/
theorem poll_ne_waiting (t : Task α) {c : Channel α} (h : c.hasSender = false) :
    (t.poll c).1 ≠ .waiting := by
  cases t with
  | waiting => cases hw : c.waiting <;> simp [poll, Channel.receive, hw, h]
  | ended a? => simp [poll]
  | lost e => simp [poll]

/-- Awaits the task, which ends as the channel has no sender. -/
def join (t : Task α) (c : Channel α) (h : c.hasSender = false) : Except JoinError (Option α) :=
  match hp : (t.poll c).1 with
  | .ended a? => .ok a?
  | .lost e => .error e
  | .waiting => absurd hp (t.poll_ne_waiting h)

end Task

/-- How often a navigation task is polled, between its start and the commit, and between the commit
and the end of the sender. -/
structure Polls where
  beforeCommit : Nat
  beforeClose : Nat
deriving DecidableEq, Repr

end FacetFilter
