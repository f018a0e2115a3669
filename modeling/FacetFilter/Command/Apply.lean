import FacetFilter.Command.Report
import FacetFilter.Facet.Toggle
import FacetFilter.Session

/-! Applying toggles to a page: the values are flipped, the selection is committed, and the
session goes on from the URL that follows. -/

namespace FacetFilter.Apply

/-- All toggles in order, with an event for each. -/
def toggleAll (s : Session) : List Toggle → List Log.Event × Session
  | [] => ([], s)
  | t :: rest =>
    let (chosen, next) := s.toggle t.category t.value
    let (events, last) := toggleAll next rest
    (.toggled t.category t.value chosen :: events, last)

variable (lib : UrlLibrary)

/-- The commit of a session on a page, with what the navigation from there comes to. -/
def commit (polls : Polls) (page : lib.Parsed) (s : Session) :
    Committed lib × Except JoinError (Option lib.Parsed) :=
  let (task, channel) := Task.waiting.pollTimes Channel.new polls.beforeCommit
  let committed := s.commitWith ⟨page, channel⟩
  let (task, channel) := task.pollTimes committed.navigator.channel polls.beforeClose
  -- Without a sender the task ends even when nothing was sent.
  (committed, task.join channel.dropSender rfl)

/-- The session goes on from the URL that was navigated to. -/
def reload (s : Session) (target : lib.Parsed) : Report :=
  let line := lib.text target
  match RawFilters.ofUrl lib line with
  | .error e => ⟨[line], [], some (.badUrl e)⟩
  | .ok raw =>
    let next := s.restart raw
    let sizes := .ofFun fun c => (next.baseline.get c).size
    ⟨[line], [.sessionStarted sizes, .reloaded line next.isDirty], none⟩

/-- The report on a page after these toggles. -/
def run (polls : Polls) (url : String) (toggles : List Toggle) (order : MemberOrder) : Report :=
  match lib.page url, Session.ofUrl lib url order with
  | .error e, _ | _, .error e => .failed (.badUrl e)
  | .ok page, .ok session =>
    let (toggled, session) := toggleAll session toggles
    let (committed, target?) := commit lib polls page session
    Report.after (toggled ++ committed.events) <|
      match target? with
      | .error e => .failed (.navigationLost e)
      | .ok target? =>
        if !committed.handedOut then ⟨["No filter changes."], [], none⟩
        else match target? with
          | none => .failed .noTarget
          | some target => reload lib committed.session target

end FacetFilter.Apply
