import FacetFilter.Command.Apply
import FacetFilter.Command.Args
import FacetFilter.Command.Display
import FacetFilter.Log.Filter
import FacetFilter.Settings.File

/-! Running the program: the settings are loaded, or created where there are none, and then the
command does its work. Everything the run depends on is in its surroundings. -/

namespace FacetFilter

structure Surroundings where
  settingsPath : String
  settings : FileContent
  logPath : String
  /-- Without a log file nothing is logged. -/
  canLog : Bool
  logFilter? : Option String
  /-- The files that commands name, as they are once the settings are in place. -/
  read : String → FileContent
  urls : UrlLibrary
  polls : Polls

/-- What a run comes to. -/
structure Outcome where
  exitCode : Nat
  lines : List String
  failure? : Option Failure
  /-- The text of the settings file to create. -/
  created? : Option String
  log : List String

namespace Outcome

/-- The line on the error channel. -/
def errorLine? (o : Outcome) : Option String := o.failure?.map ("facetctl error: " ++ ·.message)

end Outcome

namespace Command

/-- The order that `apply` asks for, or else that of the settings. -/
def orderFor (settings : Settings) (byInsertion : Bool) : MemberOrder :=
  if byInsertion then .insertion else settings.order

def execute (around : Surroundings) (settings : Settings) : Command → Report
  | .display url? countsPath? =>
    Display.run around.urls (url?.getD settings.baseUrl) settings.order settings.sections
      (countsPath?.map fun path => (path, around.read path))
  | .apply url? toggles byInsertion =>
    Apply.run around.urls around.polls (url?.getD settings.baseUrl) toggles
      (orderFor settings byInsertion)
  | .completions _ | .man => ⟨[], [], none⟩

/-- The report of a command, and the settings file to create. -/
def report (around : Surroundings) (c : Command) : Report × Option String :=
  match Settings.loadOrCreate around.settings with
  | .error (.unreadable e) => (.failed (.settingsUnreadable around.settingsPath e), none)
  | .error _ => (.failed (.settingsInvalid around.settingsPath), none)
  | .ok (settings, created?) =>
    let first := if created?.isSome then [Log.Event.settingsCreated around.settingsPath] else []
    (.after (first ++ [.settingsLoaded settings]) (execute around settings c), created?)

end Command

namespace Invocation

/-- The lines of the log for these events. -/
def logged (around : Surroundings) (events : List Log.Event) : List String :=
  if around.canLog then
    ((.started around.logPath :: events).filter
      (Log.Filter.ofText around.logFilter?).passes).map Log.Event.line
  else []

def outcome (around : Surroundings) : Invocation → Outcome
  | .rejected => ⟨2, [], none, none, logged around []⟩
  | .help => ⟨0, [], none, none, logged around []⟩
  | .run c =>
    let (report, created?) := c.report around
    ⟨if report.failure?.isSome then 1 else 0, report.lines, report.failure?, created?,
      logged around report.events⟩

end Invocation

end FacetFilter
