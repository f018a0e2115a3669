import FacetFilter.Files
import FacetFilter.Navigation

/-! What a command leaves behind: lines of output, events for the log, and the failure that
ended it, if one did. -/

namespace FacetFilter

inductive Failure where
  | settingsUnreadable (path : String) (e : FileError)
  /-- The settings are no TOML, or not of the right shape. -/
  | settingsInvalid (path : String)
  | badUrl (e : UrlError)
  | countsUnreadable (path : String) (e : FileError)
  /-- The counts are no JSON, or not of the right shape. -/
  | countsInvalid (path : String)
  | navigationLost (e : JoinError)
  /-- A commit was handed out, but the navigation came to no URL. -/
  | noTarget
deriving DecidableEq, Repr

/-- What failed, and then why. -/
def Failure.message : Failure → String
  | .settingsUnreadable path e => "read config: " ++ path ++ ": " ++ e.message
  | .settingsInvalid path => "parse config: " ++ path
  | .badUrl e => e.message ++ ": " ++ e.flaw.message
  | .countsUnreadable path e => "read facet counts: " ++ path ++ ": " ++ e.message
  | .countsInvalid path => "parse facet counts: " ++ path
  | .navigationLost e => e.text
  | .noTarget => "navigation task ended without a target URL"

structure Report where
  lines : List String
  events : List Log.Event
  failure? : Option Failure
deriving DecidableEq, Repr

namespace Report

def failed (f : Failure) : Report := ⟨[], [], some f⟩

/-- Events that come before those of a report. -/
def after (events : List Log.Event) (r : Report) : Report := { r with events := events ++ r.events }

end Report

end FacetFilter
