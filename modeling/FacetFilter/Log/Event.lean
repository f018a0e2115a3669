import FacetFilter.Facet.Category
import FacetFilter.Settings.Basic

/-! What the program tells its log: events with a level, the part of the program they come from
and a line of text. -/

namespace FacetFilter.Log

inductive Level where
  | error
  | warn
  | info
  | debug
  | trace
deriving DecidableEq, Repr

namespace Level

def name : Level → String
  | .error => "ERROR"
  | .warn => "WARN"
  | .info => "INFO"
  | .debug => "DEBUG"
  | .trace => "TRACE"

/-- From the gravest level to the finest. -/
def rank : Level → Nat
  | .error => 1
  | .warn => 2
  | .info => 3
  | .debug => 4
  | .trace => 5

end Level

inductive Event where
  | started (logPath : String)
  | settingsCreated (path : String)
  | settingsLoaded (s : Settings)
  | toggled (c : Category) (value : String) (chosen : Bool)
  | committed (query : String)
  | navigating (url : String)
  /-- Nobody waits for the URL that was navigated to. -/
  | commitDropped
  /-- A session was started; the sizes are those of its baseline. -/
  | sessionStarted (sizes : PerCategory Nat)
  | reloaded (url : String) (dirty : Bool)
deriving DecidableEq, Repr

namespace Event

def level : Event → Level
  | .commitDropped => .warn
  | .started _ | .settingsCreated _ | .navigating _ => .info
  | _ => .debug

/-- The part of the program that an event comes from. -/
def origin : Event → String
  | .started _ => "facetctl_core::logging"
  | .settingsCreated _ => "facetctl_core::config"
  | .settingsLoaded _ => "facetctl::cli"
  | .toggled _ _ _ | .committed _ | .sessionStarted _ => "facetctl_core::controller"
  | .navigating _ | .commitDropped => "facetctl_core::navigation"
  | .reloaded _ _ => "facetctl::cli::commands::apply"

/-- The names of the fields of an event. -/
def fields : Event → List String
  | .started _ | .settingsCreated _ | .settingsLoaded _ | .commitDropped => ["message"]
  | .toggled _ _ _ => ["message", "category", "value", "selected"]
  | .committed _ => ["message", "query"]
  | .navigating _ => ["message", "url"]
  | .sessionStarted _ => "message" :: Category.all.map Category.key
  | .reloaded _ _ => ["message", "dirty"]

def flag (b : Bool) : String := if b then "true" else "false"

/-- A record of the log: its name and its fields. -/
def record (name : String) (fields : List (String × String)) : String :=
  name ++ " \x7b " ++ String.intercalate ", " (fields.map fun (k, v) => k ++ ": " ++ v) ++ " \x7d"

def orderName : MemberOrder → String
  | .sorted => "Sorted"
  | .insertion => "Insertion"

def sectionsText : Option Sections → String
  | none => "None"
  | some s =>
    "Some(" ++ record "SectionState" (Category.all.map fun c => (c.key, flag (s.get c))) ++ ")"

def settingsText (s : Settings) : String :=
  record "FacetConfig" [
    ("base_url", Text.quoted s.baseUrl),
    ("commit_order", orderName s.order),
    ("sections", sectionsText s.sections?)]

def text : Event → String
  | .started path => "facetctl logging initialized at " ++ path
  | .settingsCreated path => "created default config at " ++ path
  | .settingsLoaded s => "loaded config: " ++ settingsText s
  | .toggled c value chosen =>
    "facet toggled category=" ++ c.key ++ " value=" ++ Text.quoted value ++ " selected=" ++
      flag chosen
  | .committed query => "facet selection committed query=" ++ query
  | .navigating url => "navigating to filtered results url=" ++ url
  | .commitDropped => "navigation task closed; dropping commit"
  | .sessionStarted sizes =>
    "facet selection initialized" ++
      String.join (Category.all.map fun c => " " ++ c.key ++ "=" ++ (sizes.get c).repr)
  | .reloaded url dirty => "reloaded from " ++ url ++ " dirty=" ++ flag dirty

/-- The event as a line of the log. -/
def line (e : Event) : String := e.level.name ++ " " ++ e.origin ++ ": " ++ e.text

end Event

end FacetFilter.Log
