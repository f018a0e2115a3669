import FacetFilter.Command.Run
import FacetFilter.Url.Reader

/-! The program: looks at its surroundings, runs the command and writes down what it comes to. -/

open FacetFilter

/-- A directory from the environment, or one below the home directory. -/
def directoryFrom (name fallback : String) : IO String := do
  match ← IO.getEnv name with
  | some path => return path
  | none => return ((← IO.getEnv "HOME").getD "") ++ fallback

def contentAt (path : String) : IO FileContent := do
  try
    return .file (← IO.FS.readBinFile path).toList
  catch
    | .noFileOrDirectory .. => return .absent
    | .inappropriateType _ 21 _ => return .directory
    | .inappropriateType .. => return .behindFile
    | .invalidArgument .. => return .nameTooLong
    | _ => return .directory

/-- Whether the log can be written; its directory is made if need be. -/
def prepareLog (directory path : String) : IO Bool := do
  try
    IO.FS.createDirAll directory
    let _ ← IO.FS.Handle.mk path .append
    return true
  catch _ => return false

def createSettings (directory path text : String) : IO Unit := do
  IO.FS.createDirAll directory
  IO.FS.writeFile path text

def appendLog (path : String) (lines : List String) : IO Unit := do
  let handle ← IO.FS.Handle.mk path .append
  for line in lines do handle.putStrLn line

def main (args : List String) : IO UInt32 := do
  let invocation := Invocation.ofArgs args
  let configDirectory := (← directoryFrom "XDG_CONFIG_HOME" "/.config") ++ "/facetctl"
  let stateDirectory := (← directoryFrom "XDG_STATE_HOME" "/.local/state") ++ "/facetctl"
  let settingsPath := configDirectory ++ "/config.toml"
  let logPath := stateDirectory ++ "/facetctl.log"
  let canLog ← prepareLog stateDirectory logPath
  let settings ← contentAt settingsPath
  let mut read := fun (_ : String) => FileContent.absent
  if let .run command := invocation then
    if let .ok (_, some text) := Settings.loadOrCreate settings then
      createSettings configDirectory settingsPath text
    if let .display _ (some path) := command then
      let content ← contentAt path
      read := fun _ => content
  let outcome := invocation.outcome
    ⟨settingsPath, settings, logPath, canLog, ← IO.getEnv "RUST_LOG", read, Url.asciiLibrary,
      ⟨0, 0⟩⟩
  IO.print (Text.ofLines outcome.lines)
  if let some line := outcome.errorLine? then IO.eprintln line
  if canLog then appendLog logPath outcome.log
  return UInt32.ofNat outcome.exitCode
