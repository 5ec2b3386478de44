import Overseer.Rehearsal.Console

namespace Overseer

-- The launcher on a command line. The server that the environment names is
-- read as a shell script and run on a machine of its own; what it prints goes
-- where it would go.

def environmentNames : List String :=
  ["LAUNCHER_RUNTIME_HOME", "LAUNCHER_MEMORY_LIMIT", "LAUNCHER_MOUNT_PATH", "LAUNCHER_DATA_PATH",
    "LAUNCHER_WEBUI_PATH", "LAUNCHER_PAYLOAD_PATH", "LAUNCHER_EXTRA_FLAGS",
    "LAUNCHER_READINESS_MARKER", "LAUNCHER_READ_CHUNK", "LAUNCHER_RUNTIME_PRECHECK"]

def readEnvironment : IO Environment := do
  let mut entries := []
  for name in environmentNames do
    if let some value ← IO.getEnv name then
      entries := (name, Text.Utf8.encode value) :: entries
  return ⟨entries⟩

def readScript (path : String) : IO (Option String) := do
  try
    let text ← IO.FS.readFile path
    return some (String.ofList ((text.toList.dropWhile (· ≠ '\n')).drop 1))
  catch _ =>
    return none

def readLibrary (home : String) : IO (Option (List UInt8)) := do
  try
    let content ← IO.FS.readBinFile (home ++ "/lib/server/libjvm.so")
    return some content.toList
  catch _ =>
    return none

def printEvent (event : Event) : IO Unit :=
  match event with
  | .output line =>
      if line.source = .stderr then IO.eprint line.text else IO.print line.text
  | .stateChanged _ => pure ()

end Overseer

open Overseer in
def main : IO UInt32 := do
  let environment ← readEnvironment
  let options := Options.ofEnvironment environment
  let script ← readScript options.executable
  let library ← readLibrary options.runtimeHome
  let plan : Rehearsal.ConsolePlan :=
    ⟨options.runtimeHome, environment, false, script, library, []⟩
  let result := Rehearsal.ConsoleRun.run plan
  result.events.forM printEvent
  match result.fault with
  | none => return 0
  | some fault =>
      IO.eprint (Launcher.report fault)
      return 1
