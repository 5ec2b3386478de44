import Overseer.Event
import Overseer.Exit
import Overseer.Fault

namespace Overseer.Supervisor

-- What one lock guards: the state and the run in flight. Each function here is
-- a part of an operation that runs under the lock without a pause.

structure Handle where
  pid : Pid
  stdout : Bool
  stderr : Bool
deriving DecidableEq

def Handle.streams (handle : Handle) : List Source :=
  (if handle.stdout then [.stdout] else []) ++ (if handle.stderr then [.stderr] else [])

structure Run where
  id : Nat
  handle : Option Handle
  readers : List Source
  pending : Option Signal
  exited : Bool
deriving DecidableEq

structure Core where
  state : State
  run : Option Run
  lastRun : Nat
deriving DecidableEq

inductive Violation
  | runLostInSpawn
  | stateLeftInSpawn
  | signalWithoutProcess
  | activeWithoutRun
  | readyTwice
  | runLostInTeardown
deriving DecidableEq

def startedLine (pid : Pid) : Event :=
  .output ⟨.supervisor, "Started! PID: " ++ toString pid.toNat ++ "\n"⟩

def unreadLine (source : Source) (reason : String) : Event :=
  .output ⟨.supervisor, "Failed to read " ++ source.name ++ ": " ++ reason ++ "\n"⟩

def refusedLine (fault : Fault) : Event :=
  .output ⟨.supervisor, "Failed to stop process: " ++ fault.message ++ "\n"⟩

def stoppedLine (exit : Exit) : Event :=
  .output ⟨.supervisor, "Stopped! " ++ exit.describe ++ "\n"⟩

namespace Core

def initial : Core := ⟨.stopped, none, 0⟩

def pid (core : Core) : Option Pid := do
  let run ← core.run
  let handle ← run.handle
  pure handle.pid

def begin? (core : Core) : Option Core :=
  if core.state ≠ .stopped then none
  else
    let id := core.lastRun + 1
    some ⟨.starting, some ⟨id, none, [], none, false⟩, id⟩

def abandon (core : Core) : Core := { core with state := .stopped, run := none }

def attach (core : Core) (id : Nat) (handle : Handle) : Except Violation Core :=
  match core.run with
  | none => .error .runLostInSpawn
  | some run =>
      if run.id ≠ id then .error .runLostInSpawn
      else if core.state ≠ .starting then .error .stateLeftInSpawn
      else .ok { core with run := some { run with handle := some handle } }

def strengthen (pending : Option Signal) (signal : Signal) : Signal :=
  match signal, pending with
  | .force, _ => .force
  | .graceful, some earlier => earlier
  | .graceful, none => .graceful

def addReader (core : Core) (source : Source) : Core :=
  { core with run := core.run.map fun run => { run with readers := run.readers ++ [source] } }

-- No reader could be created. A pipe that nobody reads would hold the process
-- up, so the run is to end.
def missReader (core : Core) : Core :=
  { core with
    run := core.run.map fun run =>
      { run with pending := some (strengthen run.pending .graceful) } }

def takePending (core : Core) : Option (Signal × Core) :=
  match core.run with
  | none => none
  | some run =>
      match run.pending with
      | none => none
      | some signal =>
          some (signal, { core with state := .stopping, run := some { run with pending := none } })

inductive Requested
  | ignored
  | recorded (core : Core)
  | sent (id : Nat) (entering : Bool) (core : Core)
deriving DecidableEq

def request (core : Core) (signal : Signal) : Except Violation Requested :=
  match core.state, core.run with
  | .stopped, _ => .ok .ignored
  | state, run? =>
      if state = .stopping && signal = .graceful then .ok .ignored
      else
        match run? with
        | none => .error .activeWithoutRun
        | some run =>
            match run.handle with
            | none =>
                .ok (.recorded
                  { core with
                    run := some { run with pending := some (strengthen run.pending signal) } })
            | some _ => .ok (.sent run.id (state ≠ .stopping) { core with state := .stopping })

-- How the answer to a termination request is told. A process that has exited
-- may have left an empty group behind, so a failure then means nothing.
def concluded (core : Core) (outcome : Except Fault Unit) : Except Violation (List Event) :=
  match core.run with
  | none => .error .signalWithoutProcess
  | some run =>
      match run.handle, outcome with
      | none, _ => .error .signalWithoutProcess
      | some _, .ok _ => .ok []
      | some _, .error fault =>
          if run.exited then .ok [] else .ok [refusedLine fault]

def ready (core : Core) (id : Nat) : Except Violation (Option Core) :=
  match core.run with
  | none => .ok none
  | some run =>
      if run.id ≠ id then .ok none
      else
        match core.state with
        | .starting => .ok (if run.exited then none else some { core with state := .running })
        | .stopping => .ok none
        | .running | .stopped => .error .readyTwice

def flagExit (core : Core) (id : Nat) : Option (List Source × Core) :=
  match core.run with
  | none => none
  | some run =>
      if run.id ≠ id || run.exited then none
      else some (run.readers, { core with run := some { run with exited := true, readers := [] } })

def finish (core : Core) : Except Violation Core :=
  match core.run with
  | none => .error .runLostInTeardown
  | some _ => .ok { core with state := .stopped, run := none }

end Core

def describe (core : Core) (hasLoader : Bool) : String :=
  let pid :=
    match core.pid with
    | none => "None"
    | some pid => "Some(" ++ toString pid.toNat ++ ")"
  "ProcessSupervisor \x7b state: " ++ core.state.label ++ ", pid: " ++ pid ++
    ", runtime: " ++ (if hasLoader then "true" else "false") ++ " \x7d"

end Overseer.Supervisor
