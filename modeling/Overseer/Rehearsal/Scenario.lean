import Overseer.Options
import Overseer.Rehearsal.Library
import Overseer.Rehearsal.Process
import Overseer.Supervisor.Starting

namespace Overseer.Rehearsal

open Overseer.Output
open Overseer.Supervisor

-- A supervisor rehearsed over scripted processes: steps are taken one after
-- the other, and each one's consequences are played out before the next.

inductive Call
  | start (options : Options)
  | startMany (options : Options) (count : Nat)
  | stop
  | kill
  | look
  | await (target : State)
  | describe
  | drop

inductive Reply
  | done
  | failed (fault : Fault)
  | succeeded (count : Nat)
  | reached (value : Bool)
  | described (text : String)
  | delivered (value : Bool)
  | reported (value : Bool)
  | dropped
  | noProcess

def Reply.ofOutcome : Except Fault Unit → Reply
  | .error fault => .failed fault
  | .ok _ => .done

-- What was asked while something else was under way. Inside a spawn or an
-- opening the supervisor is looked at as well.
structure Note where
  call : Call
  reply : Reply
  seen : Option (State × Option Pid)

structure Spawning where
  pid : Option Pid
  failure : Option SpawnFailure
  streams : List Source
  obedient : Bool
  compliance : List Compliance
  -- Asked inside the spawn.
  during : List Call

def Spawning.plain : Spawning := ⟨none, none, [.stdout, .stderr], false, [], []⟩

inductive Cue
  | source (source : Source)
  | state (state : State)
deriving DecidableEq

def cue : Event → Cue
  | .output line => .source line.source
  | .stateChanged state => .state state

structure Reaction where
  cue : Cue
  calls : List Call
  times : Nat

structure Stage where
  system : System
  loader : Option LoaderTrial
  duringOpen : List Call
  spawns : List Spawning
  processes : List ScriptedProcess
  arguments : Array (List String)
  reactions : List Reaction
  -- Processes that obey a request and have not exited yet.
  departing : List (Nat × Signal)
  notes : Array Note

-- More rounds than any rehearsal takes.
def patience : Nat := 1000000000000

namespace Stage

def new (config : Config) (loader : Option LoaderTrial) (duringOpen : List Call)
    (spawns : List Spawning) (reactions : List Reaction) : Stage :=
  { system := .new config, loader, duringOpen, spawns, processes := [], arguments := #[],
    reactions, departing := [], notes := #[] }

def take (stage : Stage) (action : Action) : Stage :=
  { stage with system := stage.system.take action }

def latest (stage : Stage) : Option ScriptedProcess := stage.processes.getLast?

def change (stage : Stage) (process : ScriptedProcess) : Stage :=
  { stage with
    processes := stage.processes.map fun other =>
      if other.run = process.run then process else other }

def seen (stage : Stage) : State × Option Pid := (stage.system.core.state, stage.system.core.pid)

def note (stage : Stage) (call : Call) (reply : Reply) (seen : Option (State × Option Pid)) :
    Stage :=
  { stage with notes := stage.notes.push ⟨call, reply, seen⟩ }

def conclude (stage : Stage) : Stage :=
  match stage.system.lock with
  | some (.signalling run signal) =>
      match stage.processes.find? fun process => process.run = run with
      | none => stage
      | some process =>
          let outcome := process.comply
          let stage := (stage.change (process.receive signal)).take (.conclude outcome)
          match outcome with
          | .ok _ =>
              if process.obedient then
                { stage with departing := stage.departing ++ [(run, signal)] }
              else stage
          | .error _ => stage
  | _ => stage

def request (stage : Stage) (signal : Signal) : Stage := (stage.take (.request signal)).conclude

def arrive (stage : Stage) (run : Nat) (source : Source) (message : Message) : Stage :=
  { stage with system := stage.system.arrive run source message }

def close (stage : Stage) (run : Nat) (sources : List Source) : Stage :=
  { stage with system := stage.system.close run sources }

def bothStreams : List Source := [.stdout, .stderr]

def exit (stage : Stage) (run : Nat) (exit : Exit) : Stage :=
  (stage.close run bothStreams).take (.report run exit)

-- Every consequence but the observer's.
def playOut (stage : Stage) : Nat → Stage
  | 0 => stage
  | fuel + 1 =>
      match stage.departing with
      | (run, signal) :: rest =>
          ({ stage with departing := rest }.exit run (obeyed signal)).playOut fuel
      | [] => { stage with system := stage.system.tearDown }

section Inside

-- Start calls that are made while another one is between its parts.
variable (start : Stage → Options → Reply × Stage)

def startMany (stage : Stage) (options : Options) (count : Nat) : Nat × Stage :=
  (List.range count).foldl
    (fun (succeeded, stage) _ =>
      match start stage options with
      | (.failed _, stage) => (succeeded, stage)
      | (_, stage) => (succeeded + 1, stage))
    (0, stage)

-- Nothing that is asked for here happens before the start call goes on.
def askInside (stage : Stage) (call : Call) : Stage :=
  let (reply, stage) : Reply × Stage :=
    match call with
    | .start options => start stage options
    | .startMany options count =>
        let (succeeded, stage) := stage.startMany start options count
        (.succeeded succeeded, stage)
    | .stop => (.done, stage.take (.request .graceful))
    | .kill => (.done, stage.take (.request .force))
    | .look | .drop => (.done, stage)
    | .await target => (.reached (stage.system.core.state = target), stage)
    | .describe => (.described (Supervisor.describe stage.system.core stage.loader.isSome), stage)
  stage.note call reply (some stage.seen)

def preflight (stage : Stage) (options : Options) : Except LoadFault Unit × Stage :=
  match stage.loader with
  | none => (.ok (), stage)
  | some trial =>
      let (outcome, checked) := trial.preflight (Path.ofText options.runtimeHome)
      let stage := { stage with loader := some checked }
      let stage :=
        if trial.attempts.asked.size < checked.attempts.asked.size then
          stage.duringOpen.foldl (askInside start) stage
        else stage
      (outcome.map fun _ => (), stage)

def spawn (stage : Stage) (options : Options) :
    Except Fault (Nat → ScriptedProcess × Handle) × Stage :=
  let spawning := answer stage.spawns .plain stage.arguments.size
  let pid := spawning.pid.getD (nextPid stage.processes.length)
  let arguments := options.arguments
  let stage := { stage with arguments := stage.arguments.push arguments }
  let stage := spawning.during.foldl (askInside start) stage
  match spawning.failure with
  | some failure => (.error (failure.fault (arguments.headD "")), stage)
  | none =>
      (.ok fun run =>
        (⟨run, pid, spawning.obedient, spawning.compliance, #[]⟩,
          ⟨pid, spawning.streams.contains .stdout, spawning.streams.contains .stderr⟩),
        stage)

def launch (options : Options) (stage : Stage) :
    Except Fault (Nat → ScriptedProcess × Handle) × Stage :=
  match stage.preflight start options with
  | (.error fault, stage) => (.error (.runtime fault), stage)
  | (.ok _, stage) => stage.spawn start options

end Inside

def host : Host Stage := ⟨system, take, fun _ _ => rfl⟩

def install (run : Nat) (made : Nat → ScriptedProcess × Handle) (stage : Stage) : Stage :=
  let (process, handle) := made run
  conclude
    { stage with
      processes := stage.processes ++ [process]
      system := stage.system.takeAll (installing run handle) }

-- A start call, with others inside it as deep as given.
def startWithin : Nat → Stage → Options → Reply × Stage
  | 0, stage, _ => (.done, stage)
  | depth + 1, stage, options =>
      let (outcome, stage) := host.start (launch (startWithin depth) options) install stage
      (.ofOutcome outcome, stage)

-- Whatever is started inside finds a run, so that nothing is deeper.
def start : Stage → Options → Reply × Stage := startWithin 2

-- A call that waits for a state gives up at once when nothing can bring it
-- about any more.
def await (stage : Stage) (target : State) : Bool × Stage :=
  let index := stage.system.waiters.length
  let stage := ((stage.take (.await target)).take (.look index)).take (.expire index)
  (stage.system.waiters[index]?.any fun waiter => waiter.phase = .returned true, stage)

-- The process is made to obey and the supervisor is disposed of, up to the
-- point where its last events are handed over.
def drop (stage : Stage) (inside : Bool) : Stage :=
  let stage :=
    match stage.latest with
    | none => stage
    | some process => stage.change process.tame
  let stage :=
    match stage.latest with
    | some process =>
        if stage.system.core.state = State.stopping then
          (stage.exit process.run (obeyed .graceful)).playOut patience
        else stage
    | none => stage
  let stage := ((stage.take (.dispose inside)).take .disposeRequest).conclude
  ((stage.playOut patience).take .disposeLook).take .disposeClose

-- A supervisor that was dropped can only be dropped again, which changes
-- nothing.
def ask (stage : Stage) (inside : Bool) (call : Call) : Reply × Stage :=
  if !stage.system.isOpen then (if call matches .drop then .done else .dropped, stage)
  else
    match call with
    | .start options => stage.start options
    | .startMany options count =>
        let (succeeded, stage) := stage.startMany start options count
        (.succeeded succeeded, stage)
    | .stop => (.done, stage.request .graceful)
    | .kill => (.done, stage.request .force)
    | .look => (.done, stage)
    | .await target =>
        let (reached, stage) := stage.await target
        (.reached reached, stage)
    | .describe => (.described (Supervisor.describe stage.system.core stage.loader.isSome), stage)
    | .drop => (.done, stage.drop inside)

def takeReaction (reactions : List Reaction) (cue : Cue) : List Call × List Reaction :=
  match reactions with
  | [] => ([], [])
  | reaction :: rest =>
      let (calls, rest') := takeReaction rest cue
      if reaction.cue = cue && reaction.times ≠ 0 then
        (reaction.calls ++ calls, { reaction with times := reaction.times - 1 } :: rest')
      else (calls, reaction :: rest')

-- An observer that has lost its supervisor asks for nothing.
def react (stage : Stage) (call : Call) : Stage :=
  if !stage.system.isOpen then stage
  else
    let (reply, stage) := stage.ask true call
    let stage := stage.playOut patience
    match call with
    | .drop => stage
    | _ => stage.note call reply none

-- Hands every event over, with the observer's reactions and what they lead to.
def handOver (stage : Stage) : Nat → Stage
  | 0 => stage
  | fuel + 1 =>
      match stage.system.queue.deliver with
      | none => stage
      | some _ =>
          let stage := stage.take .deliver
          match stage.system.queue.current with
          | none => stage.handOver fuel
          | some event =>
              let (calls, reactions) := takeReaction stage.reactions (cue event)
              let stage := calls.foldl react { stage with reactions }
              (stage.take .settle).handOver fuel

def settle (stage : Stage) : Stage := (stage.playOut patience).handOver patience

end Stage

inductive Step
  | call (call : Call)
  | send (source : Source) (message : Message)
  | close (sources : List Source)
  | exit (exit : Exit)
  | leave (exit : Exit)
  | setHome (home : Path)
  | unload

structure Result where
  reply : Reply
  -- None once the supervisor is dropped.
  state : Option State
  pid : Option Pid
  received : Option (Array Signal)
  notes : Array Note

namespace Stage

def withProcess (stage : Stage) (act : ScriptedProcess → Reply × Stage) : Reply × Stage :=
  match stage.latest with
  | none => (.noProcess, stage)
  | some process => act process

def perform (stage : Stage) : Step → Reply × Stage
  | .call call => stage.ask false call
  | .send source message =>
      stage.withProcess fun process =>
        (.delivered (stage.system.findReader process.run source).isSome,
          stage.arrive process.run source message)
  | .close sources =>
      stage.withProcess fun process => (.done, stage.close process.run sources)
  | .exit exit =>
      stage.withProcess fun process =>
        (.reported (stage.system.reportable.contains process.run), stage.exit process.run exit)
  | .leave exit =>
      stage.withProcess fun process =>
        (.reported (stage.system.reportable.contains process.run),
          stage.take (.report process.run exit))
  | .setHome home =>
      (.done, { stage with
        loader := stage.loader.map fun trial =>
          { trial with loader := trial.loader.setHome home } })
  | .unload =>
      (.done, { stage with
        loader := stage.loader.map fun trial => { trial with loader := trial.loader.unload } })

def result (stage : Stage) (reply : Reply) : Result :=
  { reply
    state := if stage.system.isOpen then some stage.system.core.state else none
    pid := if stage.system.isOpen then stage.system.core.pid else none
    received := stage.latest.map ScriptedProcess.received
    notes := stage.notes }

def step (stage : Stage) (step : Step) : Result × Stage :=
  let (reply, stage) := { stage with notes := #[] }.perform step
  let stage := stage.settle
  (stage.result reply, stage)

def run (stage : Stage) : List Step → List Result × Stage
  | [] => ([], stage)
  | step :: steps =>
      let (result, stage) := stage.step step
      match result.reply with
      | .dropped | .noProcess => ([result], stage)
      | _ =>
          let (results, stage) := stage.run steps
          (result :: results, stage)

-- The end of every rehearsal.
def finish (stage : Stage) : Stage :=
  if stage.system.isOpen then (stage.drop false).settle else stage

end Stage

end Overseer.Rehearsal
