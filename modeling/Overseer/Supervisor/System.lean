import Overseer.Config
import Overseer.Log.Record
import Overseer.Output.Reader
import Overseer.Supervisor.Core
import Overseer.Supervisor.Queue

namespace Overseer.Supervisor

open Overseer.Output

-- A supervisor with everything that runs beside it: calls between their parts,
-- a reader for each stream, threads that end a run, waiting callers, and the
-- dispatcher. Each action is one indivisible step of one of them, so every
-- order in which the threads may run is a sequence of actions. What the world
-- decides comes with the action: the process that a spawn yields, the outcome
-- of a termination request, what arrives on a stream, how the process ends.

inductive Holder
  -- The process is installed. Readers for its streams are created, and then a
  -- request made meanwhile is looked at.
  | attaching (run : Nat) (unread : List Source)
  | signalling (run : Nat) (signal : Signal)
deriving DecidableEq

structure ReaderThread where
  run : Nat
  source : Source
  stream : Stream
  reader : Reader
  announcing : Bool
deriving DecidableEq

structure Teardown where
  run : Nat
  exit : Exit
  awaited : List Source
deriving DecidableEq

inductive WaitPhase
  | entering
  | asleep
  | woken
  | returned (reached : Bool)
deriving DecidableEq

structure Waiter where
  target : State
  phase : WaitPhase
deriving DecidableEq

inductive Closing
  | open
  | requesting (inside : Bool)
  | waiting (inside : Bool) (phase : WaitPhase)
  | closed
deriving DecidableEq

-- The disposal is under way inside a callback, which therefore cannot return.
def Closing.holdsCallback : Closing → Bool
  | .requesting inside => inside
  | .waiting inside _ => inside
  | _ => false

structure System where
  config : Config
  core : Core
  lock : Option Holder
  queue : Queue
  windows : List Nat
  readers : List ReaderThread
  reportable : List Nat
  teardowns : List Teardown
  signals : Array (Nat × Signal)
  waiters : List Waiter
  closing : Closing
  records : List Log.RunRecord

inductive Action
  | start
  | fail (run : Nat)
  | attach (run : Nat) (handle : Handle)
  | watch (refusal : Option String)
  | takePending
  | request (signal : Signal)
  | conclude (outcome : Except Fault Unit)
  | send (run : Nat) (source : Source) (message : Message)
  | read (run : Nat) (source : Source)
  | announce (run : Nat)
  | report (run : Nat) (exit : Exit)
  | teardown (run : Nat)
  | deliver
  | settle
  | await (target : State)
  | look (waiter : Nat)
  | expire (waiter : Nat)
  | dispose (inside : Bool)
  | disposeRequest
  | disposeLook
  | disposeClose

inductive Move
  | blocked
  | broken (violation : Violation)
  | moved (system : System)

namespace System

def new (config : Config) : System :=
  { config := config, core := .initial, lock := none, queue := .empty, windows := [],
    readers := [], reportable := [], teardowns := [], signals := #[], waiters := [],
    closing := .open, records := [] }

def isFree (system : System) : Bool := system.lock.isNone

def isOpen (system : System) : Bool := system.closing = .open

def put (system : System) (events : List Event) : System :=
  { system with queue := system.queue.putAll events }

def wake : WaitPhase → WaitPhase
  | .asleep => .woken
  | phase => phase

def notifyAll (system : System) : System :=
  { system with
    waiters := system.waiters.map fun waiter => { waiter with phase := wake waiter.phase }
    closing :=
      match system.closing with
      | .waiting inside phase => .waiting inside (wake phase)
      | closing => closing }

def entered (system : System) : System :=
  (system.put [.stateChanged system.core.state]).notifyAll

def record (system : System) (run : Nat) (change : Log.RunRecord → Log.RunRecord) : System :=
  { system with
    records := system.records.map fun entry => if entry.id = run then change entry else entry }

def findReader (system : System) (run : Nat) (source : Source) : Option ReaderThread :=
  system.readers.find? fun thread => thread.run = run && thread.source = source

def setReader (system : System) (changed : ReaderThread) : System :=
  { system with
    readers := system.readers.map fun thread =>
      if thread.run = changed.run && thread.source = changed.source then changed else thread }

def endReader (system : System) (run : Nat) (source : Source) : System :=
  { system with
    readers := system.readers.filter fun thread => !(thread.run = run && thread.source = source) }

def newReader (config : Config) (run : Nat) (source : Source) : ReaderThread :=
  { run := run, source := source, stream := []
    reader := if source = .stdout then .watching config.marker config.maxLine else .plain
    announcing := false }

-- A reader that cannot have its buffer ends before it reads.
def hasBuffer (config : Config) : Bool :=
  Stream.request config.chunkSize ≤ Stream.largestRequest

def sendSignal (system : System) (run : Nat) (signal : Signal) : System :=
  { system with
    lock := some (.signalling run signal), signals := system.signals.push (run, signal) }

def onStart (system : System) : Move :=
  if !system.isFree || !system.isOpen then .blocked
  else
    match system.core.begin? with
    | none => .moved system
    | some core =>
        .moved
          { system with
            core := core
            windows := system.windows ++ [core.lastRun]
            records := system.records ++ [Log.RunRecord.new core.lastRun] }.notifyAll

def onFail (system : System) (run : Nat) : Move :=
  if !system.isFree || !system.windows.contains run then .blocked
  else
    .moved
      { system with core := system.core.abandon, windows := system.windows.erase run }.notifyAll

def onAttach (system : System) (run : Nat) (handle : Handle) : Move :=
  if !system.isFree || !system.windows.contains run then .blocked
  else
    match system.core.attach run handle with
    | .error violation => .broken violation
    | .ok core =>
        .moved
          (({ system with
              core := core
              lock := some (.attaching run handle.streams)
              windows := system.windows.erase run
              reportable := system.reportable ++ [run] }.record run
            fun entry => { entry with pid := some handle.pid }).put
            [startedLine handle.pid, .stateChanged .starting])

def onWatch (system : System) (refusal : Option String) : Move :=
  match system.lock with
  | some (.attaching run (source :: rest)) =>
      let system := { system with lock := some (.attaching run rest) }
      match refusal with
      | none =>
          .moved
            { system with
              core := system.core.addReader source
              readers :=
                if hasBuffer system.config then
                  system.readers ++ [newReader system.config run source]
                else system.readers }
      | some reason =>
          .moved ({ system with core := system.core.missReader }.put [unreadLine source reason])
  | _ => .blocked

def onTakePending (system : System) : Move :=
  match system.lock with
  | some (.attaching run []) =>
      match system.core.takePending with
      | none => .moved { system with lock := none }
      | some (signal, core) => .moved ({ system with core := core }.entered.sendSignal run signal)
  | _ => .blocked

def onRequest (system : System) (signal : Signal) : Move :=
  if !system.isFree then .blocked
  else
    match system.core.request signal with
    | .error violation => .broken violation
    | .ok .ignored => .moved system
    | .ok (.recorded core) => .moved { system with core := core }
    | .ok (.sent run entering core) =>
        let system := { system with core := core }
        .moved ((if entering then system.entered else system).sendSignal run signal)

def onConclude (system : System) (outcome : Except Fault Unit) : Move :=
  match system.lock with
  | some (.signalling _ _) =>
      match system.core.concluded outcome with
      | .error violation => .broken violation
      | .ok events => .moved { system.put events with lock := none }
  | _ => .blocked

def onSend (system : System) (run : Nat) (source : Source) (message : Message) : Move :=
  match system.findReader run source with
  | none => .blocked
  | some thread => .moved (system.setReader { thread with stream := thread.stream ++ [message] })

def outputEvent (source : Source) (text : Option String) : List Event :=
  (text.map fun text => Event.output ⟨source, text⟩).toList

def onRead (system : System) (run : Nat) (source : Source) : Move :=
  match system.findReader run source with
  | none => .blocked
  | some thread =>
      if thread.announcing then .blocked
      else
        match thread.stream.read (Stream.request system.config.chunkSize) with
        | none => .blocked
        | some (.again, rest) => .moved (system.setReader { thread with stream := rest })
        | some (.ended, _) =>
            .moved ((system.put (outputEvent source thread.reader.flush)).endReader run source)
        | some (.chunk bytes, rest) =>
            let step := thread.reader.accept bytes
            .moved ((system.put (outputEvent source step.output)).setReader
              { thread with stream := rest, reader := step.reader, announcing := step.ready })

def onAnnounce (system : System) (run : Nat) : Move :=
  if !system.isFree then .blocked
  else
    match system.findReader run .stdout with
    | none => .blocked
    | some thread =>
        if !thread.announcing then .blocked
        else
          let told := system.setReader { thread with announcing := false }
          match system.core.ready run with
          | .error violation => .broken violation
          | .ok none => .moved told
          | .ok (some core) => .moved { told with core := core }.entered

def onReport (system : System) (run : Nat) (exit : Exit) : Move :=
  if !system.isFree || !system.reportable.contains run then .blocked
  else
    let system := { system with reportable := system.reportable.erase run }
    match system.core.flagExit run with
    | none => .moved system
    | some (awaited, core) =>
        let teardown : Teardown := { run, exit, awaited }
        let system := { system with core := core, teardowns := system.teardowns ++ [teardown] }
        .moved (system.record run fun entry => { entry with exit := some exit.describe })

def onTeardown (system : System) (run : Nat) : Move :=
  if !system.isFree then .blocked
  else
    match system.teardowns.find? fun teardown => teardown.run = run with
    | none => .blocked
    | some teardown =>
        if teardown.awaited.any fun source => (system.findReader run source).isSome then .blocked
        else
          match system.core.finish with
          | .error violation => .broken violation
          | .ok core =>
              let system :=
                { system with core := core, teardowns := system.teardowns.erase teardown }
              .moved (system.put [stoppedLine teardown.exit]).entered

def onDeliver (system : System) : Move :=
  match system.queue.deliver with
  | none => .blocked
  | some queue => .moved { system with queue := queue }

def onSettle (system : System) : Move :=
  if !system.queue.busy || system.closing.holdsCallback then .blocked
  else .moved { system with queue := system.queue.settle }

def onAwait (system : System) (target : State) : Move :=
  if !system.isOpen then .blocked
  else .moved { system with waiters := system.waiters ++ [{ target, phase := .entering }] }

def setWaiter (system : System) (index : Nat) (waiter : Waiter) : System :=
  { system with waiters := system.waiters.set index waiter }

def onLook (system : System) (index : Nat) : Move :=
  if !system.isFree then .blocked
  else
    match system.waiters[index]? with
    | none => .blocked
    | some waiter =>
        match waiter.phase with
        | .entering | .woken =>
            let phase :=
              if system.core.state = waiter.target then WaitPhase.returned true else .asleep
            .moved (system.setWaiter index { waiter with phase := phase })
        | .asleep | .returned _ => .blocked

-- A caller whose time is up looks once more and goes away with what it sees.
def onExpire (system : System) (index : Nat) : Move :=
  if !system.isFree then .blocked
  else
    match system.waiters[index]? with
    | none => .blocked
    | some waiter =>
        match waiter.phase with
        | .asleep | .woken =>
            .moved (system.setWaiter index
              { waiter with phase := .returned (system.core.state = waiter.target) })
        | .entering | .returned _ => .blocked

def hasReturned (waiter : Waiter) : Bool :=
  match waiter.phase with
  | .returned _ => true
  | _ => false

def onDispose (system : System) (inside : Bool) : Move :=
  if !system.isOpen || !system.windows.isEmpty || !system.waiters.all hasReturned ||
      (inside && !system.queue.busy) then .blocked
  else .moved { system with closing := .requesting inside }

def onDisposeRequest (system : System) : Move :=
  match system.closing with
  | .requesting inside =>
      match onRequest system .graceful with
      | .moved system => .moved { system with closing := .waiting inside .entering }
      | other => other
  | _ => .blocked

def onDisposeLook (system : System) : Move :=
  if !system.isFree then .blocked
  else
    match system.closing with
    | .waiting inside .entering | .waiting inside .woken =>
        let phase := if system.core.state = .stopped then WaitPhase.returned true else .asleep
        .moved { system with closing := .waiting inside phase }
    | _ => .blocked

def onDisposeClose (system : System) : Move :=
  match system.closing with
  | .waiting _ (.returned _) =>
      .moved { system with queue := system.queue.put .shutdown, closing := .closed }
  | _ => .blocked

def act (system : System) : Action → Move
  | .start => system.onStart
  | .fail run => system.onFail run
  | .attach run handle => system.onAttach run handle
  | .watch refusal => system.onWatch refusal
  | .takePending => system.onTakePending
  | .request signal => if system.isOpen then system.onRequest signal else .blocked
  | .conclude outcome => system.onConclude outcome
  | .send run source message => system.onSend run source message
  | .read run source => system.onRead run source
  | .announce run => system.onAnnounce run
  | .report run exit => system.onReport run exit
  | .teardown run => system.onTeardown run
  | .deliver => system.onDeliver
  | .settle => system.onSettle
  | .await target => system.onAwait target
  | .look waiter => system.onLook waiter
  | .expire waiter => system.onExpire waiter
  | .dispose inside => system.onDispose inside
  | .disposeRequest => system.onDisposeRequest
  | .disposeLook => system.onDisposeLook
  | .disposeClose => system.onDisposeClose

def actAll (system : System) : List Action → Option System
  | [] => some system
  | action :: actions =>
      match system.act action with
      | .moved next => next.actAll actions
      | .blocked | .broken _ => none

end System

def installing (run : Nat) (handle : Handle) : List Action :=
  .attach run handle :: handle.streams.map (fun _ => .watch none) ++ [.takePending]

inductive Execution (config : Config) : List Action → System → Prop
  | initial : Execution config [] (System.new config)
  | step {actions : List Action} {before after : System} {action : Action} :
      Execution config actions before → before.act action = .moved after →
      Execution config (actions ++ [action]) after

def Reachable (config : Config) (system : System) : Prop :=
  ∃ actions, Execution config actions system

end Overseer.Supervisor
