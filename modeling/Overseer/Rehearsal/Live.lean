import Overseer.Adapter.ExitWatch
import Overseer.Loader.Preflight
import Overseer.Machine.Spawn
import Overseer.Options
import Overseer.Rehearsal.Installed
import Overseer.Supervisor.Starting

namespace Overseer.Rehearsal

open Overseer.Adapter
open Overseer.Machine
open Overseer.Supervisor

-- A supervisor over processes that really run, on a machine of their own.

structure LiveRun where
  id : Nat
  spawned : Spawned
  watch : ExitWatch Nat
  ended : List Source

structure Live where
  system : System
  machine : Machine
  loader : Option Loader
  run : Option LiveRun

namespace Live

def patience : Nat := 10000 * millisecond

def moment : Nat := 60 * millisecond

-- How long news of a state takes to whoever waits for it.
def delay : Nat := millisecond

def new (config : Config) (files : Files) (loader : Option Loader) : Live :=
  ⟨.new config, .boot files, loader, none⟩

def take (live : Live) (action : Action) : Live :=
  { live with system := live.system.take action }

-- Answers the termination request that is under way, if there is one.
def conclude (live : Live) : Live :=
  match live.system.lock, live.run with
  | some (.signalling _ signal), some run =>
      let (outcome, machine) := terminateGroup live.machine run.spawned.pid signal
      { live with machine }.take (.conclude outcome)
  | _, _ => live

def request (live : Live) (signal : Signal) : Live := (live.take (.request signal)).conclude

def preflight (live : Live) (options : Options) : Except LoadFault Unit × Live :=
  match live.loader with
  | none => (.ok (), live)
  | some loader =>
      let (outcome, checked, _) :=
        Loader.preflight (openInstalled live.machine.files) () loader
          (Path.ofText options.runtimeHome)
      (outcome.map fun _ => (), { live with loader := some checked })

def launch (options : Options) (arguments : List String) (live : Live) :
    Except Fault (Spawned × Machine) × Live :=
  match live.preflight options with
  | (.error fault, live) => (.error (.runtime fault), live)
  | (.ok _, live) => (spawn live.machine arguments, live)

def host : Host Live := ⟨system, take, fun _ _ => rfl⟩

def install (id : Nat) (made : Spawned × Machine) (live : Live) : Live :=
  let (spawned, machine) := made
  let watch := (ExitWatch.new.act (.register id)).getD .new
  let handle : Handle := ⟨UInt32.ofNat spawned.pid, true, true⟩
  conclude
    { live with
      machine
      run := some ⟨id, spawned, watch, []⟩
      system := live.system.takeAll (installing id handle) }

def start (live : Live) (options : Options) (arguments : List String) :
    Except Fault Unit × Live :=
  host.start (launch options arguments) install live

def passOn (live : Live) (run : LiveRun) (source : Source) (pipe : Nat) : Live :=
  let (bytes, machine) := live.machine.drain pipe
  let system :=
    if bytes.isEmpty then live.system else live.system.arrive run.id source (.data bytes)
  if Machine.isDry machine pipe && !run.ended.contains source then
    { live with
      machine, system := system.close run.id [source]
      run := live.run.map fun run => { run with ended := source :: run.ended } }
  else { live with machine, system }

-- The watcher does its part, and its callback reports the exit.
def report (live : Live) (run : LiveRun) : Live :=
  let watch :=
    match (live.machine.process? run.spawned.pid).bind Process.ended with
    | none => run.watch
    | some ending => (run.watch.act (.exit ending.exit)).getD run.watch
  let watched := watch.watch
  let live := { live with
    run := live.run.map fun run => { run with watch := watched }
    machine := if watch.exited.isSome then live.machine.forget run.spawned.pid else live.machine }
  match watched.invoked.drop run.watch.invoked.length with
  | (id, exit) :: _ => live.take (.report id exit)
  | [] => live

def observe (live : Live) : Live :=
  match live.run with
  | none => { live with system := live.system.handOver }
  | some run =>
      let live := (live.passOn run .stdout run.spawned.output).passOn run .stderr run.spawned.errors
      let live :=
        match live.run with
        | some run => live.report run
        | none => live
      { live with system := live.system.tearDown.handOver }

def pass (limit : Nat) (live : Live) : Live :=
  { live with machine := live.machine.pass limit }.observe

-- Disposes of the supervisor, up to the point where it waits for the end.
def dispose (live : Live) : Live :=
  ((live.take (.dispose false)).take .disposeRequest).conclude

def disposeEnd (live : Live) : Live :=
  let live := (live.take .disposeLook).take .disposeClose
  { live with system := live.system.handOver }

def isIn (live : Live) (state : State) : Bool := live.system.core.state = state

def passUntil (limit : Nat) (isDone : Live → Bool) : Nat → Live → Live
  | 0, live => live
  | fuel + 1, live =>
      if isDone live || limit ≤ live.machine.clock then live
      else passUntil limit isDone fuel (live.pass limit)

def waitFor (live : Live) (state : State) : Live :=
  passUntil (live.machine.clock + patience) (fun live => live.isIn state) (patience + 1)
    live.observe

def idle (live : Live) (time : Nat) : Live :=
  passUntil (live.machine.clock + time) (fun _ => false) (time + 1) live

def events (live : Live) : List Event := live.system.queue.handed

end Live

-- A supervised process from its start to its end.

inductive Closure
  | stop
  | kill
  | stopAndKill
  | drop
  | nothing
deriving DecidableEq

structure LiveResult where
  reached : Bool
  stopped : Bool
  events : List Event

namespace Live

def close (live : Live) (closure : Closure) : Live :=
  match closure with
  | .stop => live.request .graceful
  | .kill => live.request .force
  | .stopAndKill => (live.request .graceful).request .force
  | .drop => live.dispose
  | .nothing => live

def session (live : Live) (options : Options) (arguments : List String) (awaited : State)
    (closure : Closure) : Except (Fault × Live) LiveResult :=
  match live.start options arguments with
  | (.error fault, live) => .error (fault, live.observe)
  | (.ok _, live) =>
      let live := live.waitFor awaited
      let reached := live.isIn awaited
      let live := ((live.idle delay).close closure).waitFor .stopped
      let stopped := live.isIn .stopped
      let live := if closure = .drop then live else (live.dispose.waitFor .stopped)
      .ok ⟨reached, stopped, live.disposeEnd.events⟩

end Live

end Overseer.Rehearsal
