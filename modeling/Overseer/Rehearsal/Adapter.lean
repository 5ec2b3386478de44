import Overseer.Adapter.ExitWatch
import Overseer.Adapter.Streams
import Overseer.Machine.Spawn

namespace Overseer.Rehearsal

open Overseer.Adapter
open Overseer.Machine

-- A real process is spawned, watched and signalled, without a supervisor.

inductive Registration
  | atOnce
  | late
  | never
deriving DecidableEq

structure AdapterPlan where
  arguments : List String
  registration : Registration
  awaited : Option (List UInt8)
  signals : List Signal
  -- Sent after the exit was reported.
  after : List Signal

structure AdapterTrial where
  machine : Machine
  spawned : Spawned
  watch : ExitWatch Nat
  streams : Streams
  -- What was read, the newest byte first.
  output : List UInt8
  errors : List UInt8

structure AdapterResult where
  output : List UInt8
  errors : List UInt8
  streamsAgain : Bool
  signals : List (Except Fault Unit)
  after : List (Except Fault Unit)
  exit : Option Exit
  secondReport : Bool

namespace AdapterTrial

def patience : Nat := 60000 * millisecond

-- What processes have time for when they are left alone for a moment.
def moment : Nat := 40 * millisecond

def observe (trial : AdapterTrial) : AdapterTrial :=
  let (output, machine) := trial.machine.drain trial.spawned.output
  let (errors, machine) := machine.drain trial.spawned.errors
  let trial := { trial with
    machine
    output := output.reverse ++ trial.output
    errors := errors.reverse ++ trial.errors }
  match (trial.machine.process? trial.spawned.pid).bind Process.ended with
  | none => trial
  | some ending =>
      { trial with
        machine := trial.machine.forget trial.spawned.pid
        watch := (trial.watch.act (.exit ending.exit)).getD trial.watch }

def pass (limit : Nat) (trial : AdapterTrial) : AdapterTrial :=
  let trial := { trial with machine := trial.machine.pass limit }.observe
  { trial with watch := trial.watch.watch }

def passUntil (limit : Nat) (isDone : AdapterTrial → Bool) : Nat → AdapterTrial → AdapterTrial
  | 0, trial => trial
  | fuel + 1, trial =>
      if isDone trial || limit ≤ trial.machine.clock then trial
      else passUntil limit isDone fuel (trial.pass limit)

def waitFor (time : Nat) (isDone : AdapterTrial → Bool) (trial : AdapterTrial) : AdapterTrial :=
  passUntil (trial.machine.clock + time) isDone (time + 1) trial

def register (callback : Nat) (trial : AdapterTrial) : AdapterTrial :=
  let watch := (trial.watch.act (.register callback)).getD trial.watch
  { trial with watch := watch.watch }

def terminate (trial : AdapterTrial) (signal : Signal) : Except Fault Unit × AdapterTrial :=
  let (outcome, machine) := terminateGroup trial.machine trial.spawned.pid signal
  (outcome, { trial with machine, watch := (trial.watch.act (.terminate signal)).getD trial.watch })

def terminateAll (trial : AdapterTrial) : List Signal → List (Except Fault Unit) × AdapterTrial
  | [] => ([], trial)
  | signal :: signals =>
      let (outcome, trial) := trial.terminate signal
      let (outcomes, trial) := trial.terminateAll signals
      (outcome :: outcomes, trial)

def isDry (trial : AdapterTrial) : Bool :=
  Machine.isDry trial.machine trial.spawned.output &&
    Machine.isDry trial.machine trial.spawned.errors

def takeStreams (trial : AdapterTrial) : Bool × AdapterTrial :=
  let (output, streams) := trial.streams.take .stdout
  let (errors, streams) := streams.take .stderr
  (output || errors, { trial with streams })

def firstCallback : Nat := 1

def secondCallback : Nat := 2

def run (files : Files) (plan : AdapterPlan) : Except Fault AdapterResult := do
  let (spawned, machine) ← spawn (.boot files) plan.arguments
  let trial : AdapterTrial := ⟨machine, spawned, .new, .both, [], []⟩
  let (_, trial) := trial.takeStreams
  let (again, trial) := trial.takeStreams
  let trial := if plan.registration = .atOnce then trial.register firstCallback else trial
  let trial :=
    match plan.awaited with
    | none => trial
    | some awaited =>
        (trial.waitFor patience fun trial => awaited.reverse.isPrefixOf trial.output || trial.isDry)
          |>.waitFor moment fun _ => false
  let (signals, trial) := trial.terminateAll plan.signals
  let trial := trial.waitFor patience isDry
  let trial := if plan.registration = .late then trial.register firstCallback else trial
  let trial :=
    if plan.registration = .never then trial
    else
      (trial.waitFor patience fun trial => !trial.watch.invoked.isEmpty).register secondCallback
  let (after, trial) := trial.terminateAll plan.after
  pure
    { output := trial.output.reverse, errors := trial.errors.reverse
      streamsAgain := again, signals, after
      exit := trial.watch.invoked.lookup firstCallback
      secondReport := (trial.watch.invoked.lookup secondCallback).isSome }

end AdapterTrial

end Overseer.Rehearsal
