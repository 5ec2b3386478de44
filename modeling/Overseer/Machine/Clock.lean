import Overseer.Machine.Errands
import Overseer.Machine.Shell

namespace Overseer

-- How the machine's time passes: in rounds, in each of which every process
-- that can do something takes a step, or in leaps when all of them wait.

namespace Machine

open Overseer.Shell
open Overseer.Text

def isReady (machine : Machine) (process : Process) : Bool :=
  process.ended.isNone && process.held.isNone &&
    match process.program with
    | .shell state => Task.ready machine state
    | .sleep wake => wake ≤ machine.clock
    | .copy _ | .head _ _ | .script _ _ | .gathering _ _ =>
        match machine.input (target? process 0) with
        | .nothing => false
        | _ => true
    | .print _ _ _ | .apart _ _ | .tool _ => true

def stepProcess (machine : Machine) (pid : Nat) : Machine :=
  match machine.process? pid with
  | none => machine
  | some process =>
      if !machine.isReady process then machine
      else
        match process.program with
        | .shell state => (Task.step ⟨machine, process, state, false, false⟩).done
        | program => machine.stepProgram process program

def wakeOf : Program → Option Nat
  | .sleep wake => some wake
  | .shell state =>
      match state.frames with
      | .starting wake :: _ => some wake
      | _ => if state.caught.isEmpty then none else some state.rouse
  | _ => none

def nextWake (machine : Machine) : Option Nat :=
  let wakes := machine.processes.filterMap fun process =>
    if process.ended.isNone && process.held.isNone then wakeOf process.program else none
  (wakes.filter fun wake => machine.clock < wake).min?

-- One round, or a leap to the next moment when something happens. The clock
-- goes on in any case, and not beyond the limit.
def pass (limit : Nat) (machine : Machine) : Machine :=
  let machine := machine.sweep
  let ready := (machine.processes.filter machine.isReady).map Process.pid
  if ready.isEmpty then
    let next := match machine.nextWake with
      | some wake => min wake limit
      | none => limit
    { machine with clock := max next (machine.clock + 1) }
  else
    let machine := ready.foldl stepProcess machine
    { machine with clock := machine.clock + 1 }

end Machine

end Overseer
