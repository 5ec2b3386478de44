import Overseer.Event
import Overseer.Fault
import Overseer.Machine.Clock

namespace Overseer.Machine

open Overseer.Text

-- Processes that are started for supervision: each leads a group of its own,
-- reads nothing, and has both its output streams read from outside.

structure Spawned where
  pid : Nat
  output : Nat
  errors : Nat
deriving DecidableEq

def spawn (machine : Machine) (arguments : List String) :
    Except Fault (Spawned × Machine) :=
  match arguments with
  | [] => .error (.spawnFailed "" "empty argument vector")
  | program :: rest =>
      match programOf machine.clock machine.files machine.files.environment
          (Utf8.encode program) (rest.map Utf8.encode) with
      | .error failure => .error (.spawnFailed program failure.message)
      | .ok task =>
          let pid := machine.nextPid
          let (output, machine) := machine.newPipe true
          let (errors, machine) := machine.newPipe true
          let leader : Process :=
            { pid := pid, parent := outsider, group := pid, program := task.rootedAt pid
              files := [(0, .null), (1, .sink output), (2, .sink errors)]
              ignored := [], directory := none, held := none, ended := none }
          .ok (⟨pid, output, errors⟩, (machine.start leader).2)

def terminateGroup (machine : Machine) (pid : Nat) (signal : Signal) :
    Except Fault Unit × Machine :=
  let (found, machine) := machine.signalGroup pid signal.number
  if found then (.ok (), machine)
  else (.error (.terminationFailed (UInt32.ofNat pid) "ESRCH: No such process"), machine)

def drain (machine : Machine) (pipe : Nat) : Shell.Bytes × Machine :=
  (machine.content pipe, machine.setContent pipe [])

def isDry (machine : Machine) (pipe : Nat) : Bool :=
  (machine.content pipe).isEmpty && !machine.hasWriter pipe

end Overseer.Machine
