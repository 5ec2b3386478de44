import Overseer.Event
import Overseer.Exit
import Overseer.Fault
import Overseer.Rehearsal.Script

namespace Overseer.Rehearsal

-- Processes that behave as a script says.

-- What a termination request to a process comes to.
inductive Compliance
  | accepted
  | refused (reason : String)
  | broken (reason : String)

def Compliance.outcome (pid : Pid) : Compliance → Except Fault Unit
  | accepted => .ok ()
  | refused reason => .error (.terminationFailed pid reason)
  | broken reason => .error (.io reason)

structure ScriptedProcess where
  run : Nat
  pid : Pid
  obedient : Bool
  compliance : List Compliance
  received : Array Signal

namespace ScriptedProcess

def comply (process : ScriptedProcess) : Except Fault Unit :=
  (answer process.compliance .accepted process.received.size).outcome process.pid

def receive (process : ScriptedProcess) (signal : Signal) : ScriptedProcess :=
  { process with received := process.received.push signal }

-- From here on every request is accepted and obeyed.
def tame (process : ScriptedProcess) : ScriptedProcess :=
  { process with obedient := true, compliance := [] }

end ScriptedProcess

def obeyed (signal : Signal) : Exit := .ofSignal (Int32.ofNat signal.number)

inductive SpawnFailure
  | refused (reason : String)
  | broken (reason : String)

def SpawnFailure.fault (program : String) : SpawnFailure → Fault
  | refused reason => .spawnFailed program reason
  | broken reason => .io reason

def nextPid (spawned : Nat) : Pid := UInt32.ofNat (4100 + spawned)

end Overseer.Rehearsal
