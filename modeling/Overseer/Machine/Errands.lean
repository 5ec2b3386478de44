import Overseer.Machine.Redirection

namespace Overseer

-- Programs at work, besides shells.

namespace Machine

open Overseer.Shell
open Overseer.Text

def conclude (machine : Machine) (pid : Nat) (status : Nat) : Machine :=
  if machine.isOver pid then machine else machine.finish pid (.exited status)

def become (machine : Machine) (pid : Nat) (program : Program) : Machine :=
  machine.change pid fun process => { process with program }

def errandDesk (machine : Machine) (process : Process) (errand : Errand) (input : Option Bytes) :
    Tool.Desk :=
  let files := { machine.files with here := process.directory }
  ((Tool.work errand.name errand.arguments).run
    (.start errand.called files errand.environment input)).2

def deliver (machine : Machine) (process : Process) (desk : Tool.Desk) : Machine :=
  let machine := { machine with files := { desk.files with here := machine.files.here } }
  let written := desk.written.reverse
  let prints := written.any fun part => !part.1 && !part.2.isEmpty
  let target (isComplaint : Bool) := target? process (if isComplaint then 2 else 1)
  let machine := written.foldl
    (fun machine (isComplaint, bytes) => machine.write process.pid (target isComplaint) bytes)
    machine
  match if prints then machine.writeFault? (target false) else none with
  | none => machine.conclude process.pid desk.status
  | some reason =>
      let text := desk.name ++ Utf8.encode (": write error: " ++ reason ++ "\n")
      (machine.write process.pid (target true) text).conclude process.pid (max desk.status 1)

def copyStep (machine : Machine) (process : Process) (called : Bytes) : Machine :=
  let pid := process.pid
  let refused (texts : List String) : Machine :=
    let text := texts.flatMap fun text => called ++ Utf8.encode (": " ++ text ++ "\n")
    (machine.write pid (target? process 2) text).conclude pid 1
  if (target? process 1).isNone then refused ["standard output: Bad file descriptor"]
  else if (target? process 0).isNone then
    refused ["-: Bad file descriptor", "closing standard input: Bad file descriptor"]
  else
    match machine.input (target? process 0) with
    | .bytes bytes =>
        match machine.writeFault? (target? process 1) with
        | some reason => refused ["write error: " ++ reason]
        | none =>
            (machine.consume (target? process 0) bytes.length).write pid (target? process 1) bytes
    | .nothing => machine
    | .atEnd => machine.conclude pid 0

def gatherStep (machine : Machine) (process : Process) (errand : Errand) (seen : Bytes) :
    Machine :=
  match machine.input (target? process 0) with
  | .bytes bytes =>
      (machine.consume (target? process 0) bytes.length).become process.pid
        (.gathering errand (bytes.reverse ++ seen))
  | .nothing => machine
  | .atEnd => machine.deliver process (machine.errandDesk process errand (some seen.reverse))

def stepProgram (machine : Machine) (process : Process) (program : Program) : Machine :=
  let pid := process.pid
  match program with
  | .shell _ => machine
  | .sleep _ => machine.conclude pid 0
  | .print output errors status =>
      let printed := machine.write pid (target? process 1) output
      (printed.write pid (target? process 2) errors).conclude pid status
  | .copy called => machine.copyStep process called
  | .tool errand =>
      -- It is tried without its input first, which it may not need.
      let desk := machine.errandDesk process errand none
      if desk.waits then machine.become pid (.gathering errand [])
      else machine.deliver process desk
  | .gathering errand seen => machine.gatherStep process errand seen
  | .script scope seen =>
      match machine.input (target? process 0) with
      | .bytes bytes =>
          (machine.consume (target? process 0) bytes.length).become pid
            (.script scope (bytes.reverse ++ seen))
      | .nothing => machine
      | .atEnd => machine.become pid (shellStart 1 scope (Utf8.text seen.reverse).toList)
  | .apart forks inner =>
      if process.group ≠ pid && !forks then
        machine.change pid fun process =>
          { process with program := inner.rootedAt pid, group := pid }
      else
        let child := machine.nextPid
        let process := { process with
          parent := adoptive, group := child, program := inner.rootedAt child }
        (machine.start process).2.conclude pid 0
  | .head lines count =>
      match machine.input (target? process 0) with
      | .bytes bytes =>
          let (taken, left) := Tool.takeHead lines count bytes
          -- What was read beyond the end is given back if it can be.
          let used := match target? process 0 with
            | some (.opened _) => taken.length
            | _ => bytes.length
          let machine := (machine.consume (target? process 0) used).write pid
            (target? process 1) taken
          if left = 0 then machine.conclude pid 0 else machine.become pid (.head lines left)
      | .nothing => machine
      | .atEnd => machine.conclude pid 0

end Machine

end Overseer
