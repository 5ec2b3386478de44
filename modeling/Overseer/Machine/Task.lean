import Overseer.Machine.Matching
import Overseer.Machine.Redirection

namespace Overseer.Machine

open Overseer.Shell
open Overseer.Text

-- A shell at work on a machine.
structure Task where
  machine : Machine
  process : Process
  state : ShellState
  replaced : Bool
  forgiving : Bool

namespace Task

-- The machine with what the shell has become. A shell that is over stays so.
def done (task : Task) : Machine :=
  task.machine.change task.process.pid fun process =>
    if process.ended.isSome || task.replaced then process
    else
      match process.program with
      | .shell state =>
          { process with
            program := .shell { task.state with caught := state.caught, rouse := state.rouse }
            files := task.process.files
            ignored := task.process.ignored
            directory := task.process.directory }
      | _ => process

def files (task : Task) : Files := { task.machine.files with here := task.process.directory }

def scope (task : Task) : Scope := task.state.scope

def setFrames (task : Task) (frames : List Frame) : Task :=
  { task with state := { task.state with frames } }

def push (task : Task) (frames : List Frame) : Task :=
  task.setFrames (frames ++ task.state.frames)

def setScope (task : Task) (scope : Scope) : Task :=
  { task with state := { task.state with scope } }

def setStatus (task : Task) (status : Nat) : Task := task.setScope { task.scope with status }

def setFiles (task : Task) (files : Descriptors) : Task :=
  { task with process := { task.process with files } }

def print (task : Task) (descriptor : Nat) (bytes : Bytes) : Task :=
  { task with
    machine := task.machine.write task.process.pid (target? task.process descriptor) bytes }

def complain (task : Task) (line : Nat) (text : Bytes) (status : Nat) : Task :=
  (task.print 2 (task.scope.name ++ Utf8.encode (": " ++ toString line ++ ": ") ++ text ++
    [10])).setStatus status

def fail (task : Task) (line : Nat) (text : Bytes) : Task :=
  let task := task.complain line text 2
  if task.forgiving then task else task.setFrames [.leave]

def evaluates (task : Task) : Bool :=
  task.state.evaluates || task.state.frames.any fun frame => frame matches .evaluated

def named (task : Task) (text : Bytes) : Bytes :=
  if task.evaluates then Utf8.encode "eval: " ++ text else text

def expanding {α : Type} (task : Task) (line : Nat) (action : Expanding α)
    (next : α → Task → Task) : Task :=
  match action.run task.scope with
  | .ok (value, scope) => next value (task.setScope scope)
  | .error refusal => task.fail line (task.named refusal.message)

-- The arguments that fields stand for, unless they stand for themselves alone.
def arguments (task : Task) (fields : List Field) : List Bytes :=
  if task.scope.has 102 then fields.map Field.text else fields.flatMap task.files.matching

def redirecting (task : Task) (line : Nat) (redirects : List Redirect)
    (next : Except Bytes Descriptors → Task → Task) : Task :=
  let outcome := redirected task.process task.machine task.process.files redirects
  task.expanding line outcome fun (files, machine) task => next files { task with machine }

-- A child that goes on with other frames. Traps with actions do not reach it.
def fork (task : Task) (frames : List Frame) (files : Descriptors) : Nat × Task :=
  let state := { task.state with
    frames := frames, caught := [], jobs := [], yields := true, evaluates := task.evaluates
    traps := task.state.traps.filter fun trap => trap.2.isEmpty }
  let child := { task.process with
    parent := task.process.pid, program := .shell state, files := files
    held := none, ended := none }
  let (pid, machine) := task.machine.start child
  (pid, { task with machine })

def launch (task : Task) (program : Program) (files : Descriptors) : Nat × Task :=
  let child := { task.process with
    parent := task.process.pid, program := program.rootedAt task.machine.nextPid
    files := files, held := none, ended := none }
  let (pid, machine) := task.machine.start child
  (pid, { task with machine })

-- A command in the background reads nothing and is not interrupted from the
-- keyboard, once it has begun.
def background (task : Task) (command : Command) : Task :=
  let frames := [.starting (task.machine.clock + headStart), .command command]
  let (pid, task) := task.fork frames (withFile task.process.files 0 .null)
  let used := task.state.jobs.filter fun job => job.told.isNone
  let taken (number : Nat) : Bool := used.any fun job => job.number = number
  let number := ((List.range (used.length + 1)).find? fun i => !taken (i + 1)).getD 0 + 1
  { task with
    state := { task.state with
      jobs := ⟨number, pid, none⟩ :: task.state.jobs.filter fun job => job.number ≠ number
      scope := { task.scope with status := 0, lastBackground := some pid } } }

def connect (task : Task) (source sink : Command) : Task :=
  let (pipe, machine) := task.machine.newPipe false
  let task := { task with machine }
  let (first, task) :=
    task.fork [.command source] (withFile task.process.files 1 (.sink pipe))
  let (second, task) :=
    task.fork [.command sink] (withFile task.process.files 0 (.source pipe))
  task.push [.awaitChild first, .awaitChild second]

-- A child is waited for. What it died of is told, unless that is usual.
def reap (task : Task) (pid : Nat) (ending : Ending) : Task :=
  let jobs := task.state.jobs.map fun job =>
    if job.pid = pid then { job with told := some ending } else job
  let task := { task with
    machine := task.machine.forget pid, state := { task.state with jobs } }
  let task := task.setStatus ending.status
  match ending with
  | .signal number =>
      if number = interrupt || number = brokenPipe then task
      else task.print 2 (Utf8.encode (meaning number ++ "\n"))
  | .code _ => task

def ending? (task : Task) (pid : Nat) : Option Ending :=
  (task.machine.process? pid).bind Process.ended

def become (task : Task) (program : Program) : Task :=
  { task with
    replaced := true
    machine := task.machine.change task.process.pid fun process =>
      if process.ended.isSome then process
      else
        { process with
          program := program.rootedAt process.pid, files := task.process.files } }

def commandsOf (text : Bytes) : Frame := .lines (Token.ofScript 1 (Utf8.text text).toList)

end Task

end Overseer.Machine
