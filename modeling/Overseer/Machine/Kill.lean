import Overseer.Machine.Task

namespace Overseer.Machine

open Overseer.Shell
open Overseer.Text

-- Signals that a shell sends, and those that it catches.

-- The largest number that a command takes.
def largestNumber : Nat := 2147483647

def number? (bytes : Bytes) : Option Nat :=
  match integer? bytes with
  | some (.ofNat n) => if n ≤ largestNumber then some n else none
  | _ => none

inductive KillRequest
  | send (number : Nat) (targets : List Bytes)
  | noTarget
  | noName
  | badName (name : Bytes)
  | badOption (letter : UInt8)

def KillRequest.sending (number : Nat) (targets : List Bytes) : KillRequest :=
  if targets.isEmpty then .noTarget else .send number targets

def KillRequest.named (name : Bytes) (targets : List Bytes) : KillRequest :=
  match signalNumber? (Utf8.text name) with
  | some number => .sending number targets
  | none => .badName name

-- A signal is given right after the hyphen or as an option. After an option
-- two hyphens may stand before the targets.
def killRequest (arguments : List Bytes) : KillRequest :=
  let targets (rest : List Bytes) : List Bytes :=
    if rest.head? = some (Utf8.encode "--") then rest.drop 1 else rest
  match arguments with
  | (45 :: name) :: rest =>
      match (if name.isEmpty then none else signalNumber? (Utf8.text name)), name with
      | some number, _ => .sending number rest
      | none, [45] => .sending terminate rest
      | none, [115] =>
          match rest with
          | [] => .noName
          | name :: rest => .named name (targets rest)
      | none, 115 :: name => .named name (targets rest)
      | none, letter :: _ => .badOption letter
      | none, [] => .sending terminate arguments
  | _ => .sending terminate arguments

def killUsage : String :=
  "kill: Usage: kill [-s sigspec | -signum | -sigspec] [pid | job]... or\nkill -l [exitstatus]"

namespace Task

def killEach (number : Nat) (line : Nat) : List Bytes → Task → Task
  | [], task => task
  | argument :: others, task =>
      let missing (task : Task) : Task :=
        task.complain line (Utf8.encode "kill: No such process\n") 1
      match integer? argument with
      | none =>
          task.complain line (Utf8.encode "kill: Illegal number: " ++
            argument.drop (if argument.head? = some 45 then 1 else 0)) 2
      | some n =>
        let group := if n = 0 then task.process.group else n.natAbs
        let (found, machine) :=
          if n ≤ 0 then task.machine.signalGroup group number
          else
            (n = adoptive || (task.machine.process? n.natAbs).isSome,
              task.machine.signal n.natAbs number)
        let task := { task with machine }
        killEach number line others (if found then task else missing task)

def killAll (task : Task) (line : Nat) (arguments : List Bytes) : Task :=
  match killRequest arguments with
  | .send number targets => killEach number line targets (task.setStatus 0)
  | .noTarget => task.complain line (Utf8.encode killUsage) 2
  | .noName => task.complain line (Utf8.encode "kill: No arg for -s option") 2
  | .badName name =>
      task.complain line (Utf8.encode "kill: invalid signal number or name: " ++ name) 2
  | .badOption letter => task.complain line (Utf8.encode "kill: Illegal option -" ++ [letter]) 2

-- The end of the shell can be caught like a signal.
def trapNumber? (name : Bytes) : Option Nat :=
  if name.isEmpty then none
  else
    let text := Utf8.text name
    if text.toUpper = "EXIT" then some 0 else signalNumber? text

def setTrap (action : Bytes) (task : Task) (number : Nat) : Task :=
  let others := task.state.traps.filter fun trap => trap.1 ≠ number
  let ignored := task.process.ignored.filter fun other => other ≠ number
  { task with
    state := { task.state with
      traps := if action = [45] then others else (number, action) :: others }
    process := { task.process with
      ignored := if action.isEmpty && number ≠ 0 then number :: ignored else ignored } }

def setTraps (action : Bytes) : List Bytes → Task → Task
  | [], task => task
  | name :: names, task =>
      match trapNumber? name with
      | some number => setTraps action names (setTrap action task number)
      | none =>
          (task.print 2 (Utf8.encode "trap: " ++ name ++ Utf8.encode ": bad trap\n")).setStatus 1

def changeTraps (task : Task) (arguments : List Bytes) : Task :=
  match arguments with
  | [] => task
  | [name] => setTraps [45] [name] task
  | action :: names =>
      if (number? action).any (· ≤ lastSignal) then setTraps [45] arguments task
      else setTraps action names task

def trap (task : Task) (line : Nat) (arguments : List Bytes) : Task :=
  let task := task.setStatus 0
  match arguments with
  | (45 :: letter :: _) :: rest =>
      if letter = 45 then task.changeTraps rest
      else task.fail line (Utf8.encode "trap: Illegal option -" ++ [letter])
  | _ => task.changeTraps arguments

end Task

end Overseer.Machine
