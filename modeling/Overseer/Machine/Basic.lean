import Overseer.Machine.Signals
import Overseer.Machine.Storage
import Overseer.Shell.Alias
import Overseer.Shell.Fields

namespace Overseer.Machine

open Overseer.Shell

-- A small computer on which supervised processes run: processes in groups,
-- pipes between them, signals and a clock. Time passes only here, so a
-- process that sleeps is over as soon as nothing else can happen before.

-- The clock counts tenths of a millisecond.
def millisecond : Nat := 10

inductive Target
  | null
  | source (pipe : Nat)
  | sink (pipe : Nat)
  | zeros
  | full
  | opened (opening : Nat)
deriving DecidableEq

inductive Frame
  | starting (wake : Nat)
  | command (command : Command)
  -- A script of which some lines were carried out.
  | lines (tokens : List Token)
  | next (onSuccess : Bool) (command : Command)
  | negate
  | choose (yes no : Command)
  | tested (onSuccess : Bool) (condition body : Command)
  | again (onSuccess : Bool) (condition body : Command)
  | each (line : Nat) (name : String) (values : List Bytes) (body : Command)
  | restore (files : List (Nat × Target))
  | awaitChild (pid : Nat)
  | awaitJob (pid : Nat)
  | awaitJobs
  | collect (pipe pid : Nat) (command : Command)
  | untrap (status : Nat)
  -- A function is over; the arguments are as they were before, and so are the
  -- parameters that were assigned for it.
  | leaveCall (arguments : List Bytes) (saved : List (String × Option Bytes))
  | evaluated
  | checked
  | leave

structure Job where
  number : Nat
  pid : Nat
  told : Option Ending

structure ShellState where
  scope : Scope
  frames : List Frame
  -- Actions for signals; number zero is the end of the shell.
  traps : List (Nat × Bytes)
  -- Signals that came and whose actions have not begun, and when they wake the
  -- shell up if it waits.
  caught : List Nat
  rouse : Nat
  jobs : List Job
  -- The outcome of the last script in the command that is expanded.
  printed : Nat
  functions : List (String × Command)
  aliases : Aliases
  -- The last command takes the shell's place.
  yields : Bool
  evaluates : Bool

-- A program that reads all of its input, if it needs it, and then does
-- everything at once.
structure Errand where
  name : String
  called : Bytes
  arguments : List Bytes
  environment : List (String × Bytes)

inductive Program
  | shell (state : ShellState)
  | sleep (wake : Nat)
  | copy (called : Bytes)
  | head (lines : Bool) (count : Nat)
  | tool (errand : Errand)
  -- What was read is kept with the newest byte first.
  | gathering (errand : Errand) (seen : Bytes)
  | script (scope : Scope) (seen : Bytes)
  -- A program that leads a group of its own, in another process if it is asked
  -- to or has to be.
  | apart (forks : Bool) (inner : Program)
  | print (output errors : Bytes) (status : Nat)

def Program.rootedAt (pid : Nat) : Program → Program
  | .shell state => .shell { state with scope := { state.scope with root := pid } }
  | .script scope seen => .script { scope with root := pid } seen
  | program => program

structure Process where
  pid : Nat
  parent : Nat
  group : Nat
  program : Program
  files : List (Nat × Target)
  ignored : List Nat
  directory : Option Bytes
  -- Held by a signal, with the signals that came meanwhile.
  held : Option (List Nat)
  ended : Option Ending

end Machine

-- What was opened is read and written from one place on, which all share that
-- have it open.
structure Machine.Opening where
  node : Nat
  offset : Nat
  appends : Bool
  reads : Bool
  writes : Bool

structure Machine where
  clock : Nat
  nextPid : Nat
  nextPipe : Nat
  processes : List Machine.Process
  pipes : List (Nat × Shell.Bytes)
  outside : List Nat
  files : Machine.Files
  openings : List (Nat × Machine.Opening)
  nextOpening : Nat

namespace Machine

open Overseer.Shell

-- The parent of processes without one. It waits for all of them.
def adoptive : Nat := 1

def outsider : Nat := 0

-- Far from any number that scripts print or exit with.
def firstPid : Nat := 4000001

def boot (files : Files) : Machine :=
  { clock := 0, nextPid := firstPid, nextPipe := 0, processes := [], pipes := [], outside := []
    files, openings := [], nextOpening := 0 }

def process? (machine : Machine) (pid : Nat) : Option Process :=
  machine.processes.find? fun process => process.pid = pid

def change (machine : Machine) (pid : Nat) (change : Process → Process) : Machine :=
  { machine with
    processes := machine.processes.map fun process =>
      if process.pid = pid then change process else process }

def forget (machine : Machine) (pid : Nat) : Machine :=
  { machine with processes := machine.processes.filter fun process => process.pid ≠ pid }

def isOver (machine : Machine) (pid : Nat) : Bool :=
  match machine.process? pid with
  | some process => process.ended.isSome
  | none => true

def newPipe (machine : Machine) (outside : Bool) : Nat × Machine :=
  (machine.nextPipe,
    { machine with
      nextPipe := machine.nextPipe + 1
      pipes := machine.pipes ++ [(machine.nextPipe, [])]
      outside := if outside then machine.outside ++ [machine.nextPipe] else machine.outside })

def content (machine : Machine) (pipe : Nat) : Bytes := (machine.pipes.lookup pipe).getD []

def setContent (machine : Machine) (pipe : Nat) (bytes : Bytes) : Machine :=
  { machine with
    pipes := machine.pipes.map fun entry => if entry.1 = pipe then (pipe, bytes) else entry }

def holds (process : Process) (target : Target) : Bool :=
  process.files.any fun entry => entry.2 = target

def hasReader (machine : Machine) (pipe : Nat) : Bool :=
  machine.outside.contains pipe || machine.processes.any fun process => holds process (.source pipe)

def hasWriter (machine : Machine) (pipe : Nat) : Bool :=
  machine.processes.any fun process => holds process (.sink pipe)

def catches (process : Process) (number : Nat) : Bool :=
  match process.program with
  | .shell state => state.traps.any fun trap => trap.1 = number && !trap.2.isEmpty
  | _ => false

-- How long others go on before a process that was started or woken up gets its
-- turn.
def headStart : Nat := 2 * millisecond

def notice (machine : Machine) (number : Nat) (process : Process) : Process :=
  match process.program with
  | .shell state =>
      if !catches process number || state.caught.contains number then process
      else
        let rouse := if state.caught.isEmpty then machine.clock + headStart else state.rouse
        { process with program := .shell { state with caught := state.caught ++ [number], rouse } }
  | _ => process

-- A process ends: it gives its descriptors back and leaves its children. Its
-- parent hears of it.
def finish (machine : Machine) (pid : Nat) (ending : Ending) : Machine :=
  let parent := (machine.process? pid).map Process.parent
  { machine with
    processes := machine.processes.map fun process =>
      if process.pid = pid then { process with ended := some ending, files := [], held := none }
      else if process.parent = pid then { process with parent := adoptive }
      else if parent = some process.pid then machine.notice childEnded process
      else process }

def sweep (machine : Machine) : Machine :=
  { machine with
    processes := machine.processes.filter fun process =>
      !(process.parent = adoptive && process.ended.isSome) }

-- A signal takes effect at once, unless the process holds or catches it.
def receive (machine : Machine) (number : Nat) (process : Process) : Machine :=
  if process.ended.isSome || number = 0 then machine
  else if number = kill then machine.finish process.pid (.signal number)
  else if number = stop then
    machine.change process.pid fun process => { process with held := some (process.held.getD []) }
  else if process.ignored.contains number then machine
  else if catches process number then machine.change process.pid (machine.notice number)
  else if harmless.contains number then machine
  else if holding.contains number then
    machine.change process.pid fun process => { process with held := some (process.held.getD []) }
  else machine.finish process.pid (.signal number)

def signal (machine : Machine) (pid : Nat) (number : Nat) : Machine :=
  match machine.process? pid with
  | none => machine
  | some process =>
      match process.held with
      | none => machine.receive number process
      | some waiting =>
          if number = kill then machine.receive number process
          else if number = continued then
            let freed := machine.change pid fun process => { process with held := none }
            waiting.foldl
              (fun machine number =>
                match machine.process? pid with
                | some process => machine.receive number process
                | none => machine)
              freed
          else
            machine.change pid fun process => { process with held := some (waiting ++ [number]) }

def members (machine : Machine) (group : Nat) : List Nat :=
  (machine.processes.filter fun process => process.group = group).map Process.pid

-- A signal for a whole group; tells whether there was anybody in it. One that
-- is over and not waited for still counts.
def signalGroup (machine : Machine) (group : Nat) (number : Nat) : Bool × Machine :=
  let pids := machine.members group
  (!pids.isEmpty, pids.foldl (fun machine pid => machine.signal pid number) machine)

def opening? (machine : Machine) (number : Nat) : Option Opening := machine.openings.lookup number

def changeOpening (machine : Machine) (number : Nat) (change : Opening → Opening) : Machine :=
  { machine with
    openings := machine.openings.map fun entry =>
      if entry.1 = number then (number, change entry.2) else entry }

def addOpening (machine : Machine) (opening : Opening) : Nat × Machine :=
  (machine.nextOpening,
    { machine with
      nextOpening := machine.nextOpening + 1
      openings := (machine.nextOpening, opening) :: machine.openings })

def overwritten (content : Bytes) (offset : Nat) (bytes : Bytes) : Bytes :=
  content.take offset ++ List.replicate (offset - content.length) 0 ++ bytes ++
    content.drop (offset + bytes.length)

def writeOpened (machine : Machine) (number : Nat) (bytes : Bytes) : Machine :=
  match machine.opening? number with
  | none => machine
  | some opening =>
      if !opening.writes then machine
      else
        let content := machine.files.content opening.node
        let offset := if opening.appends then content.length else opening.offset
        { machine with
          files := machine.files.setContent opening.node (overwritten content offset bytes) }
          |>.changeOpening number fun opening => { opening with offset := offset + bytes.length }

-- Writes to a descriptor. Whoever writes where nobody reads gets a signal.
def write (machine : Machine) (pid : Nat) (target : Option Target) (bytes : Bytes) : Machine :=
  match target with
  | some (.sink pipe) =>
      if bytes.isEmpty then machine
      else if machine.hasReader pipe then machine.setContent pipe (machine.content pipe ++ bytes)
      else machine.signal pid brokenPipe
  | some (.opened number) => machine.writeOpened number bytes
  | _ => machine

def writeFault? (machine : Machine) (target : Option Target) : Option String :=
  match target with
  | none | some (.source _) => some "Bad file descriptor"
  | some .full => some "No space left on device"
  | some (.opened number) =>
      if ((machine.opening? number).map Opening.writes).getD false then none
      else some "Bad file descriptor"
  | _ => none

inductive Input
  | bytes (bytes : Bytes)
  | nothing
  | atEnd

def zerosAtOnce : Nat := 4096

def input (machine : Machine) (target : Option Target) : Input :=
  match target with
  | some (.source pipe) =>
      let bytes := machine.content pipe
      if !bytes.isEmpty then .bytes bytes
      else if machine.hasWriter pipe then .nothing
      else .atEnd
  | some (.opened number) =>
      match machine.opening? number with
      | none => .atEnd
      | some opening =>
          let bytes := (machine.files.content opening.node).drop opening.offset
          if bytes.isEmpty || !opening.reads then .atEnd else .bytes bytes
  | some .zeros => .bytes (List.replicate zerosAtOnce 0)
  | _ => .atEnd

def consume (machine : Machine) (target : Option Target) (count : Nat) : Machine :=
  match target with
  | some (.source pipe) => machine.setContent pipe ((machine.content pipe).drop count)
  | some (.opened number) =>
      machine.changeOpening number fun opening => { opening with offset := opening.offset + count }
  | _ => machine

def start (machine : Machine) (process : Process) : Nat × Machine :=
  (machine.nextPid,
    { machine with
      nextPid := machine.nextPid + 1
      processes := machine.processes ++ [{ process with pid := machine.nextPid }] })

end Machine

end Overseer
