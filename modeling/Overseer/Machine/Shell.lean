import Overseer.Machine.Builtin

namespace Overseer.Machine

open Overseer.Shell
open Overseer.Text

-- One step of a shell: a command begins, or the next part of one.

namespace Task

-- Nothing is left to do for the shell after the command that begins now.
def yieldsNow (task : Task) : Bool :=
  task.state.yields && task.state.frames.isEmpty &&
    task.state.traps.all fun trap => trap.2.isEmpty

def call (task : Task) (body : Command) (saved : List (String × Option Bytes))
    (arguments : List Bytes) (files : Descriptors) : Task :=
  let frames := [.command body, .leaveCall task.scope.arguments saved, .restore task.process.files]
  ((task.push frames).setFiles files).setScope { task.scope with arguments }

def runProgram (task : Task) (line : Nat) (assigned : List (String × Option Bytes))
    (name : Bytes) (arguments : List Bytes) (files : Descriptors) : Task :=
  let environment :=
    (assigned.foldl (fun scope entry => scope.withExported entry.1) task.scope).environment
  let task := task.setScope (assigned.foldl Scope.restore task.scope)
  match programOf task.machine.clock task.files environment name arguments with
  | .ok program =>
      if task.yieldsNow then (task.setFiles files).become program
      else
        let (pid, task) := task.launch program files
        task.push [.awaitChild pid]
  | .error failure =>
      let (reason, status) :=
        if name.isEmpty then ("Permission denied", 127) else execComplaint failure
      let saved := task.process.files
      let text := task.named (name ++ Utf8.encode (": " ++ reason))
      ((task.setFiles files).complain line text status).setFiles saved

def runCommand (task : Task) (line : Nat) (assigned : List (String × Option Bytes))
    (name : Bytes) (arguments : List Bytes) (files : Descriptors) : Task :=
  let saved := task.process.files
  match (task.setFiles files).builtin? line (Utf8.text name) arguments with
  | some done =>
      if Utf8.text name = "exec" then done
      else
        let done := done.setFiles saved
        if specialCommands.contains (Utf8.text name) then done
        else done.setScope (assigned.foldl Scope.restore done.scope)
  | none => task.runProgram line assigned name arguments files

def run (task : Task) (line : Nat) (assigned : List (String × Option Bytes))
    (arguments : List Bytes) (files : Descriptors) : Task :=
  match arguments with
  | [] => task
  | name :: rest =>
      match task.state.functions.lookup (Utf8.text name) with
      | some body => task.call body assigned rest files
      | none => task.runCommand line assigned name rest files

def holdsPrinted (words : List Word) : Bool :=
  words.any fun word => word.any fun piece => piece matches .value _ _

def tell (task : Task) (assignments : List String) (words : List Bytes) : Task :=
  if task.scope.tells then
    let sign := (task.scope.values.lookup "PS4").getD []
    let assigned := assignments.map fun name =>
      Utf8.encode (name ++ "=") ++ (task.scope.values.lookup name).getD []
    task.print 2 (sign ++ Scope.spaced (assigned ++ words) ++ [10])
  else task

-- Words are expanded first, then redirections, then assignments. A command
-- without words has the outcome of the last script in it.
def simple (task : Task) (line : Nat) (assignments : List (String × Word)) (words : List Word)
    (redirects : List Redirect) : Task :=
  task.expanding line (expandCommand words) fun fields task =>
    let arguments := task.arguments fields
    task.redirecting line redirects fun files task =>
      match files with
      | .error text =>
          let text := task.named text
          if (arguments.head?).any fun name => specialCommands.contains (Utf8.text name) then
            task.fail line text
          else task.complain line text 2
      | .ok files =>
          let saved := assignments.map fun entry =>
            (entry.1, task.scope.values.lookup entry.1)
          task.expanding line (assignAll assignments) fun _ task =>
            let task := task.tell (assignments.map Prod.fst) arguments
            if arguments.isEmpty then
              let texts := assignments.map Prod.snd ++ words ++ redirects.map Redirect.target
              task.setStatus (if holdsPrinted texts then task.state.printed else 0)
            else task.run line saved arguments files

def collect (task : Task) (line : Nat) (script : List Char) (command : Command) : Task :=
  let (pipe, machine) := task.machine.newPipe true
  let task := { task with machine }
  let (pid, task) :=
    task.fork [.command (Command.ofScript line script)]
      (withFile task.process.files 1 (.sink pipe))
  task.push [.collect pipe pid command]

-- The patterns of branches in order. Those after the one that matches are not
-- looked at.
def firstMatch (subject : Bytes) : List (List Word × Command) → Expanding (Option Command)
  | [] => pure none
  | (patterns, body) :: rest => do
      let accepted ← patterns.anyM fun pattern => do
        pure ((Pattern.ofMarks (← markPieces pattern)).accepts subject)
      if accepted then pure (some body) else firstMatch subject rest

def isChecked : Command → Bool
  | .simple _ _ _ _ | .pipe _ _ | .subshell _ => true
  | _ => false

def enter (task : Task) (command : Command) : Task :=
  match command with
  | .skip => task
  | .simple line assignments words redirects => task.simple line assignments words redirects
  | .sequence first second => task.push [.command first, .command second]
  | .background inner => task.background inner
  | .conditional onSuccess first second => task.push [.command first, .next onSuccess second]
  | .negation inner => task.push [.command inner, .negate]
  | .pipe source sink => task.connect source sink
  | .group line inner redirects =>
      task.redirecting line redirects fun files task =>
        match files with
        | .error text => task.complain line (task.named text) 2
        | .ok files =>
            if task.yieldsNow && inner matches .subshell _ then
              (task.push [.command inner]).setFiles files
            else (task.push [.command inner, .restore task.process.files]).setFiles files
  | .subshell inner =>
      if task.yieldsNow then task.push [.command inner]
      else
        let (pid, task) := task.fork [.command inner] task.process.files
        task.push [.awaitChild pid]
  | .choice condition yes no => task.push [.command condition, .choose yes no]
  | .loop onSuccess condition body =>
      task.push [.command condition, .tested onSuccess condition body]
  | .each line name words body =>
      match words with
      | none => (task.setStatus 0).push [.each line name task.scope.arguments body]
      | some words =>
          task.expanding line (expandWords words) fun fields task =>
            (task.setStatus 0).push [.each line name (task.arguments fields) body]
  | .select line subject branches =>
      let chosen : Expanding (Option Command) := do firstMatch (← expandPieces subject) branches
      task.expanding line chosen fun body task =>
        (task.setStatus 0).push (body.toList.map .command)
  | .define name body =>
      { task with
        state := { task.state with functions := (name, body) :: task.state.functions } }.setStatus 0
  | .mistake line text => task.fail line (task.named (Utf8.encode ("Syntax error: " ++ text)))

def begin (task : Task) (command : Command) : Task :=
  match firstPrinted command.expanded with
  | some (line, script) => task.collect line script command
  | none =>
      if task.scope.exitsOnFailure && isChecked command then (task.push [.checked]).enter command
      else task.enter command

-- Carries out the next lines of a script. They are read only now, when it is
-- known what names stand for in them.
def nextLines (task : Task) (tokens : List Token) : Task :=
  match nextCommand task.state.aliases tokens with
  | none => task
  | some (command, rest) =>
      if isAtEnd (dropNewlines rest) then task.push [.command command]
      else task.push [.command command, .lines rest]

def leave (task : Task) : Task :=
  match task.state.traps.lookup 0 with
  | some action =>
      let task := { task with
        state := { task.state with traps := task.state.traps.filter fun trap => trap.1 ≠ 0 } }
      task.push [commandsOf action, .untrap task.scope.status, .leave]
  | none =>
      { task with
        machine := task.machine.finish task.process.pid (.exited task.scope.status) }

def succeeded (task : Task) : Bool := task.scope.status = 0

def asksOutcome : Frame → Bool
  | .next _ _ | .negate | .choose _ _ | .tested _ _ _ => true
  | _ => false

def finishCollect (task : Task) (pipe pid : Nat) (command : Command) : Task :=
  let text := task.machine.content pipe
  let trimmed := (text.reverse.dropWhile (· = 10)).reverse
  let status := task.scope.status
  let task := match task.ending? pid with
    | some ending => task.reap pid ending
    | none => task
  let printed := task.scope.status
  let task := { task with state := { task.state with printed } }.setStatus status
  let machine := { task.machine with
    outside := task.machine.outside.erase pipe
    pipes := task.machine.pipes.filter fun entry => entry.1 ≠ pipe }
  { task with machine }.push [.command (command.fill trimmed)]

def advance (task : Task) (frame : Frame) : Task :=
  match frame with
  | .starting _ =>
      { task with
        process := { task.process with ignored := task.process.ignored ++ keyboard } }
  | .command command => task.begin command
  | .lines tokens => task.nextLines tokens
  | .next onSuccess command =>
      if task.succeeded = onSuccess then task.push [.command command] else task
  | .negate => task.setStatus (if task.succeeded then 1 else 0)
  | .choose yes no =>
      if task.succeeded then task.push [.command yes]
      else if no matches .skip then task.setStatus 0
      else task.push [.command no]
  | .tested onSuccess condition body =>
      if task.succeeded = onSuccess then
        task.push [.command body, .again onSuccess condition body]
      else task.setStatus 0
  | .again onSuccess condition body =>
      task.push [.command condition, .tested onSuccess condition body]
  | .each _ _ [] _ => task
  | .each line name (value :: values) body =>
      task.expanding line (assign name value) fun _ task =>
        task.push [.command body, .each line name values body]
  | .restore files => task.setFiles files
  | .awaitChild pid =>
      match task.ending? pid with
      | some ending => task.reap pid ending
      | none => task
  | .awaitJob pid =>
      match task.state.jobs.find? fun job => job.pid = pid with
      | some ⟨_, _, some told⟩ => task.setStatus told.status
      | _ =>
          match task.ending? pid with
          | some ending => task.reap pid ending
          | none => task
  | .awaitJobs =>
      let jobs := task.state.jobs.map fun job => { job with told := task.outcome? job }
      { task with
        machine := (jobs.map Job.pid).foldl Machine.forget task.machine
        state := { task.state with jobs } }.setStatus 0
  | .collect pipe pid command => task.finishCollect pipe pid command
  | .untrap status => task.setStatus status
  | .leaveCall arguments saved =>
      task.setScope { saved.foldl Scope.restore task.scope with arguments }
  | .evaluated => task
  | .checked =>
      if task.succeeded || task.state.frames.any asksOutcome then task
      else task.setFrames [.leave]
  | .leave => task.leave

def isRoused (machine : Machine) (state : ShellState) : Bool :=
  !state.caught.isEmpty && state.rouse ≤ machine.clock

def isTold (state : ShellState) (pid : Nat) : Bool :=
  state.jobs.any fun job => job.pid = pid && job.told.isSome

def ready (machine : Machine) (state : ShellState) : Bool :=
  match state.frames with
  | .starting wake :: _ => wake ≤ machine.clock
  | .awaitChild pid :: _ | .collect _ pid _ :: _ => machine.isOver pid
  | .awaitJob pid :: _ =>
      isTold state pid || machine.isOver pid || isRoused machine state
  | .awaitJobs :: _ =>
      let left := (state.jobs.map Job.pid).filter fun pid => !isTold state pid
      left.all machine.isOver || isRoused machine state
  | _ => true

-- Only a wait for children in the background is broken off for a trap.
def interruptible : List Frame → Bool
  | .awaitChild _ :: _ | .collect _ _ _ :: _ => false
  | _ => true

def isWait : Frame → Bool
  | .awaitJob _ | .awaitJobs => true
  | _ => false

-- A caught signal's action comes before everything else that is to be done.
def takeTrap (task : Task) (number : Nat) : Task :=
  let action := (task.state.traps.lookup number).getD []
  let frames := task.state.frames
  let task :=
    if frames.head?.any isWait then
      (task.setFrames (frames.dropWhile isWait)).setStatus (128 + number)
    else task
  task.push [commandsOf action, .untrap task.scope.status]

def next (task : Task) : Task :=
  match task.state.frames with
  | [] => task.leave
  | frame :: frames => (task.setFrames frames).advance frame

def endedByItself (task : Task) (job : Job) : Bool :=
  (task.outcome? job).any fun ending => ending matches .code _

def isThrough (task : Task) : Bool :=
  match task.state.frames with
  | .awaitJob pid :: _ => task.state.jobs.any fun job => job.pid = pid && task.endedByItself job
  | .awaitJobs :: _ => task.state.jobs.all task.endedByItself
  | _ => false

def step (task : Task) : Task :=
  match task.state.caught with
  | [] => task.next
  | number :: caught =>
      if interruptible task.state.frames && !task.isThrough then
        let machine := task.machine.change task.process.pid fun process =>
          match process.program with
          | .shell state => { process with program := .shell { state with caught } }
          | _ => process
        takeTrap { task with machine } number
      else task.next

end Task

end Overseer.Machine
