import Overseer.Machine.Parameters

namespace Overseer.Machine

open Overseer.Shell
open Overseer.Text

-- The commands that a shell carries out itself.

namespace Task

def isLoop : Frame → Bool
  | .again _ _ _ | .each _ _ _ _ | .tested _ _ _ => true
  | _ => false

def loopsAround (frames : List Frame) : Nat :=
  ((frames.takeWhile fun frame => !(frame matches .leave | .leaveCall _ _)).filter isLoop).length

-- Leaves loops: with one left to leave, the loop's own frame comes next.
def unwind (again : Bool) : Nat → List Frame → List Frame
  | _, [] => []
  | levels, frame :: frames =>
      match frame with
      | .again onSuccess condition body | .tested onSuccess condition body =>
          if levels ≤ 1 then
            if again then .again onSuccess condition body :: frames else frames
          else unwind again (levels - 1) frames
      | .each _ _ _ _ =>
          if levels ≤ 1 then if again then frame :: frames else frames
          else unwind again (levels - 1) frames
      | .leave | .leaveCall _ _ => frame :: frames
      | .restore _ => frame :: unwind again levels frames
      | _ => unwind again levels frames

def returnFrames : List Frame → List Frame
  | [] => []
  | .leaveCall arguments saved :: frames => .leaveCall arguments saved :: frames
  | .leave :: frames => .leave :: frames
  | _ :: frames => returnFrames frames

-- The status before the action of a trap, if one is carried out.
def statusBefore (frames : List Frame) : Option Nat :=
  frames.findSome? fun frame =>
    match frame with
    | .untrap status => some status
    | _ => none

def exitWith (task : Task) (line : Nat) (arguments : List Bytes) : Task :=
  match task.counted line "exit" ((statusBefore task.state.frames).getD task.scope.status)
    arguments with
  | .ok status => (task.setStatus status).setFrames [.leave]
  | .error task => task

def leaveLoops (task : Task) (line : Nat) (name : String) (arguments : List Bytes) : Task :=
  match task.counted line name 1 arguments with
  | .error task => task
  | .ok 0 => task.fail line (Utf8.encode (name ++ ": Illegal number: ") ++ arguments.headD [])
  | .ok levels =>
      let task := task.setStatus 0
      let loops := loopsAround task.state.frames
      if loops = 0 then task
      else task.setFrames (unwind (name = "continue") (min levels loops) task.state.frames)

def returnWith (task : Task) (line : Nat) (arguments : List Bytes) : Task :=
  match task.counted line "return" task.scope.status arguments with
  | .error task => task
  | .ok status => (task.setStatus status).setFrames (returnFrames task.state.frames)

def say (task : Task) (line : Nat) (name : String) (bytes : Bytes) : Task :=
  if (task.machine.writeFault? (target? task.process 1)).isSome && !bytes.isEmpty then
    task.complain line (Utf8.encode (name ++ ": " ++ name ++ ": I/O error")) 1
  else (task.setStatus 0).print 1 bytes

-- A fault of an argument is a small mistake; one of the format is a larger one.
def printFormatted (task : Task) (line : Nat) (arguments : List Bytes) : Task :=
  let printed := printf arguments
  let task := task.say line "printf" printed.text
  (printed.faults.filter fun fault => !fault.message.isEmpty).foldl
    (fun task fault =>
      task.complain line (Utf8.encode "printf: " ++ fault.message) (if fault.ends then 2 else 1))
    task

def examine (task : Task) (line : Nat) (name : String) (words : List Bytes) : Task :=
  match condition (Tool.witness task.files) words with
  | .ok value => task.setStatus (if value then 0 else 1)
  | .error mistake => task.complain line (Utf8.encode (name ++ ": ") ++ mistake.message) 2

def examineBracketed (task : Task) (line : Nat) (words : List Bytes) : Task :=
  if words.getLast? = some [93] then task.examine line "[" words.dropLast
  else task.complain line (Utf8.encode "[: " ++ BadCondition.unclosed.message) 2

def execComplaint (fault : FileFault) : String × Nat :=
  match fault with
  | .missing | .notDirectory => ("not found", 127)
  | .nameTooLong => ("File name too long", 127)
  | .tooManyLinks => ("Too many levels of symbolic links", 126)
  | .argumentsTooLong => ("Argument list too long", 126)
  | _ => ("Permission denied", 126)

def exec (task : Task) (line : Nat) (arguments : List Bytes) : Task :=
  match arguments with
  | [] => task.setStatus 0
  | name :: rest =>
      match programOf task.machine.clock task.files task.scope.environment name rest with
      | .ok program => task.become program
      | .error failure =>
          let (reason, status) := execComplaint failure
          (task.complain line
            (Utf8.encode "exec: " ++ name ++ Utf8.encode (": " ++ reason)) status).setFrames
              [.leave]

def outcome? (task : Task) (job : Job) : Option Ending := job.told.or (task.ending? job.pid)

def awaited (task : Task) (name : Bytes) : Except Bytes (Option Job) :=
  match number? name with
  | some pid => .ok (task.state.jobs.find? fun job => job.pid = pid)
  | none => .error (Utf8.encode "Illegal number: " ++ name)

-- Nothing is waited for that is no job. The status is that of the last job.
def wait (task : Task) (line : Nat) (arguments : List Bytes) : Task :=
  let arguments := if arguments.head? = some (Utf8.encode "--") then arguments.drop 1 else arguments
  match arguments with
  | [] => task.push [.awaitJobs]
  | (45 :: letter :: _) :: _ =>
      task.complain line (Utf8.encode "wait: Illegal option -" ++ [letter]) 2
  | _ =>
      match arguments.mapM task.awaited with
      | .error text => task.complain line (Utf8.encode "wait: " ++ text) 2
      | .ok jobs =>
          (task.setStatus 127).push (jobs.filterMap fun job => job.map fun job => .awaitJob job.pid)

def straight (pieces : List Bytes) : List Bytes :=
  pieces.foldl
    (fun done piece =>
      if piece.isEmpty || piece = [Path.dot] then done
      else if piece = [Path.dot, Path.dot] then done.dropLast
      else done ++ [piece])
    []

def straightened (path : Bytes) : Bytes :=
  let pieces := straight (Path.pieces path)
  if pieces.isEmpty then [Path.slash] else pieces.flatMap fun piece => Path.slash :: piece

def workingDirectory (task : Task) : Bytes := task.process.directory.getD [Path.slash]

def destination? (task : Task) (name : Bytes) : Option Bytes :=
  if name.head? = some Path.slash then some (straightened name)
  else task.process.directory.map fun here => straightened (here ++ Path.slash :: name)

def setDirectory (task : Task) (directory : Bytes) : Task :=
  let before := task.workingDirectory
  let scope := (task.scope.set "OLDPWD" before).set "PWD" directory
  { task with process := { task.process with directory := some directory } }.setScope
    ((scope.withExported "OLDPWD").withExported "PWD")

def changeDirectory (task : Task) (line : Nat) (arguments : List Bytes) : Task :=
  match optionsOf [76, 80] arguments with
  | .error letter => task.complain line (illegalOption "cd" letter) 2
  | .ok (_, arguments) =>
      let parameter (name : String) : Bytes := (task.scope.values.lookup name).getD []
      let goesBack := arguments.head? = some [45]
      let name := if goesBack then parameter "OLDPWD" else arguments.headD (parameter "HOME")
      let refused : Task := task.complain line (Utf8.encode "cd: can't cd to " ++ name) 2
      if name.isEmpty then task.setStatus 0
      else
        let destination := task.destination? name
        match destination, lookupPath task.files (destination.getD name) with
        | some directory, .ok .directory =>
            let task := (task.setDirectory directory).setStatus 0
            if goesBack then task.print 1 (directory ++ [10]) else task
        | none, .error .denied => task.setStatus 0
        | _, _ => refused

def tellDirectory (task : Task) (line : Nat) (arguments : List Bytes) : Task :=
  match optionsOf [76, 80] arguments with
  | .error letter => task.complain line (illegalOption "pwd" letter) 2
  | .ok _ => task.say line "pwd" (task.workingDirectory ++ [10])

def setAlias (task : Task) (argument : Bytes) : Task :=
  let name := argument.takeWhile (· ≠ 61)
  let text := Utf8.text name
  if name.length < argument.length && !name.isEmpty then
    let value := argument.drop (name.length + 1)
    let aliases := task.state.aliases
    let aliases :=
      if aliases.any fun entry => entry.1 = text then
        aliases.map fun entry => if entry.1 = text then (text, value) else entry
      else aliases ++ [(text, value)]
    { task with state := { task.state with aliases } }
  else
    (task.print 2 (Utf8.encode "alias: " ++ name ++ Utf8.encode " not found\n")).setStatus 1

def setAliases (task : Task) (arguments : List Bytes) : Task :=
  arguments.foldl setAlias (task.setStatus 0)

def builtin? (task : Task) (line : Nat) (name : String) (arguments : List Bytes) : Option Task :=
  match name with
  | ":" | "true" => some (task.setStatus 0)
  | "false" => some (task.setStatus 1)
  | "echo" => some (task.say line name (echo arguments))
  | "printf" => some (task.printFormatted line arguments)
  | "test" => some (task.examine line name arguments)
  | "[" => some (task.examineBracketed line arguments)
  | "exit" => some (task.exitWith line arguments)
  | "break" | "continue" => some (task.leaveLoops line name arguments)
  | "return" => some (task.returnWith line arguments)
  | "exec" => some (task.exec line arguments)
  | "eval" => some ((task.setStatus 0).push [commandsOf (Scope.spaced arguments), .evaluated])
  | "kill" => some (task.killAll line arguments)
  | "trap" => some (task.trap line arguments)
  | "wait" => some (task.wait line arguments)
  | "set" => some (setOptions line (arguments.length + 1) (task.setStatus 0) arguments)
  | "shift" => some (task.shift line arguments)
  | "export" => some (task.exportAll line arguments)
  | "unset" => some (task.unset line arguments)
  | "cd" | "chdir" => some (task.changeDirectory line arguments)
  | "pwd" => some (task.tellDirectory line arguments)
  | "alias" => some (task.setAliases arguments)
  | _ => none

end Task

end Overseer.Machine
