import Overseer.Machine.Kill

namespace Overseer.Machine

open Overseer.Shell
open Overseer.Text

-- Commands that change a shell's parameters, arguments and options.

namespace Task

def assignedName (argument : Bytes) : String × Option Bytes :=
  let name := argument.takeWhile (· ≠ 61)
  (Utf8.text name,
    if name.length < argument.length then some (argument.drop (name.length + 1)) else none)

def refused (task : Task) (line : Nat) (command : String) (refusal : Refusal) : Task :=
  task.fail line (Utf8.encode (command ++ ": ") ++ refusal.message)

def optionsOf (known : Bytes) : List Bytes → Except UInt8 (Bytes × List Bytes)
  | [45, 45] :: rest => .ok ([], rest)
  | (45 :: letter :: letters) :: rest =>
      match (letter :: letters).find? fun letter => !known.contains letter with
      | some wrong => .error wrong
      | none => (optionsOf known rest).map fun (others, rest) => (letter :: letters ++ others, rest)
  | arguments => .ok ([], arguments)

def illegalOption (command : String) (letter : UInt8) : Bytes :=
  Utf8.encode (command ++ ": Illegal option -") ++ [letter]

def exportEach (line : Nat) : List Bytes → Task → Task
  | [], task => task
  | argument :: arguments, task =>
      let (name, value) := assignedName argument
      if !isName name.toList then task.refused line "export" (.badName name)
      else
        let scope := match value with
          | some value => task.scope.set name value
          | none => task.scope
        exportEach line arguments (task.setScope (scope.withExported name))

def exportAll (task : Task) (line : Nat) (arguments : List Bytes) : Task :=
  match optionsOf [112] arguments with
  | .error letter => task.fail line (illegalOption "export" letter)
  | .ok (_, names) => exportEach line names (task.setStatus 0)

def unsetName (line : Nat) (task : Task) (name : String) : Task :=
  if !isName name.toList then task.refused line "unset" (.badName name)
  else task.setScope (task.scope.unset name)

def unset (task : Task) (line : Nat) (arguments : List Bytes) : Task :=
  let task := task.setStatus 0
  match optionsOf [118, 102] arguments with
  | .error letter => task.fail line (illegalOption "unset" letter)
  | .ok (letters, names) =>
      if letters.contains 102 then
        { task with
          state := { task.state with
            functions := task.state.functions.filter fun entry =>
              !(names.map Utf8.text).contains entry.1 } }
      else (names.map Utf8.text).foldl (unsetName line) task

def setOptions (line : Nat) : Nat → Task → List Bytes → Task
  | 0, task, _ => task
  | fuel + 1, task, arguments =>
      let replace (arguments : List Bytes) : Task :=
        task.setScope { task.scope with arguments }
      let refused (text : Bytes) : Task :=
        task.fail line (Utf8.encode "set: Illegal option -" ++ text)
      match arguments with
      | [] => task
      | argument :: rest =>
          if argument = Utf8.encode "--" then replace rest
          else if argument = [45] then
            let quiet := [120, 118].foldl (Scope.turn false) task.scope
            setOptions line fuel (task.setScope quiet) rest
          else if argument = Utf8.encode "-o" || argument = Utf8.encode "+o" then
            let on := argument.head? = some 45
            match rest with
            | [] => task
            | name :: rest =>
                match task.scope.turnNamed? on (Utf8.text name) with
                | some scope => setOptions line fuel (task.setScope scope) rest
                | none => refused (Utf8.encode "o " ++ name)
          else
            match argument with
            | 45 :: letter :: letters | 43 :: letter :: letters =>
                let on := argument.head? = some 45
                match task.scope.turnAll on (letter :: letters) with
                | .error wrong => refused [wrong]
                | .ok scope =>
                    setOptions line fuel (task.setScope scope) rest
            | _ => replace arguments

def counted (task : Task) (line : Nat) (command : String) (standard : Nat)
    (arguments : List Bytes) : Except Task Nat :=
  match arguments with
  | [] => .ok standard
  | argument :: _ =>
      match number? argument with
      | some n => .ok n
      | none =>
          .error (task.fail line (Utf8.encode (command ++ ": Illegal number: ") ++ argument))

def shift (task : Task) (line : Nat) (arguments : List Bytes) : Task :=
  match task.counted line "shift" 1 arguments with
  | .error task => task
  | .ok count =>
      let operands := task.scope.arguments
      if operands.length < count then task.fail line (Utf8.encode "shift: can't shift that many")
      else (task.setScope { task.scope with arguments := operands.drop count }).setStatus 0

end Task

end Overseer.Machine
