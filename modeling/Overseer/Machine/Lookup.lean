import Overseer.Machine.Programs

namespace Overseer.Machine

open Overseer.Shell
open Overseer.Text

-- Which program a name stands for, and whether it can be executed.

def Files.runs (files : Files) : Entry → Bool
  | .program _ => true
  | .ordinary node => files.isExecutable node
  | _ => false

def programAmong (files : Files) (name : Bytes) : List Bytes → Except FileFault (Bytes × Entry)
  | [] => .error .missing
  | directory :: others =>
      let path := if directory.isEmpty then name else directory ++ Path.slash :: name
      let rest := programAmong files name others
      match lookupPath files path with
      | .ok entry =>
          if files.runs entry then .ok (path, entry)
          else
            match rest with
            | .error .missing => .error .denied
            | rest => rest
      | .error .nameTooLong => .error .nameTooLong
      | .error _ => rest

-- A name without a slash is looked for in the directories for programs.
def executable (files : Files) (environment : List (String × Bytes)) (name : Bytes) :
    Except FileFault (Bytes × Entry) :=
  if name.contains Path.slash then (lookupPath files name).map fun entry => (name, entry)
  else if name.isEmpty then .error .missing
  else programAmong files name (Tool.splitOn 58 ((environment.lookup "PATH").getD standardPath))

-- An argument longer than this is refused, its end mark counted.
def longestArgument : Nat := 131072

-- All arguments together and what is set for the program may take so much
-- room, in which each also has a place where its address is kept.
def roomForArguments : Nat := 2097152

def roomFor (environment : List (String × Bytes)) (arguments : List Bytes) : Nat :=
  let each (length : Nat) : Nat := length + 9
  (arguments.map fun argument => each argument.length).foldl Nat.add 0 +
    (environment.map fun (name, value) => each (name.utf8ByteSize + 1 + value.length)).foldl
      Nat.add 0

def mostInterpreters : Nat := 4

-- The interpreter that the first line of a script names, with an argument of
-- its own if there is one.
def interpreter? (content : Bytes) : Option (List Bytes) :=
  match content with
  | 35 :: 33 :: rest =>
      let isBlank (byte : UInt8) : Bool := byte = 32 || byte = 9
      let line := (rest.takeWhile (· ≠ 10)).dropWhile isBlank
      let line := (line.reverse.dropWhile isBlank).reverse
      let name := line.takeWhile fun byte => !isBlank byte
      let argument := (line.drop name.length).dropWhile isBlank
      some (name :: if argument.isEmpty then [] else [argument])
  | _ => none

-- How a program is asked to let another one lead a group of its own.
def leavingGroup (arguments : List Bytes) : Except Program (Bool × List Bytes) :=
  match Tool.choose ⟨"f", "", false⟩ arguments with
  | .ok chosen => .ok (chosen.has 'f', chosen.operands)
  | .error text => .error (misused (Utf8.encode "setsid") [text] 1)

def programWithin (now : Nat) (files : Files) (environment : List (String × Bytes)) :
    Nat → Bytes → List Bytes → Except FileFault Program
  | 0, _, _ => .error .tooManyLinks
  | fuel + 1, name, arguments =>
      if (name :: arguments).any fun argument => argument.contains 0 then .error .zeroInside
      else if ((name :: arguments).any fun argument => longestArgument ≤ argument.length) ||
          roomForArguments < roomFor environment (name :: arguments) then
        .error .argumentsTooLong
      else
        match executable files environment name with
        | .error fault => .error fault
        | .ok (path, .ordinary node) =>
            if !files.isExecutable node then .error .denied
            else
              match interpreter? (files.content node) with
              | some (interpreter :: argument) =>
                  programWithin now files environment fuel interpreter
                    (argument ++ path :: arguments)
              | _ =>
                  let shell := Utf8.encode "/bin/sh"
                  .ok (shellProgram files shell (path :: arguments) environment)
        | .ok (_, .program "setsid") =>
            match leavingGroup arguments with
            | .error instead => .ok instead
            | .ok (_, []) =>
                .ok (misused (Utf8.encode "setsid") [Utf8.encode "no command specified"] 1)
            | .ok (forks, other :: rest) =>
                match programWithin now files environment fuel other rest with
                | .ok program => .ok (.apart forks program)
                | .error fault =>
                    let text := Utf8.encode "setsid: failed to execute " ++ other ++
                      Utf8.encode (": " ++ fault.reason ++ "\n")
                    .ok (.apart forks (.print [] text (if fault = .missing then 127 else 126)))
        | .ok (_, .program found) => .ok (program now files environment found name arguments)
        | .ok _ => .error .denied

def programOf (now : Nat) (files : Files) (environment : List (String × Bytes)) (name : Bytes)
    (arguments : List Bytes) : Except FileFault Program :=
  programWithin now files environment (arguments.length + mostInterpreters + 1) name arguments

end Overseer.Machine
