import Overseer.Tool.Options

namespace Overseer.Tool

open Overseer.Machine
open Overseer.Shell
open Overseer.Text

-- Tools that make and remove files and directories.

def changeFiles (change : Files → Files) : Work Unit :=
  modify fun desk => { desk with files := change desk.files }

def failedTo (action : String) (name : Bytes) (fault : FileFault) : Work Unit :=
  complain 1 (Utf8.encode (action ++ " ") ++ inApostrophes name ++
    Utf8.encode (": " ++ fault.reason))

-- A directory goes with everything in it.
def removeOne (chosen : Chosen) (name : Bytes) : Work Unit := do
  let files := (← get).files
  match files.find? false name with
  | .error fault =>
      if !(chosen.has 'f' && (fault = .missing || fault = .notDirectory)) then
        failedTo "cannot remove" name fault
  | .ok (place, .directory) =>
      if chosen.has 'r' || chosen.has 'R' then changeFiles fun files => files.withoutTree place
      else failedTo "cannot remove" name .isDirectory
  | .ok (place, _) => changeFiles fun files => files.withoutEntry place

def removeAll (arguments : List Bytes) : Work Unit :=
  choosing ⟨"rRf", "", true⟩ 1 arguments fun chosen =>
    if chosen.operands.isEmpty && !chosen.has 'f' then misused 1 (Utf8.encode "missing operand")
    else chosen.operands.forM (removeOne chosen)

def nameLetters : Bytes :=
  Utf8.encode "ABCDEFGHIJKLMNOPQRSTUVWXYZabcdefghijklmnopqrstuvwxyz0123456789"

def lettersOf : Nat → Nat → Bytes
  | 0, _ => []
  | count + 1, seed =>
      let next := (seed * 6364136223846793005 + 1442695040888963407) % Nat.pow 2 64
      nameLetters.getD (next / Nat.pow 2 33 % nameLetters.length) 65 :: lettersOf count next

def mostAttempts : Nat := 1000

-- Makes a file or a directory with letters in the place of the marks at the end
-- of its name.
def makeNamed (isDirectory : Bool) (template : Bytes) : Nat → Work Unit
  | 0 => pure ()
  | attempts + 1 => do
      let files := (← get).files
      let marks := (template.reverse.takeWhile (· = 88)).length
      let name := template.take (template.length - marks) ++ lettersOf marks files.nextNode
      let kind := if isDirectory then "directory" else "file"
      changeFiles fun files => { files with nextNode := files.nextNode + 1 }
      if marks < 3 then
        complain 1 (Utf8.encode "too few X's in template " ++ inApostrophes template)
      else
        match files.vacancy name with
        | .error .occupied => makeNamed isDirectory template attempts
        | .error fault => failedTo ("failed to create " ++ kind ++ " via template") template fault
        | .ok place => do
            changeFiles fun files =>
              if isDirectory then files.put place .directory else (files.create place [] false).2
            say (name ++ [10])

def makeTemporary (arguments : List Bytes) : Work Unit :=
  choosing ⟨"d", "", true⟩ 1 arguments fun chosen => do
    match chosen.operands with
    | [] => do
        let set := (← get).environment.lookup "TMPDIR"
        let directory := (set.filter fun path => !path.isEmpty).getD (Utf8.encode "/tmp")
        makeNamed (chosen.has 'd') (directory ++ Utf8.encode "/tmp.XXXXXXXXXX") mostAttempts
    | [template] => makeNamed (chosen.has 'd') template mostAttempts
    | _ => misused 1 (Utf8.encode "too many templates")

end Overseer.Tool
