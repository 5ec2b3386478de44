import Overseer.Machine.Places

namespace Overseer.Machine

open Overseer.Shell

-- Changes of the files on a machine.

namespace Files

def put (files : Files) (place : Bytes) (entry : Entry) : Files :=
  { files with
    entries := files.entries.filter (fun other => other.1 ≠ place) ++ [(place, entry)] }

def withoutEntry (files : Files) (place : Bytes) : Files :=
  { files with entries := files.entries.filter fun entry => entry.1 ≠ place }

def withoutTree (files : Files) (place : Bytes) : Files :=
  { files with
    entries := files.entries.filter fun entry =>
      entry.1 ≠ place && !(place ++ [Path.slash]).isPrefixOf entry.1 }

def changeNode (files : Files) (number : Nat) (change : Node → Node) : Files :=
  { files with
    nodes := files.nodes.map fun node =>
      if node.1 = number then (number, change node.2) else node }

def setContent (files : Files) (number : Nat) (content : Bytes) : Files :=
  files.changeNode number fun node => { node with content }

def create (files : Files) (place content : Bytes) (executable : Bool) : Nat × Files :=
  (files.nextNode,
    { files with
      nodes := (files.nextNode, ⟨content, executable⟩) :: files.nodes
      nextNode := files.nextNode + 1 }.put place (.ordinary files.nextNode))

def forOutput (files : Files) (path : Bytes) : Except FileFault (Entry × Files) :=
  match files.find? true path with
  | .ok (_, .directory) => .error .isDirectory
  | .ok (_, .device .terminal) => .error .noDevice
  | .ok (_, entry) => .ok (entry, files)
  | .error .missing =>
      if path.getLast? = some Path.slash then .error .isDirectory
      else
        (files.vacancy path).map fun place =>
          let (number, files) := files.create place [] false
          (.ordinary number, files)
  | .error fault => .error fault

end Files

end Overseer.Machine
