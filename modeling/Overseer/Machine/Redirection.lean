import Overseer.Machine.Lookup

namespace Overseer.Machine

open Overseer.Shell
open Overseer.Text

-- Where the descriptors of a process lead, and redirections of them.

def target? (process : Process) (descriptor : Nat) : Option Target :=
  process.files.lookup descriptor

abbrev Descriptors := List (Nat × Target)

def withFile (files : Descriptors) (descriptor : Nat) (target : Target) : Descriptors :=
  (descriptor, target) :: files.filter fun entry => entry.1 ≠ descriptor

def withoutFile (files : Descriptors) (descriptor : Nat) : Descriptors :=
  files.filter fun entry => entry.1 ≠ descriptor

def place (files : Descriptors) (descriptor : Nat) : Option Target → Descriptors
  | some target => withFile files descriptor target
  | none => withoutFile files descriptor

structure Access where
  creates : Bool
  empties : Bool
  appends : Bool
  reads : Bool

def openFile (machine : Machine) (process : Process) (files : Descriptors) (name : Bytes)
    (access : Access) : Except FileFault (Target × Machine) := do
  let system := { machine.files with here := process.directory }
  let (entry, system) ←
    if access.creates then system.forOutput name
    else (lookupPath system name).map fun entry => (entry, system)
  let machine := { machine with files := { system with here := machine.files.here } }
  match entry with
  | .ordinary node =>
      let machine :=
        if access.empties then { machine with files := machine.files.setContent node [] }
        else machine
      let (number, machine) := machine.addOpening
        ⟨node, 0, access.appends, access.reads, access.creates⟩
      pure (.opened number, machine)
  | .device .zeros => pure (.zeros, machine)
  | .device .full => pure (.full, machine)
  | .device .terminal => throw .noDevice
  | .descriptor number =>
      match files.lookup number with
      | some target => pure (target, machine)
      | none => throw .missing
  | _ => pure (.null, machine)

def copied (files : Descriptors) (name : Bytes) : Expanding (Except Bytes (Option Target)) :=
  match name with
  | [45] => pure (.ok none)
  | [digit] =>
      if digit < 48 || 57 < digit then throw .badDescriptor
      else
        match files.lookup (digit.toNat - 48) with
        | some target => pure (.ok (some target))
        | none => pure (.error (name ++ Utf8.encode ": Bad file descriptor"))
  | _ => throw .badDescriptor

def access : Direction → Access
  | .output => ⟨true, true, false, false⟩
  | .append => ⟨true, false, true, false⟩
  | _ => ⟨false, false, false, true⟩

-- Where the descriptors lead after redirections, each of which takes effect
-- before the next one.
def redirected (process : Process) (machine : Machine) (files : Descriptors) :
    List Redirect → Expanding (Except Bytes Descriptors × Machine)
  | [] => pure (.ok files, machine)
  | redirect :: rest => do
      let opened (creates : Bool) : Expanding (Except Bytes (Option Target) × Machine) := do
        let name ← expandPieces redirect.target
        match machine.openFile process files name (access redirect.direction) with
        | .ok (target, machine) => pure (.ok (some target), machine)
        | .error fault => pure (.error (openComplaint creates name fault), machine)
      let (target, machine) ← match redirect.direction with
        | .output | .append => opened true
        | .input => opened false
        | .copy => do pure (← copied files (← expandPieces redirect.target), machine)
      match target with
      | .error text => pure (.error text, machine)
      | .ok target => redirected process machine (place files redirect.descriptor target) rest

end Overseer.Machine
