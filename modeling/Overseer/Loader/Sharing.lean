import Overseer.Loader.Basic

namespace Overseer.Loader

-- A loader shared by several threads, one lock operation at a time. Many may
-- read, one may hold the right to upgrade beside the readers, and a writer is
-- alone. An entry point is handed out together with the reader's lock, so
-- whoever changes the loader waits until every entry is given back.

inductive Call
  | entryPoint
  | setHome (home : Path)
  | ensureHome (home : Path)
  | unload
  | look
deriving DecidableEq

inductive Reply
  | failed (fault : LoadFault)
  | changed (value : Bool)
  | done
deriving DecidableEq

inductive Stage
  | waiting
  | upgradable
  -- The upgradable lock still, with what the call saw under it: whether a
  -- library is there, or whether the home is the right one already.
  | checked (found : Bool)
  | writing
  | reading
  | holding (runtime : Runtime)
  | finished (reply : Reply)
  | stranded
deriving DecidableEq

def Stage.isUpgradable : Stage → Bool
  | upgradable | checked _ => true
  | _ => false

def Stage.isReader : Stage → Bool
  | reading | holding _ | stranded => true
  | _ => false

structure Sharing (σ : Type) where
  loader : Loader
  opening : σ
  calls : List (Call × Stage)

namespace Sharing

def start (loader : Loader) (opening : σ) (calls : List Call) : Sharing σ :=
  ⟨loader, opening, calls.map fun call => (call, .waiting)⟩

def hasWriter (sharing : Sharing σ) : Bool :=
  sharing.calls.any fun entry => entry.2 = .writing

def hasUpgradable (sharing : Sharing σ) : Bool :=
  sharing.calls.any fun entry => entry.2.isUpgradable

def hasReader (sharing : Sharing σ) : Bool :=
  sharing.calls.any fun entry => entry.2.isReader

def move (sharing : Sharing σ) (index : Nat) (call : Call) (stage : Stage) : Sharing σ :=
  { sharing with calls := sharing.calls.set index (call, stage) }

def advance (opener : Opener σ) (sharing : Sharing σ) (index : Nat) : Option (Sharing σ) :=
  match sharing.calls[index]? with
  | none => none
  | some (call, stage) =>
      match call, stage with
      | .entryPoint, .waiting | .ensureHome _, .waiting =>
          if sharing.hasWriter || sharing.hasUpgradable then none
          else some (sharing.move index call .upgradable)
      | .setHome _, .waiting | .unload, .waiting =>
          if sharing.hasWriter || sharing.hasUpgradable || sharing.hasReader then none
          else some (sharing.move index call .writing)
      | .look, .waiting =>
          if sharing.hasWriter then none
          else some (sharing.move index call (.finished .done))
      | .entryPoint, .upgradable =>
          some (sharing.move index call (.checked sharing.loader.loaded.isSome))
      | .entryPoint, .checked true => some (sharing.move index call .reading)
      | .entryPoint, .writing =>
          match load opener sharing.opening sharing.loader with
          | (.ok _, loader, opening) =>
              some ({ sharing with loader, opening }.move index call .reading)
          | (.error fault, loader, opening) =>
              some ({ sharing with loader, opening }.move index call (.finished (.failed fault)))
      | .entryPoint, .reading =>
          match sharing.loader.loaded with
          | some runtime => some (sharing.move index call (.holding runtime))
          | none => some (sharing.move index call .stranded)
      | .setHome home, .writing =>
          some ({ sharing with loader := sharing.loader.setHome home }.move index call
            (.finished .done))
      | .unload, .writing =>
          some ({ sharing with loader := sharing.loader.unload }.move index call
            (.finished .done))
      | .ensureHome home, .upgradable =>
          some (sharing.move index call
            (.checked (sameHome sharing.loader.home (configured home))))
      | .ensureHome _, .checked true =>
          some (sharing.move index call (.finished (.changed false)))
      | .entryPoint, .checked false | .ensureHome _, .checked false =>
          if sharing.hasReader then none else some (sharing.move index call .writing)
      | .ensureHome home, .writing =>
          some ({ sharing with loader := sharing.loader.setHome home }.move index call
            (.finished (.changed true)))
      | _, _ => none

def giveBack (sharing : Sharing σ) (index : Nat) : Option (Sharing σ) :=
  match sharing.calls[index]? with
  | some (call, .holding _) => some (sharing.move index call (.finished .done))
  | _ => none

inductive Turn
  | advance (index : Nat)
  | giveBack (index : Nat)
deriving DecidableEq

def act (opener : Opener σ) (sharing : Sharing σ) : Turn → Option (Sharing σ)
  | .advance index => sharing.advance opener index
  | .giveBack index => sharing.giveBack index

def actAll (opener : Opener σ) (sharing : Sharing σ) : List Turn → Option (Sharing σ)
  | [] => some sharing
  | turn :: turns => (sharing.act opener turn).bind fun next => next.actAll opener turns

def drive (opener : Opener σ) (sharing : Sharing σ) (index : Nat) : Nat → Sharing σ
  | 0 => sharing
  | fuel + 1 =>
      match sharing.advance opener index with
      | none => sharing
      | some next => next.drive opener index fuel

def isFinished (sharing : Sharing σ) (index : Nat) : Bool :=
  match sharing.calls[index]? with
  | some (_, .finished _) => true
  | _ => false

def isHolding (sharing : Sharing σ) (index : Nat) : Bool :=
  match sharing.calls[index]? with
  | some (_, .holding _) => true
  | _ => false

end Sharing

def waitsForEntry (opener : Opener σ) (opening : σ) (loader : Loader) (call : Call) : Bool :=
  let held := (Sharing.start loader opening [.entryPoint, call]).drive opener 0 5
  let after := held.drive opener 1 5
  held.isHolding 0 && !(after.isFinished 1 || after.isHolding 1)

end Overseer.Loader
