import Overseer.Loader.Preflight
import Overseer.Loader.Sharing
import Overseer.Rehearsal.Script

namespace Overseer.Rehearsal

open Overseer.Loader

-- A loader rehearsed over libraries that open as a script says.

inductive Opening
  | opened
  -- Opened, but found at another path.
  | openedAs (path : Path)
  | libraryOpen (reason : String)
  | symbolMissing (reason : String)
  | homeNotSet

def Opening.outcome (opening : Opening) (path : Path) (symbol : String) :
    Except LoadFault Runtime :=
  match opening with
  | .opened => .ok ⟨path, false⟩
  | .openedAs path => .ok ⟨path, false⟩
  | .libraryOpen reason => .error (.libraryOpen path reason)
  | .symbolMissing reason => .error (.symbolMissing path symbol reason)
  | .homeNotSet => .error .homeNotSet

structure Attempts where
  script : List Opening
  asked : Array (Path × String)

def opener : Opener Attempts := fun attempts path symbol =>
  ((answer attempts.script .opened attempts.asked.size).outcome path symbol,
    { attempts with asked := attempts.asked.push (path, symbol) })

inductive LoaderStep
  | setHome (home : Path)
  | ensureHome (home : Path)
  | unload
  | libraryPath
  | entry
  | call (argument : Int)
  | held (action : LoaderStep)
  | describe
  | layout
deriving Inhabited

inductive LoaderReply
  | done
  | changed (value : Bool)
  | path (path : Path)
  | entry (runtime : Runtime)
  | called (argument : Int)
  | described (text : String)
  | layout (layout : Layout)
  | failed (fault : LoadFault)
  | held (first again : Runtime) (blocked : Bool) (action : LoaderReply)

structure LoaderTrial where
  loader : Loader
  attempts : Attempts

namespace LoaderTrial

def entryPoint (trial : LoaderTrial) : Except LoadFault Runtime × LoaderTrial :=
  let (outcome, loader, attempts) := trial.loader.entryPoint opener trial.attempts
  (outcome, ⟨loader, attempts⟩)

def preflight (trial : LoaderTrial) (home : Path) : Except LoadFault Runtime × LoaderTrial :=
  let (outcome, loader, attempts) := Loader.preflight opener trial.attempts trial.loader home
  (outcome, ⟨loader, attempts⟩)

def waits (trial : LoaderTrial) (call : Call) : Bool :=
  waitsForEntry opener trial.attempts trial.loader call

-- Whether a step has to wait for an entry that is held.
def blocks (trial : LoaderTrial) : LoaderStep → Bool
  | .setHome home => trial.waits (.setHome home)
  | .ensureHome home => trial.waits (.ensureHome home)
  | .unload => trial.waits .unload
  | .entry | .call _ => trial.waits .entryPoint
  | .held action => trial.waits .entryPoint || trial.blocks action
  | .libraryPath | .describe | .layout => trial.waits .look

def step (trial : LoaderTrial) : LoaderStep → LoaderReply × LoaderTrial
  | .setHome home => (.done, { trial with loader := trial.loader.setHome home })
  | .ensureHome home =>
      let (changed, loader) := trial.loader.ensureHome home
      (.changed changed, { trial with loader })
  | .unload => (.done, { trial with loader := trial.loader.unload })
  | .libraryPath =>
      match trial.loader.libraryPath with
      | .ok path => (.path path, trial)
      | .error fault => (.failed fault, trial)
  | .entry =>
      match trial.entryPoint with
      | (.ok runtime, trial) => (.entry runtime, trial)
      | (.error fault, trial) => (.failed fault, trial)
  | .call argument =>
      match trial.entryPoint with
      | (.ok _, trial) => (.called argument, trial)
      | (.error fault, trial) => (.failed fault, trial)
  | .describe => (.described trial.loader.describe, trial)
  | .layout => (.layout trial.loader.layout, trial)
  | .held action =>
      match trial.entryPoint with
      | (.error fault, trial) => (.failed fault, trial)
      | (.ok first, trial) =>
          match trial.entryPoint with
          | (.error fault, trial) => (.failed fault, trial)
          | (.ok again, trial) =>
              let blocked := trial.blocks action
              let (reply, trial) := trial.step action
              (.held first again blocked reply, trial)

end LoaderTrial

end Overseer.Rehearsal
