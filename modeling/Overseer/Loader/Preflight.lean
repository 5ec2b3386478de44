import Overseer.Loader.Basic

namespace Overseer.Loader

-- Sequences of calls on a loader, and the check before a spawn, which is two
-- calls: the home is made the one that is about to be used, and the entry
-- point is asked for. Others who share the loader may call in between.

inductive Operation
  | setHome (home : Path)
  | ensureHome (home : Path)
  | unload
  | entryPoint
  | libraryPath

inductive Outcome
  | done
  | changed (value : Bool)
  | entry (runtime : Runtime)
  | path (path : Path)
  | failed (fault : LoadFault)
deriving DecidableEq

def Outcome.ofEntry : Except LoadFault Runtime → Outcome
  | .ok runtime => .entry runtime
  | .error fault => .failed fault

def Outcome.ofPath : Except LoadFault Path → Outcome
  | .ok place => .path place
  | .error fault => .failed fault

def perform (opener : Opener σ) (state : σ) (loader : Loader) :
    Operation → Outcome × Loader × σ
  | .setHome home => (.done, loader.setHome home, state)
  | .ensureHome home =>
      let (changed, loader) := loader.ensureHome home
      (.changed changed, loader, state)
  | .unload => (.done, loader.unload, state)
  | .entryPoint =>
      let (outcome, loader, state) := loader.entryPoint opener state
      (.ofEntry outcome, loader, state)
  | .libraryPath => (.ofPath loader.libraryPath, loader, state)

def performAll (opener : Opener σ) (state : σ) (loader : Loader) :
    List Operation → List Outcome × Loader × σ
  | [] => ([], loader, state)
  | operation :: rest =>
      let (outcome, loader, state) := perform opener state loader operation
      let (outcomes, loader, state) := performAll opener state loader rest
      (outcome :: outcomes, loader, state)

def preflightAmid (opener : Opener σ) (state : σ) (loader : Loader) (home : Path)
    (between : List Operation) : Except LoadFault Runtime × Loader × σ :=
  let (_, loader) := loader.ensureHome home
  let (_, loader, state) := performAll opener state loader between
  loader.entryPoint opener state

def preflight (opener : Opener σ) (state : σ) (loader : Loader) (home : Path) :
    Except LoadFault Runtime × Loader × σ :=
  preflightAmid opener state loader home []

end Overseer.Loader
