import Overseer.Fault

namespace Overseer

-- The runtime's native library: found under a configurable home directory,
-- opened when it is first needed and then kept, dropped when the home changes.

namespace Loader

def entrySymbol : String := "JNI_CreateJavaVM"

structure Layout where
  library : Path
  symbol : String
deriving DecidableEq

def Layout.standard : Layout := ⟨Path.ofText "lib/server/libjvm.so", entrySymbol⟩

-- An open library with its resolved entry point. One that is owned is closed
-- together with this value.
structure Runtime where
  path : Path
  owned : Bool
deriving DecidableEq

def truth (value : Bool) : String := if value then "true" else "false"

def Runtime.describe (runtime : Runtime) : String :=
  "LoadedRuntime \x7b path: " ++ runtime.path.quoted ++ ", owned: " ++
    truth runtime.owned ++ " \x7d"

-- What opens libraries. The answer to an attempt may depend on the attempts
-- before it, which the state remembers.
abbrev Opener (σ : Type) := σ → Path → String → Except LoadFault Runtime × σ

end Loader

structure Loader where
  layout : Loader.Layout
  home : Option Path
  loaded : Option Loader.Runtime
deriving DecidableEq

namespace Loader

def new (layout : Layout) : Loader := ⟨layout, none, none⟩

def configured (home : Path) : Option Path := if home.bytes.isEmpty then none else some home

def setHome (loader : Loader) (home : Path) : Loader :=
  { loader with home := configured home, loaded := none }

def sameHome : Option Path → Option Path → Bool
  | none, none => true
  | some a, some b => a.same b
  | _, _ => false

def ensureHome (loader : Loader) (home : Path) : Bool × Loader :=
  if sameHome loader.home (configured home) then (false, loader)
  else (true, loader.setHome home)

def unload (loader : Loader) : Loader := { loader with loaded := none }

def libraryPath (loader : Loader) : Except LoadFault Path :=
  match loader.home with
  | none => .error .homeNotSet
  | some home => .ok (home.join loader.layout.library)

-- Opens the library under the home. A failure changes nothing, so the next
-- request tries again.
def load (opener : Opener σ) (state : σ) (loader : Loader) :
    Except LoadFault Runtime × Loader × σ :=
  match loader.libraryPath with
  | .error fault => (.error fault, loader, state)
  | .ok path =>
      match opener state path loader.layout.symbol with
      | (.ok runtime, state) => (.ok runtime, { loader with loaded := some runtime }, state)
      | (.error fault, state) => (.error fault, loader, state)

def entryPoint (opener : Opener σ) (state : σ) (loader : Loader) :
    Except LoadFault Runtime × Loader × σ :=
  match loader.loaded with
  | some runtime => (.ok runtime, loader, state)
  | none => load opener state loader

def describe (loader : Loader) : String :=
  let home :=
    match loader.home with
    | none => "None"
    | some home => "Some(" ++ home.quoted ++ ")"
  "RuntimeLoader \x7b layout: RuntimeLayout \x7b library: " ++ loader.layout.library.quoted ++
    ", symbol: " ++ Text.Quoted.text loader.layout.symbol ++ " \x7d, home: " ++ home ++
    ", loaded: " ++ truth loader.loaded.isSome ++ " \x7d"

end Loader

end Overseer
