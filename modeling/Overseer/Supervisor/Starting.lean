import Overseer.Supervisor.Drive

namespace Overseer.Supervisor

-- A start call as a whole. Between its parts the lock is free, and whoever keeps
-- the system finds a process for the run.

def System.opening? (system : System) : Option Nat :=
  if system.isFree && system.isOpen then system.core.begin?.map Core.lastRun else none

structure Host (σ : Type) where
  system : σ → System
  take : σ → Action → σ
  system_take (state : σ) (action : Action) :
    system (take state action) = (system state).take action

variable {σ α : Type}

def Host.start (host : Host σ) (launch : σ → Except Fault α × σ) (install : Nat → α → σ → σ)
    (state : σ) : Except Fault Unit × σ :=
  match (host.system state).opening? with
  | none => (.ok (), state)
  | some run =>
      match launch (host.take state .start) with
      | (.error fault, state) => (.error fault, host.take state (.fail run))
      | (.ok made, state) => (.ok (), install run made state)

end Overseer.Supervisor
