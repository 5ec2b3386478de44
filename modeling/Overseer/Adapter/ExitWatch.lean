import Overseer.Event
import Overseer.Exit

namespace Overseer.Adapter

-- How the exit of a process is told. A watcher waits for the process, and
-- keeps the report until the handle's owner has registered a callback. The two
-- meet in a channel for a single callback, whose sending end the handle gives
-- up with the first registration.

inductive Watcher
  | waiting
  | holding (report : Exit)
  | over
deriving DecidableEq

inductive Sender
  | kept
  | spent
  | released
deriving DecidableEq

structure ExitWatch (κ : Type) where
  exited : Option Exit
  handle : Bool
  sender : Sender
  slot : Option κ
  watcher : Watcher
  invoked : List (κ × Exit)
  registered : List κ
  signals : List Signal

inductive WatchAction (κ : Type)
  | exit (report : Exit)
  | reap
  -- The watcher takes a callback out of the channel and invokes it, or finds
  -- that none can come any more.
  | receive
  | register (callback : κ)
  | terminate (signal : Signal)
  | release

namespace ExitWatch

def new : ExitWatch κ := ⟨none, true, .kept, none, .waiting, [], [], []⟩

def act (watch : ExitWatch κ) : WatchAction κ → Option (ExitWatch κ)
  | .exit report =>
      match watch.exited with
      | some _ => none
      | none => some { watch with exited := some report }
  | .reap =>
      match watch.watcher, watch.exited with
      | .waiting, some report => some { watch with watcher := .holding report }
      | _, _ => none
  | .receive =>
      match watch.watcher, watch.slot with
      | .holding report, some callback =>
          some { watch with
            slot := none, watcher := .over, invoked := watch.invoked ++ [(callback, report)] }
      | .holding _, none =>
          if watch.sender = .kept then none else some { watch with watcher := .over }
      | _, _ => none
  | .register callback =>
      if !watch.handle then none
      else
        let watch := { watch with registered := watch.registered ++ [callback] }
        if watch.sender = .kept then some { watch with sender := .spent, slot := some callback }
        else some watch
  | .terminate signal =>
      if watch.handle then some { watch with signals := watch.signals ++ [signal] } else none
  | .release =>
      if !watch.handle then none
      else
        some { watch with
          handle := false, sender := if watch.sender = .kept then .released else watch.sender }

def watch (watch : ExitWatch κ) : ExitWatch κ :=
  let reaped := (watch.act .reap).getD watch
  (reaped.act .receive).getD reaped

end ExitWatch

inductive Watched {κ : Type} : List (WatchAction κ) → ExitWatch κ → Prop
  | new : Watched [] .new
  | step {actions : List (WatchAction κ)} {before after : ExitWatch κ} {action : WatchAction κ} :
      Watched actions before → before.act action = some after →
      Watched (actions ++ [action]) after

end Overseer.Adapter
