import Mathlib.Data.List.Basic
import Overseer.Proofs.Supervisor.Transition

namespace Overseer.Supervisor

open Overseer.Output

-- Runs are told apart by their numbers and in no other way: if the runs after a
-- given one bear the next number each, everything goes on as before.

def bump (fork id : Nat) : Nat := if id ≤ fork then id else id + 1

section Bump

variable {fork id other : Nat}

theorem bump_injective (fork : Nat) : Function.Injective (bump fork) := by
  intro first second heq
  unfold bump at heq
  split at heq <;> split at heq <;> omega

@[simp] theorem bump_inj : bump fork id = bump fork other ↔ id = other :=
  (bump_injective fork).eq_iff

theorem bump_of_le (h : id ≤ fork) : bump fork id = id := if_pos h

theorem bump_succ (h : fork ≤ id) : bump fork (id + 1) = id + 1 + 1 :=
  if_neg (Nat.not_le.mpr (Nat.lt_succ_of_le h))

end Bump

def Run.renumber (fork : Nat) (run : Run) : Run := { run with id := bump fork run.id }

def Holder.renumber (fork : Nat) : Holder → Holder
  | attaching run unread => attaching (bump fork run) unread
  | signalling run signal => signalling (bump fork run) signal

def ReaderThread.renumber (fork : Nat) (thread : ReaderThread) : ReaderThread :=
  { thread with run := bump fork thread.run }

def Teardown.renumber (fork : Nat) (teardown : Teardown) : Teardown :=
  { teardown with run := bump fork teardown.run }

def Action.renumber (fork : Nat) : Action → Action
  | fail run => fail (bump fork run)
  | attach run handle => attach (bump fork run) handle
  | send run source message => send (bump fork run) source message
  | read run source => read (bump fork run) source
  | announce run => announce (bump fork run)
  | report run exit => report (bump fork run) exit
  | teardown run => teardown (bump fork run)
  | action => action

-- The run that an action names.
def Action.run? : Action → Option Nat
  | fail run | attach run _ | send run _ _ | read run _ | announce run | report run _
  | teardown run => some run
  | _ => none

theorem Action.renumber_of_run?_eq_none {fork : Nat} {action : Action} (h : action.run? = none) :
    action.renumber fork = action := by
  cases action <;> first | rfl | cases h

theorem Action.exists_renumber {fork run : Nat} {action : Action}
    (h : action.run? = some (bump fork run)) : ∃ origin : Action, origin.renumber fork = action := by
  cases action <;> cases h
  case fail => exact ⟨.fail run, rfl⟩
  case attach handle => exact ⟨.attach run handle, rfl⟩
  case send source message => exact ⟨.send run source message, rfl⟩
  case read source => exact ⟨.read run source, rfl⟩
  case announce => exact ⟨.announce run, rfl⟩
  case report exit => exact ⟨.report run exit, rfl⟩
  case teardown => exact ⟨.teardown run, rfl⟩

-- One more number has been used.
def Core.renumber (fork : Nat) (core : Core) : Core :=
  { core with run := core.run.map (Run.renumber fork), lastRun := core.lastRun + 1 }

-- Those who wait and the log stay as they are given.
def System.renumber (fork : Nat) (system : System) (waiters : List Waiter)
    (records : List Log.RunRecord) : System :=
  { system with
    core := system.core.renumber fork
    lock := system.lock.map (Holder.renumber fork)
    windows := system.windows.map (bump fork)
    readers := system.readers.map (ReaderThread.renumber fork)
    reportable := system.reportable.map (bump fork)
    teardowns := system.teardowns.map (Teardown.renumber fork)
    signals := system.signals.map fun sent => (bump fork sent.1, sent.2)
    waiters := waiters
    records := records }

-- What each part of an operation does to the core.

namespace Core

variable {core : Core} {fork : Nat}

theorem begin?_renumber (h : fork ≤ core.lastRun) :
    (core.renumber fork).begin? = core.begin?.map (renumber fork) := by
  unfold begin?
  by_cases hstopped : core.state = .stopped
  · simp [hstopped, renumber, Run.renumber, bump_succ h]
  · simp [hstopped, renumber]

theorem lastRun_begin? {next : Core} (h : core.begin? = some next) :
    next.lastRun = core.lastRun + 1 := by
  unfold begin? at h
  split at h
  all_goals
    cases h
  rfl

theorem attach_renumber (id : Nat) (handle : Handle) :
    (core.renumber fork).attach (bump fork id) handle =
      (core.attach id handle).map (renumber fork) := by
  unfold attach
  cases hrun : core.run with
  | none => simp [renumber, hrun, Except.map]
  | some run =>
      simp only [renumber, hrun, Option.map_some, Run.renumber, ne_eq, bump_inj]
      repeat' split
      all_goals rfl

theorem lastRun_attach {id : Nat} {handle : Handle} {next : Core}
    (h : core.attach id handle = .ok next) : next.lastRun = core.lastRun := by
  unfold attach at h
  repeat' split at h
  all_goals
    cases h
  rfl

theorem addReader_renumber (source : Source) :
    (core.renumber fork).addReader source = (core.addReader source).renumber fork := by
  simp [addReader, renumber, Run.renumber, Function.comp_def]

theorem missReader_renumber :
    (core.renumber fork).missReader = core.missReader.renumber fork := by
  simp [missReader, renumber, Run.renumber, Function.comp_def]

theorem takePending_renumber :
    (core.renumber fork).takePending =
      core.takePending.map fun taken => (taken.1, taken.2.renumber fork) := by
  unfold takePending
  cases hrun : core.run with
  | none => simp [renumber, hrun]
  | some run => cases hpending : run.pending <;> simp [renumber, Run.renumber, hrun, hpending]

theorem lastRun_takePending {signal : Signal} {next : Core}
    (h : core.takePending = some (signal, next)) : next.lastRun = core.lastRun := by
  unfold takePending at h
  repeat' split at h
  all_goals
    cases h
  rfl

-- The core that is left when there is one.
def Requested.core? : Requested → Option Core
  | ignored => none
  | recorded core | sent _ _ core => some core

theorem lastRun_request {signal : Signal} {requested : Requested} {next : Core}
    (h : core.request signal = .ok requested) (hnext : requested.core? = some next) :
    next.lastRun = core.lastRun := by
  unfold request at h
  repeat' split at h
  all_goals
    cases h <;> cases hnext <;> rfl

def Requested.renumber (fork : Nat) : Requested → Requested
  | ignored => ignored
  | recorded core => recorded (core.renumber fork)
  | sent id entering core => sent (bump fork id) entering (core.renumber fork)

theorem request_renumber (signal : Signal) :
    (core.renumber fork).request signal =
      (core.request signal).map (Requested.renumber fork) := by
  unfold request
  obtain ⟨state, run?, lastRun⟩ := core
  cases state <;> cases run? with
  | none => cases signal <;> rfl
  | some run => cases hhandle : run.handle <;> cases signal <;>
      simp [renumber, Run.renumber, hhandle, Except.map, Requested.renumber]

theorem concluded_renumber (outcome : Except Fault Unit) :
    (core.renumber fork).concluded outcome = core.concluded outcome := by
  unfold concluded
  cases hrun : core.run with
  | none => simp [renumber, hrun]
  | some run => simp [renumber, Run.renumber, hrun]

theorem ready_renumber (id : Nat) :
    (core.renumber fork).ready (bump fork id) =
      (core.ready id).map (Option.map (renumber fork)) := by
  unfold ready
  cases hrun : core.run with
  | none => simp [renumber, hrun, Except.map]
  | some run =>
      by_cases hid : run.id = id
      · cases hstate : core.state <;> cases hexited : run.exited <;>
          simp [renumber, Run.renumber, hrun, hid, hstate, hexited, Except.map]
      · simp [renumber, Run.renumber, hrun, hid, Except.map]

theorem flagExit_renumber (id : Nat) :
    (core.renumber fork).flagExit (bump fork id) =
      (core.flagExit id).map fun flagged => (flagged.1, flagged.2.renumber fork) := by
  unfold flagExit
  cases hrun : core.run with
  | none => simp [renumber, hrun]
  | some run =>
      cases hexited : run.exited <;> by_cases hid : run.id = id <;>
        simp [renumber, Run.renumber, hrun, hid, hexited]

theorem lastRun_flagExit {id : Nat} {awaited : List Source} {next : Core}
    (h : core.flagExit id = some (awaited, next)) : next.lastRun = core.lastRun := by
  obtain ⟨run, -, -, -, -, rfl⟩ := flagExit_eq_some h
  rfl

theorem lastRun_ready {id : Nat} {next : Core} (h : core.ready id = .ok (some next)) :
    next.lastRun = core.lastRun := by
  obtain ⟨run, -, -, -, -, rfl⟩ := ready_eq_some h
  rfl

theorem finish_renumber :
    (core.renumber fork).finish = core.finish.map (renumber fork) := by
  cases hrun : core.run <;> simp [finish, renumber, hrun, Except.map]

theorem lastRun_finish {next : Core} (h : core.finish = .ok next) :
    next.lastRun = core.lastRun := by
  unfold finish at h
  split at h
  all_goals
    cases h
  rfl

end Core

-- The tables of a renumbered system.

namespace System

variable {system : System} {fork : Nat} {waiters : List Waiter} {records : List Log.RunRecord}

theorem key_renumber (fork : Nat) (thread : ReaderThread) (run : Nat) (source : Source) :
    (decide ((thread.renumber fork).run = bump fork run) &&
      decide ((thread.renumber fork).source = source)) =
        (decide (thread.run = run) && decide (thread.source = source)) :=
  congrArg (· && decide (thread.source = source)) (decide_eq_decide.mpr bump_inj)

theorem findReader_renumber (run : Nat) (source : Source) :
    (system.renumber fork waiters records).findReader (bump fork run) source =
      (system.findReader run source).map (ReaderThread.renumber fork) := by
  simp only [findReader, renumber, List.find?_map, Function.comp_def, key_renumber]

theorem setReader_renumber (changed : ReaderThread) :
    (system.renumber fork waiters records).setReader (changed.renumber fork) =
      (system.setReader changed).renumber fork waiters records := by
  simp only [setReader, renumber, List.map_map, mk.injEq, true_and, and_true]
  refine List.map_congr_left fun thread _ => ?_
  have hkey := key_renumber fork thread changed.run changed.source
  simp only [Function.comp_apply]
  rw [apply_ite (ReaderThread.renumber fork), ← hkey]
  rfl

theorem endReader_renumber (run : Nat) (source : Source) :
    (system.renumber fork waiters records).endReader (bump fork run) source =
      (system.endReader run source).renumber fork waiters records := by
  simp only [endReader, renumber, List.filter_map, Function.comp_def, key_renumber]

theorem sendSignal_renumber (run : Nat) (signal : Signal) :
    (system.renumber fork waiters records).sendSignal (bump fork run) signal =
      (system.sendSignal run signal).renumber fork waiters records := by
  simp [sendSignal, renumber, Holder.renumber]

theorem concat_map {α β : Type} (f : α → β) (items : List α) (item : α) :
    items.map f ++ [f item] = (items ++ [item]).map f := by
  simp

theorem contains_map_bump (ids : List Nat) (id : Nat) :
    (ids.map (bump fork)).contains (bump fork id) = ids.contains id := by
  rw [Bool.eq_iff_iff]
  simp

theorem erase_map_bump (ids : List Nat) (id : Nat) :
    (ids.map (bump fork)).erase (bump fork id) = (ids.erase id).map (bump fork) :=
  (List.map_erase (bump_injective fork) ids).symm

theorem teardown_renumber_injective (fork : Nat) :
    Function.Injective (Teardown.renumber fork) := by
  intro first second heq
  obtain ⟨run, exit, awaited⟩ := first
  obtain ⟨run', exit', awaited'⟩ := second
  simpa [Teardown.renumber] using heq

theorem erase_map_teardown (teardowns : List Teardown) (teardown : Teardown) :
    (teardowns.map (Teardown.renumber fork)).erase (teardown.renumber fork) =
      (teardowns.erase teardown).map (Teardown.renumber fork) :=
  (List.map_erase (teardown_renumber_injective fork) teardowns).symm

theorem find?_teardown_renumber (teardowns : List Teardown) (run : Nat) :
    (teardowns.map (Teardown.renumber fork)).find? (fun teardown => teardown.run = bump fork run) =
      (teardowns.find? fun teardown => teardown.run = run).map (Teardown.renumber fork) := by
  rw [List.find?_map]
  refine congrArg (fun matching => (teardowns.find? matching).map _) (funext fun teardown => ?_)
  exact decide_eq_decide.mpr bump_inj

end System

end Overseer.Supervisor
