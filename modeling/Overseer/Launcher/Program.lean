import Overseer.Launcher.Phase
import Overseer.Supervisor.System

namespace Overseer.Launcher

open Overseer.Supervisor

-- The launcher together with its supervisor, from the moment the server is
-- started. Its main thread does one thing at a time: while a request of its
-- own is under way it neither hears nor asks anything else.

structure Program where
  system : System
  phase : Phase
  received : Nat
  requests : List Signal

inductive ProgramAction
  | inner (action : Action)
  | interrupt
  | receive

def belongsToMain : Action → Bool
  | .start | .fail _ | .attach _ _ | .watch _ | .takePending | .request _ | .await _ | .look _
  | .expire _ => true
  | _ => false

def belongsToReturn : Action → Bool
  | .dispose _ | .disposeRequest | .disposeLook | .disposeClose => true
  | _ => false

def belongsToNobody : Action → Bool
  | .dispose inside => inside
  | _ => false

def startCalls (handle : Handle) (refusals : List (Option String)) : List Action :=
  .start :: .attach 1 handle :: refusals.map .watch ++ [.takePending]

structure Launched (config : Config) (launch : List Action) (system : System) : Prop where
  execution : Execution config launch system
  calls : ∃ handle refusals, launch.filter belongsToMain = startCalls handle refusals
  kept : ∀ action ∈ launch, belongsToReturn action = false
  returned : system.lock = none

namespace Program

def notifications (program : Program) : List State :=
  program.system.queue.handed.filterMap fun event =>
    match event with
    | .stateChanged state => some state
    | .output _ => none

def heard (program : Program) : List State := program.notifications.take program.received

def console (program : Program) : List Line :=
  program.system.queue.handed.filterMap fun event =>
    match event with
    | .output line => some line
    | .stateChanged _ => none

def wake (program : Program) (wake : Wake) : Option Program :=
  let turn := program.phase.turn wake
  match turn.request with
  | none => some { program with phase := turn.phase }
  | some signal =>
      match program.system.act (.request signal) with
      | .moved system =>
          some { program with
            system, phase := turn.phase, requests := program.requests ++ [signal] }
      | .blocked | .broken _ => none

-- The observer, and with it the way to the main thread, goes with the
-- dispatcher.
def act (program : Program) : ProgramAction → Option Program
  | .inner action =>
      if belongsToMain action || (belongsToReturn action && program.phase ≠ .over) ||
          belongsToNobody action then none
      else
        match program.system.act action with
        | .moved system => some { program with system }
        | .blocked | .broken _ => none
  | .interrupt =>
      if program.phase = .over || !program.system.isFree then none
      else program.wake .interrupted
  | .receive =>
      if program.phase = .over || !program.system.isFree then none
      else
        match program.notifications[program.received]? with
        | some state =>
            (program.wake (.heard state)).map fun program =>
              { program with received := program.received + 1 }
        | none => if program.system.queue.ended then program.wake .abandoned else none

def actAll (program : Program) : List ProgramAction → Option Program
  | [] => some program
  | action :: actions =>
      match program.act action with
      | some next => next.actAll actions
      | none => none

end Program

inductive Running (config : Config) (launch : List Action) : List ProgramAction → Program → Prop
  | launched {system : System} :
      Launched config launch system → Running config launch [] ⟨system, .serving, 0, []⟩
  | step {actions : List ProgramAction} {before after : Program} {action : ProgramAction} :
      Running config launch actions before → before.act action = some after →
      Running config launch (actions ++ [action]) after

end Overseer.Launcher
