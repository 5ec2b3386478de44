import Overseer.Proofs.Supervisor.Transition

namespace Overseer.Supervisor

open Overseer.Output

-- What happened in an execution, one step after the other, and the views of it
-- in which its properties are stated.

structure Step where
  before : System
  action : Action
  after : System

-- The steps of a sequence of actions, up to the first that cannot be taken.
def System.steps (system : System) : List Action → List Step
  | [] => []
  | action :: actions =>
      match system.act action with
      | .moved next => ⟨system, action, next⟩ :: next.steps actions
      | .blocked | .broken _ => []

def history (config : Config) (actions : List Action) : List Step :=
  (System.new config).steps actions

def Holder.run : Holder → Nat
  | attaching run _ => run
  | signalling run _ => run

namespace Step

-- The run that a step works for.
def run (step : Step) : Option Nat :=
  match step.action with
  | .attach id _ | .read id _ | .announce id | .teardown id => some id
  | .watch _ | .takePending | .conclude _ => step.before.lock.map Holder.run
  | .request _ | .disposeRequest => step.before.core.run.map Run.id
  | _ => none

-- Where the output comes from that a step puts in the queue.
def origin (step : Step) : Source :=
  match step.action with
  | .read _ source => source
  | _ => .supervisor

-- What a step puts in the queue.
def events (step : Step) : List Event :=
  step.after.queue.events.drop step.before.queue.events.length

-- The termination that a step requests.
def request? (step : Step) : Option Signal :=
  match step.action with
  | .request signal => some signal
  | .disposeRequest => some .graceful
  | _ => none

end Step

-- An event in the queue, with the run it was put there for and the place it
-- came from.
structure Notice where
  run : Option Nat
  origin : Source
  event : Event
deriving DecidableEq

def Step.notices (step : Step) : List Notice :=
  step.events.map fun event => ⟨step.run, step.origin, event⟩

def notices (steps : List Step) : List Notice := steps.flatMap Step.notices

def textFrom (source : Source) : Event → Option String
  | .output line => if line.source = source then some line.text else none
  | .stateChanged _ => none

-- What was forwarded from a stream of a run, piece by piece.
def outputs (id : Nat) (source : Source) (notices : List Notice) : List String :=
  notices.filterMap fun notice =>
    if notice.run = some id then textFrom source notice.event else none

-- The run is without its process.
def Core.isSpawning (core : Core) (id : Nat) : Bool :=
  core.run.any fun run => run.id = id && run.handle.isNone

-- The run has its process and is not over.
def Core.isAttached (core : Core) (id : Nat) : Bool :=
  core.run.any fun run => run.id = id && run.handle.isSome

-- The requests made while a run was being spawned, in order.
def earlyRequests (id : Nat) (steps : List Step) : List Signal :=
  steps.filterMap fun step => if step.before.core.isSpawning id then step.request? else none

-- The requests made from when a run had its process until it was over.
def lateRequests (id : Nat) (steps : List Step) : List Signal :=
  steps.filterMap fun step => if step.before.core.isAttached id then step.request? else none

-- What arrived on a stream of a run while it was read.
def messagesTo (id : Nat) (source : Source) (actions : List Action) : List Message :=
  actions.filterMap fun
    | .send id' source' message => if id' = id ∧ source' = source then some message else none
    | _ => none

-- The processes that were installed, each with its run.
def attachments (actions : List Action) : List (Nat × Handle) :=
  actions.filterMap fun
    | .attach id handle => some (id, handle)
    | _ => none

def exitReports (id : Nat) (actions : List Action) : List Exit :=
  actions.filterMap fun
    | .report id' exit => if id' = id then some exit else none
    | _ => none

-- Executions and their steps.

namespace System

variable {system after : System} {actions : List Action} {action : Action}

theorem actAll_cons {more : List Action} {final : System} :
    system.actAll (action :: more) = some final ↔
      ∃ next, system.act action = .moved next ∧ next.actAll more = some final := by
  simp only [actAll]
  split <;> simp_all

theorem actAll_singleton (hact : system.act action = .moved after) :
    system.actAll [action] = some after := by
  simp only [actAll, hact]

theorem actAll_append {more : List Action} (hall : system.actAll actions = some after) :
    system.actAll (actions ++ more) = after.actAll more := by
  induction actions generalizing system with
  | nil =>
      obtain rfl : system = after := by simpa [actAll] using hall
      rfl
  | cons first actions ih =>
      obtain ⟨next, hact, hall⟩ := actAll_cons.mp hall
      simp only [List.cons_append, actAll, hact, ih hall]

theorem steps_concat {next : System} (hall : system.actAll actions = some after)
    (hact : after.act action = .moved next) :
    system.steps (actions ++ [action]) = system.steps actions ++ [⟨after, action, next⟩] := by
  induction actions generalizing system with
  | nil =>
      obtain rfl : system = after := by simpa [actAll] using hall
      simp [steps, hact]
  | cons first actions ih =>
      obtain ⟨middle, hmiddle, hall⟩ := actAll_cons.mp hall
      simp only [List.cons_append, steps, hmiddle, ih hall]

end System

namespace Execution

variable {config : Config} {actions : List Action} {system after : System} {action : Action}

theorem actAll (h : Execution config actions system) :
    (System.new config).actAll actions = some system := by
  induction h with
  | initial => rfl
  | step _ hact ih => simp only [System.actAll_append ih, System.actAll, hact]

theorem append {more : List Action} (h : Execution config actions system)
    (hall : system.actAll more = some after) : Execution config (actions ++ more) after := by
  induction more generalizing actions system with
  | nil =>
      obtain rfl : system = after := by simpa [System.actAll] using hall
      simpa using h
  | cons action more ih =>
      obtain ⟨next, hnext, hall⟩ := System.actAll_cons.mp hall
      simpa using ih (.step h hnext) hall

theorem of_actAll (hall : (System.new config).actAll actions = some system) :
    Execution config actions system :=
  append .initial hall

theorem history_concat (h : Execution config actions system)
    (hact : system.act action = .moved after) :
    history config (actions ++ [action]) = history config actions ++ [⟨system, action, after⟩] :=
  System.steps_concat h.actAll hact

theorem map_action_history (h : Execution config actions system) :
    (history config actions).map Step.action = actions := by
  induction h with
  | initial => rfl
  | step hbefore hact ih => rw [hbefore.history_concat hact, List.map_append, ih]; rfl

-- Every step of a history was taken in a state that could be reached.
theorem mem_history (h : Execution config actions system) {step : Step}
    (hstep : step ∈ history config actions) :
    ∃ earlier, Execution config earlier step.before ∧
      step.before.act step.action = .moved step.after := by
  induction h with
  | initial => simp [history, System.steps] at hstep
  | @step actions before after action hbefore hact ih =>
      rw [hbefore.history_concat hact] at hstep
      rcases List.mem_append.mp hstep with hstep | hstep
      · exact ih hstep
      · rw [List.mem_singleton.mp hstep]
        exact ⟨actions, hbefore, hact⟩

end Execution

-- What a step puts in the queue.

namespace Queue

theorem putAll_of_open {queue : Queue} (hopen : queue.ended = false) (events : List Event) :
    queue.putAll events =
      { queue with items := queue.items ++ (events.map Item.event).toArray } := by
  induction events generalizing queue with
  | nil => simp [putAll]
  | cons event events ih =>
      have hput : queue.put (.event event) =
          { queue with items := queue.items.push (.event event) } := by
        simp [put, hopen]
      have hstep : queue.putAll (event :: events) = (queue.put (.event event)).putAll events := rfl
      rw [hstep, hput]
      have hpushed : ({ queue with items := queue.items.push (.event event) } : Queue).ended =
          false := hopen
      rw [ih hpushed]
      simp

theorem events_putAll {queue : Queue} (hopen : queue.ended = false) (events : List Event) :
    (queue.putAll events).events = queue.events ++ events := by
  rw [putAll_of_open hopen, Queue.events, Array.toList_append, List.filterMap_append,
    List.filterMap_map]
  exact congrArg (queue.events ++ ·) List.filterMap_some

theorem events_put_shutdown (queue : Queue) : (queue.put .shutdown).events = queue.events := by
  unfold put
  split
  · rfl
  · simp [Queue.events, List.filterMap_append]

theorem events_deliver {queue next : Queue} (h : queue.deliver = some next) :
    next.events = queue.events := by
  unfold deliver at h
  split at h
  · cases h
  split at h
  · cases h
  all_goals
    cases h
    rfl

end Queue

theorem Step.events_of_putAll (step : Step) (events : List Event)
    (hopen : step.before.queue.ended = false)
    (hqueue : step.after.queue = step.before.queue.putAll events) : step.events = events := by
  rw [Step.events, hqueue, Queue.events_putAll hopen, List.drop_left]

theorem Step.events_of_same {step : Step}
    (hqueue : step.after.queue.events = step.before.queue.events) : step.events = [] := by
  rw [Step.events, hqueue, List.drop_length]

-- The views of a history that is one step longer.

theorem notices_concat (steps : List Step) (step : Step) :
    notices (steps ++ [step]) = notices steps ++ step.notices := by
  simp [notices]

theorem outputs_concat (id : Nat) (source : Source) (earlier later : List Notice) :
    outputs id source (earlier ++ later) = outputs id source earlier ++ outputs id source later :=
  List.filterMap_append

theorem messagesTo_concat (id : Nat) (source : Source) (actions : List Action) (action : Action) :
    messagesTo id source (actions ++ [action]) =
      messagesTo id source actions ++ messagesTo id source [action] :=
  List.filterMap_append

theorem attachments_concat (actions : List Action) (action : Action) :
    attachments (actions ++ [action]) = attachments actions ++ attachments [action] :=
  List.filterMap_append

theorem exitReports_concat (id : Nat) (actions : List Action) (action : Action) :
    exitReports id (actions ++ [action]) = exitReports id actions ++ exitReports id [action] :=
  List.filterMap_append

theorem earlyRequests_concat (id : Nat) (steps : List Step) (step : Step) :
    earlyRequests id (steps ++ [step]) = earlyRequests id steps ++ earlyRequests id [step] :=
  List.filterMap_append

theorem lateRequests_concat (id : Nat) (steps : List Step) (step : Step) :
    lateRequests id (steps ++ [step]) = lateRequests id steps ++ lateRequests id [step] :=
  List.filterMap_append

-- When the request counts that a step makes.

section Requests

variable {step : Step} {id : Nat} {run : Run} {handle : Handle} {signal : Signal}

theorem requests_of_quiet (h : step.request? = none) :
    earlyRequests id [step] = [] ∧ lateRequests id [step] = [] := by
  simp [earlyRequests, lateRequests, h]

theorem requests_concat_of_quiet (id : Nat) (steps : List Step) (step : Step)
    (h : step.request? = none) :
    earlyRequests id (steps ++ [step]) = earlyRequests id steps ∧
      lateRequests id (steps ++ [step]) = lateRequests id steps := by
  obtain ⟨hearly, hlate⟩ : earlyRequests id [step] = [] ∧ lateRequests id [step] = [] :=
    requests_of_quiet h
  rw [earlyRequests_concat, lateRequests_concat, hearly, hlate, List.append_nil, List.append_nil]
  exact ⟨rfl, rfl⟩

theorem requests_of_elsewhere (h : ∀ run, step.before.core.run = some run → run.id ≠ id) :
    earlyRequests id [step] = [] ∧ lateRequests id [step] = [] := by
  cases hrun : step.before.core.run with
  | none => simp [earlyRequests, lateRequests, Core.isSpawning, Core.isAttached, hrun]
  | some run =>
      have hne := h run hrun
      simp [earlyRequests, lateRequests, Core.isSpawning, Core.isAttached, hrun, hne]

theorem requests_of_spawning (step : Step) (hrun : step.before.core.run = some run)
    (hid : run.id = id)
    (hhandle : run.handle = none) (hrequest : step.request? = some signal) :
    earlyRequests id [step] = [signal] ∧ lateRequests id [step] = [] := by
  simp [earlyRequests, lateRequests, Core.isSpawning, Core.isAttached, hrun, hid, hhandle,
    hrequest]

theorem requests_of_attached (step : Step) (hrun : step.before.core.run = some run)
    (hid : run.id = id)
    (hhandle : run.handle = some handle) (hrequest : step.request? = some signal) :
    earlyRequests id [step] = [] ∧ lateRequests id [step] = [signal] := by
  simp [earlyRequests, lateRequests, Core.isSpawning, Core.isAttached, hrun, hid, hhandle,
    hrequest]

end Requests

end Overseer.Supervisor
