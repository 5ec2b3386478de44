import Overseer.Proofs.Supervisor.Refusals

namespace Overseer.Supervisor

open Overseer.Output

-- Nothing but the line about it depends on whether a request for termination
-- succeeds. No one but the dispatcher looks into the queue, so what is done is
-- the same whatever the queue holds.

-- The dispatcher's own work.
def Action.isDispatch : Action → Bool
  | .deliver | .settle => true
  | _ => false

def System.withQueue (system : System) (queue : Queue) : System := { system with queue := queue }

-- What the same action comes to with another queue.
inductive Move.Shadows (queue other : Queue) : Move → Move → Prop
  | blocked {move : Move} : Shadows queue other .blocked move
  | broken {violation : Violation} {move : Move} : Shadows queue other (.broken violation) move
  | told {after : System} {events : List Event} :
      after.queue = queue.putAll events →
      Shadows queue other (.moved after) (.moved (after.withQueue (other.putAll events)))
  | marked {after : System} :
      after.queue = queue.put .shutdown →
      Shadows queue other (.moved after) (.moved (after.withQueue (other.put .shutdown)))

-- An action that tells nothing.
theorem Move.Shadows.silent {queue other : Queue} {after : System} (hqueue : after.queue = queue) :
    Move.Shadows queue other (.moved after) (.moved (after.withQueue other)) :=
  @told queue other after [] hqueue

namespace System

variable {system after : System} {queue : Queue}

section Fields

variable (system queue)

theorem config_withQueue : (system.withQueue queue).config = system.config := rfl

theorem core_withQueue : (system.withQueue queue).core = system.core := rfl

theorem lock_withQueue : (system.withQueue queue).lock = system.lock := rfl

theorem windows_withQueue : (system.withQueue queue).windows = system.windows := rfl

theorem teardowns_withQueue : (system.withQueue queue).teardowns = system.teardowns := rfl

theorem reportable_withQueue : (system.withQueue queue).reportable = system.reportable := rfl

theorem waiters_withQueue : (system.withQueue queue).waiters = system.waiters := rfl

theorem closing_withQueue : (system.withQueue queue).closing = system.closing := rfl

theorem isFree_withQueue : (system.withQueue queue).isFree = system.isFree := rfl

theorem isOpen_withQueue : (system.withQueue queue).isOpen = system.isOpen := rfl

theorem findReader_withQueue (run : Nat) (source : Source) :
    (system.withQueue queue).findReader run source = system.findReader run source := rfl

end Fields

theorem onStart_shadows : Move.Shadows system.queue queue system.onStart
    (system.withQueue queue).onStart := by
  unfold onStart
  rw [isFree_withQueue, isOpen_withQueue, core_withQueue]
  split
  · exact .blocked
  · split
    · exact .silent rfl
    · exact .silent rfl

theorem onFail_shadows (run : Nat) : Move.Shadows system.queue queue (system.onFail run)
    ((system.withQueue queue).onFail run) := by
  unfold onFail
  rw [isFree_withQueue, windows_withQueue]
  split
  · exact .blocked
  · exact .silent rfl

theorem onAttach_shadows (run : Nat) (handle : Handle) :
    Move.Shadows system.queue queue (system.onAttach run handle)
      ((system.withQueue queue).onAttach run handle) := by
  unfold onAttach
  rw [isFree_withQueue, windows_withQueue, core_withQueue]
  split
  · exact .blocked
  · split
    · exact .broken
    · exact .told rfl

theorem onWatch_shadows (refusal : Option String) :
    Move.Shadows system.queue queue (system.onWatch refusal)
      ((system.withQueue queue).onWatch refusal) := by
  unfold onWatch
  rw [lock_withQueue]
  split
  · cases refusal with
    | none => exact .silent rfl
    | some reason => exact .told rfl
  · exact .blocked

theorem onTakePending_shadows : Move.Shadows system.queue queue system.onTakePending
    (system.withQueue queue).onTakePending := by
  unfold onTakePending
  rw [lock_withQueue, core_withQueue]
  split
  · split
    · exact .silent rfl
    · exact .told rfl
  · exact .blocked

theorem onRequest_shadows (signal : Signal) :
    Move.Shadows system.queue queue (system.onRequest signal)
      ((system.withQueue queue).onRequest signal) := by
  unfold onRequest
  rw [isFree_withQueue, core_withQueue]
  split
  · exact .blocked
  · split
    · exact .broken
    · exact .silent rfl
    · exact .silent rfl
    · rename_i run entering core hrequest
      cases entering with
      | false => exact .silent rfl
      | true => exact .told rfl

theorem onConclude_shadows (outcome : Except Fault Unit) :
    Move.Shadows system.queue queue (system.onConclude outcome)
      ((system.withQueue queue).onConclude outcome) := by
  unfold onConclude
  rw [lock_withQueue, core_withQueue]
  split
  · split
    · exact .broken
    · exact .told rfl
  · exact .blocked

theorem onSend_shadows (run : Nat) (source : Source) (message : Message) :
    Move.Shadows system.queue queue (system.onSend run source message)
      ((system.withQueue queue).onSend run source message) := by
  unfold onSend
  rw [findReader_withQueue]
  split
  · exact .blocked
  · exact .silent rfl

theorem onRead_shadows (run : Nat) (source : Source) :
    Move.Shadows system.queue queue (system.onRead run source)
      ((system.withQueue queue).onRead run source) := by
  unfold onRead
  rw [findReader_withQueue, config_withQueue]
  split
  · exact .blocked
  · split
    · exact .blocked
    · split
      · exact .blocked
      · exact .silent rfl
      · exact .told rfl
      · exact .told rfl

theorem onAnnounce_shadows (run : Nat) : Move.Shadows system.queue queue (system.onAnnounce run)
    ((system.withQueue queue).onAnnounce run) := by
  unfold onAnnounce
  rw [isFree_withQueue, findReader_withQueue, core_withQueue]
  split
  · exact .blocked
  · split
    · exact .blocked
    · split
      · exact .blocked
      · dsimp only
        split
        · exact .broken
        · exact .silent rfl
        · exact .told rfl

theorem onReport_shadows (run : Nat) (exit : Exit) :
    Move.Shadows system.queue queue (system.onReport run exit)
      ((system.withQueue queue).onReport run exit) := by
  unfold onReport
  rw [isFree_withQueue, reportable_withQueue]
  split
  · exact .blocked
  · dsimp only
    rw [core_withQueue]
    split
    · exact .silent rfl
    · exact .silent rfl

theorem onTeardown_shadows (run : Nat) : Move.Shadows system.queue queue (system.onTeardown run)
    ((system.withQueue queue).onTeardown run) := by
  unfold onTeardown
  rw [isFree_withQueue, teardowns_withQueue, core_withQueue]
  split
  · exact .blocked
  · split
    · exact .blocked
    · rename_i teardown _
      have hjoined : (teardown.awaited.any fun source =>
          ((system.withQueue queue).findReader run source).isSome) =
          teardown.awaited.any fun source => (system.findReader run source).isSome := rfl
      rw [hjoined]
      split
      · exact .blocked
      · split
        · exact .broken
        · rename_i core _
          exact @Move.Shadows.told _ _ _ [stoppedLine teardown.exit, .stateChanged core.state] rfl

theorem onAwait_shadows (target : State) : Move.Shadows system.queue queue (system.onAwait target)
    ((system.withQueue queue).onAwait target) := by
  unfold onAwait
  rw [isOpen_withQueue]
  split
  · exact .blocked
  · exact .silent rfl

theorem onLook_shadows (index : Nat) : Move.Shadows system.queue queue (system.onLook index)
    ((system.withQueue queue).onLook index) := by
  unfold onLook
  rw [isFree_withQueue, waiters_withQueue]
  split
  · exact .blocked
  · split
    · exact .blocked
    · split
      · exact .silent rfl
      · exact .silent rfl
      · exact .blocked
      · exact .blocked

theorem onExpire_shadows (index : Nat) : Move.Shadows system.queue queue (system.onExpire index)
    ((system.withQueue queue).onExpire index) := by
  unfold onExpire
  rw [isFree_withQueue, waiters_withQueue]
  split
  · exact .blocked
  · split
    · exact .blocked
    · split
      · exact .silent rfl
      · exact .silent rfl
      · exact .blocked
      · exact .blocked

-- A disposal inside a callback is the one call that asks for a busy observer.
theorem onDispose_shadows (hbusy : queue.busy = true) (inside : Bool) :
    Move.Shadows system.queue queue (system.onDispose inside)
      ((system.withQueue queue).onDispose inside) := by
  have hqueue : (system.withQueue queue).queue.busy = true := hbusy
  unfold onDispose
  rw [isOpen_withQueue, windows_withQueue, waiters_withQueue, hqueue]
  split
  · exact .blocked
  · rename_i hguard
    simp only [Bool.or_eq_true, not_or] at hguard
    obtain ⟨⟨⟨hopen, hwindows⟩, hwaiters⟩, -⟩ := hguard
    rw [if_neg (by simp [hopen, hwindows, hwaiters])]
    exact .silent rfl

theorem onDisposeRequest_shadows : Move.Shadows system.queue queue system.onDisposeRequest
    (system.withQueue queue).onDisposeRequest := by
  unfold onDisposeRequest
  rw [closing_withQueue]
  split
  · have hrequest := @onRequest_shadows system queue .graceful
    generalize system.onRequest .graceful = move at hrequest
    generalize (system.withQueue queue).onRequest .graceful = shadow at hrequest
    cases hrequest with
    | blocked => exact .blocked
    | broken => exact .broken
    | told hqueue => exact .told hqueue
    | marked hqueue => exact .marked hqueue
  · exact .blocked

theorem onDisposeLook_shadows : Move.Shadows system.queue queue system.onDisposeLook
    (system.withQueue queue).onDisposeLook := by
  unfold onDisposeLook
  rw [isFree_withQueue, closing_withQueue, core_withQueue]
  split
  · exact .blocked
  · split
    · exact .silent rfl
    · exact .silent rfl
    · exact .blocked

theorem onDisposeClose_shadows : Move.Shadows system.queue queue system.onDisposeClose
    (system.withQueue queue).onDisposeClose := by
  unfold onDisposeClose
  rw [closing_withQueue]
  split
  · exact .marked rfl
  · exact .blocked

theorem act_shadows {action : Action} (hother : action.isDispatch = false)
    (hbusy : queue.busy = true) :
    Move.Shadows system.queue queue (system.act action) ((system.withQueue queue).act action) := by
  cases action with
  | start => exact onStart_shadows
  | fail run => exact onFail_shadows run
  | attach run handle => exact onAttach_shadows run handle
  | watch refusal => exact onWatch_shadows refusal
  | takePending => exact onTakePending_shadows
  | request signal =>
      simp only [act]
      rw [isOpen_withQueue]
      split
      · exact onRequest_shadows signal
      · exact .blocked
  | conclude outcome => exact onConclude_shadows outcome
  | send run source message => exact onSend_shadows run source message
  | read run source => exact onRead_shadows run source
  | announce run => exact onAnnounce_shadows run
  | report run exit => exact onReport_shadows run exit
  | teardown run => exact onTeardown_shadows run
  | deliver => cases hother
  | settle => cases hother
  | await target => exact onAwait_shadows target
  | look waiter => exact onLook_shadows waiter
  | expire waiter => exact onExpire_shadows waiter
  | dispose inside => exact onDispose_shadows hbusy inside
  | disposeRequest => exact onDisposeRequest_shadows
  | disposeLook => exact onDisposeLook_shadows
  | disposeClose => exact onDisposeClose_shadows

end System

-- An execution without what makes the difference.

-- The call that an action is, whatever answer it brings.
def Action.call : Action → Action
  | .conclude _ => .conclude (.ok ())
  | action => action

-- Everything that was done, but for the dispatcher's own work and for the outcome
-- of requests for termination.
def calls (actions : List Action) : List Action :=
  (actions.filter fun action => !action.isDispatch).map Action.call

-- The queue of a dispatcher that is gone, with an observer that is still busy.
def Queue.gone : Queue := ⟨#[], 0, true, true⟩

def System.bare (system : System) : System := system.withQueue .gone

def Step.bare (step : Step) : Step := ⟨step.before.bare, step.action.call, step.after.bare⟩

variable {config : Config} {actions others : List Action} {system after other : System}
  {action : Action}

theorem Core.concluded_ok {core : Core} {outcome : Except Fault Unit} {events : List Event}
    (h : core.concluded outcome = .ok events) : core.concluded (.ok ()) = .ok [] := by
  unfold concluded at h ⊢
  split at h
  · cases h
  · split at h
    · cases h
    · rename_i hhandle
      simp [hhandle]
    · rename_i hhandle
      simp [hhandle]

-- With the answer taken for a success nothing is told, and the lock is let go all
-- the same.
theorem System.act_conclude {outcome : Except Fault Unit}
    (hact : system.act (.conclude outcome) = .moved after) (queue : Queue) :
    (system.withQueue queue).act (.conclude (.ok ())) = .moved (after.withQueue queue) := by
  cases System.transition_of_act hact with
  | concluded hlock hconcluded =>
      simp only [act, onConclude]
      rw [lock_withQueue, core_withQueue, hlock, Core.concluded_ok hconcluded]
      rfl

theorem Action.call_of_unanswered (hnone : (Step.mk system action after).answer? = none) :
    action.call = action := by
  cases action with
  | conclude outcome => cases hnone
  | _ => rfl

-- Without its queue a system does the same.
theorem System.act_bare (hact : system.act action = .moved after)
    (hother : action.isDispatch = false) : system.bare.act action.call = .moved after.bare := by
  cases hanswer : (Step.mk system action after).answer? with
  | none =>
      have hshadows := @act_shadows system .gone action hother rfl
      rw [hact] at hshadows
      rw [Action.call_of_unanswered hanswer, bare, bare]
      generalize (system.withQueue .gone).act action = shadow at hshadows ⊢
      cases hshadows with
      | told => rw [Queue.putAll_of_ended rfl]
      | marked => rfl
  | some outcome =>
      obtain rfl := Step.conclude_of_answer hanswer
      exact act_conclude hact .gone

theorem System.bare_of_dispatch (hact : system.act action = .moved after)
    (hdispatch : action.isDispatch = true) : after.bare = system.bare := by
  cases System.transition_of_act hact with
  | delivered => rfl
  | settled => rfl
  | _ => cases hdispatch

-- What an action tells, but for the answer that it brings. This can be seen with
-- a queue that is open.
def Queue.fresh : Queue := ⟨#[], 0, true, false⟩

def System.tells (system : System) (action : Action) : List Event :=
  if system.core.run = none then []
  else
    match (system.withQueue .fresh).act action with
    | .moved after => after.queue.events
    | .blocked | .broken _ => []

-- The events but for the lines about failures.
def unrefused (events : List Event) : List Event := events.filter fun event => !isRefusal event

theorem Consistent.unrefused_events (h : Consistent system)
    (hact : system.act action = .moved after) (hother : action.isDispatch = false) :
    unrefused (Step.mk system action after).events = system.bare.tells action.call := by
  have hstep := System.transition_of_act hact
  have hcore : system.bare.core = system.core := rfl
  have hqueue : system.bare.withQueue .fresh = system.withQueue .fresh := rfl
  rw [System.tells, hcore, hqueue]
  cases hrun : system.core.run with
  | none =>
      have hnothing : (Step.mk system action after).events = [] :=
        Decidable.byContradiction fun hsome => h.run_of_posted hstep hsome hrun
      rw [hnothing, if_pos rfl]
      rfl
  | some run =>
      rw [if_neg (Option.some_ne_none run)]
      cases hanswer : (Step.mk system action after).answer? with
      | none =>
          have hsame : unrefused (Step.mk system action after).events =
              (Step.mk system action after).events :=
            List.filter_eq_self.mpr fun event hevent => by
              rw [h.isRefusal_of_other hstep hanswer event hevent]
              rfl
          have hshadows := @System.act_shadows system .fresh action hother rfl
          rw [hact] at hshadows
          rw [hsame, Action.call_of_unanswered hanswer]
          generalize (system.withQueue .fresh).act action = shadow at hshadows ⊢
          cases hshadows with
          | told hposted =>
              have hopen : Queue.fresh.ended = false := rfl
              rw [h.events_of_posted hposted (by simp [hrun])]
              exact (Queue.events_putAll hopen _).symm
          | marked hmarked =>
              refine Step.events_of_same ?_
              rw [hmarked, Queue.events_put_shutdown]
      | some outcome =>
          obtain rfl := Step.conclude_of_answer hanswer
          simp only [Action.call, System.act_conclude hact .fresh]
          rw [h.events_of_concluded hstep]
          cases (Step.mk system (.conclude outcome) after).refusal? with
          | none => rfl
          | some fault => simp [unrefused, System.withQueue, Queue.fresh, Queue.events]

theorem Step.events_of_dispatch (hact : system.act action = .moved after)
    (hdispatch : action.isDispatch = true) : (Step.mk system action after).events = [] := by
  cases System.transition_of_act hact with
  | delivered hdeliver => exact Step.events_of_same (Queue.events_deliver hdeliver)
  | settled => exact Step.events_of_same rfl
  | _ => cases hdispatch

-- The steps of an execution that are not the dispatcher's.
def undispatched (steps : List Step) : List Step := steps.filter fun step => !step.action.isDispatch

theorem calls_concat (actions : List Action) (action : Action) :
    calls (actions ++ [action]) =
      calls actions ++ if action.isDispatch then [] else [action.call] := by
  cases hdispatch : action.isDispatch <;> simp [calls, hdispatch]

theorem undispatched_concat (steps : List Step) (step : Step) :
    undispatched (steps ++ [step]) =
      undispatched steps ++ if step.action.isDispatch then [] else [step] := by
  cases hdispatch : step.action.isDispatch <;> simp [undispatched, hdispatch]

namespace Execution

-- What was called says what became of everything but the queue.
theorem bare (h : Execution config actions system) :
    (System.new config).bare.actAll (calls actions) = some system.bare ∧
      (System.new config).bare.steps (calls actions) =
        (undispatched (history config actions)).map Step.bare := by
  induction h with
  | initial => exact ⟨rfl, rfl⟩
  | @step actions before after action hbefore hact ih =>
      obtain ⟨hall, hsteps⟩ := ih
      rw [hbefore.history_concat hact, calls_concat, undispatched_concat]
      cases hdispatch : action.isDispatch with
      | true =>
          rw [System.bare_of_dispatch hact hdispatch]
          simpa using ⟨hall, hsteps⟩
      | false =>
          have hbare := System.act_bare hact hdispatch
          simp only [Bool.false_eq_true, if_false]
          rw [System.actAll_append hall, System.steps_concat hall hbare, hsteps, List.map_append]
          exact ⟨System.actAll_singleton hbare, rfl⟩

end Execution

-- What a step comes to for everyone else, but for the lines about failures.
structure Effect where
  core : Core
  signals : Array (Nat × Signal)
  told : List Event

def Step.effect (step : Step) : Effect :=
  ⟨step.after.core, step.after.signals, unrefused step.events⟩

def effects (steps : List Step) : List Effect := (undispatched steps).map Step.effect

theorem effects_concat (steps : List Step) (step : Step) :
    effects (steps ++ [step]) =
      effects steps ++ if step.action.isDispatch then [] else [step.effect] := by
  rw [effects, undispatched_concat, List.map_append]
  split <;> rfl

-- The same, seen from a step without its queue.
def Step.bareEffect (step : Step) : Effect :=
  ⟨step.after.core, step.after.signals, step.before.tells step.action⟩

namespace Execution

theorem queue_events (h : Execution config actions system) :
    system.queue.events = (notices (history config actions)).map Notice.event := by
  obtain ⟨closed, body, hchronicle⟩ := h.chronicle
  exact hchronicle.queued

theorem effects_eq (h : Execution config actions system) :
    effects (history config actions) =
      ((System.new config).bare.steps (calls actions)).map Step.bareEffect := by
  rw [h.bare.2, List.map_map]
  refine List.map_congr_left fun step hstep => ?_
  obtain ⟨hmem, hother⟩ := List.mem_filter.mp hstep
  obtain ⟨earlier, hbefore, hact⟩ := h.mem_history hmem
  have htold := hbefore.consistent.unrefused_events hact (by simpa using hother)
  rw [Step.effect, htold]
  rfl

theorem unrefused_eq (h : Execution config actions system) :
    unrefused system.queue.events = (effects (history config actions)).flatMap Effect.told := by
  induction h with
  | initial => rfl
  | @step actions before after action hbefore hact ih =>
      have hlonger := (Execution.step hbefore hact).queue_events
      have hevents : (Step.mk before action after).notices.map Notice.event =
          (Step.mk before action after).events := by
        simp [Step.notices, Function.comp_def]
      rw [hbefore.history_concat hact] at hlonger ⊢
      rw [notices_concat, List.map_append, ← hbefore.queue_events, hevents] at hlonger
      rw [hlonger, effects_concat, List.flatMap_append, ← ih, unrefused, List.filter_append]
      congr 1
      cases hdispatch : action.isDispatch with
      | true => simp [Step.events_of_dispatch hact hdispatch]
      | false =>
          simp only [Bool.false_eq_true, if_false, List.flatMap_singleton]
          rfl

end Execution

theorem mem_exitReports {id : Nat} {exit : Exit} :
    exit ∈ exitReports id actions ↔ .report id exit ∈ actions := by
  constructor
  · intro hmem
    obtain ⟨action, haction, hexit⟩ := List.mem_filterMap.mp hmem
    cases action with
    | report id' exit' =>
        obtain ⟨rfl, rfl⟩ : id' = id ∧ exit' = exit := by simpa using hexit
        exact haction
    | _ => cases hexit
  · exact fun hmem => List.mem_filterMap.mpr ⟨.report id exit, hmem, by simp⟩

-- What is told of the failures that concern a run.
structure FailuresTold (config : Config) (actions : List Action) (system : System) (id : Nat) :
    Prop where
  queued : system.queue.events = (notices (history config actions)).map Notice.event
  -- A line for each that is answered before the exit of the run is reported.
  lines : refusalLines id (notices (history config actions)) =
    (refusals id (history config actions)).map refusedLine
  later : ∀ earlier notice later,
    notices (history config actions) = earlier ++ notice :: later → notice.run = some id →
    isRefusal notice.event = true →
    ⟨some id, .supervisor, .stateChanged .stopping⟩ ∈ earlier
  -- Every request that was sent is answered, but for one that is on its way.
  answered : (answers id (history config actions)).length + (system.isSignalling id).toNat =
    (system.signalsTo id).length

-- What two executions have in common that differ in the answers alone.
structure Indifferent (config : Config) (actions others : List Action) (system other : System) :
    Prop where
  same : other = system.withQueue other.queue
  -- After every step the core, the signals and what was told with it.
  effects : effects (history config others) = effects (history config actions)
  events : unrefused other.queue.events = unrefused system.queue.events

-- What a failure does not keep from happening.
structure Undeterred (config : Config) (actions : List Action) (system : System) : Prop where
  failed : ∀ step ∈ history config actions, ∀ fault, step.action = .conclude (.error fault) →
    step.after.core = step.before.core ∧ step.after.core.state = .stopping ∧
      step.after.signals = step.before.signals ∧ step.after.lock = none
  forced : ∀ id handle, system.core.standing = some (id, some handle) →
    system.core.state = .stopping → system.lock = none → system.closing = .open →
    ∃ after, system.act (.request .force) = .moved after ∧ after.core = system.core ∧
      after.signals = system.signals.push (id, .force)
  ended : ∀ step ∈ history config actions, ∀ id, step.action = .teardown id →
    ∃ exit, .report id exit ∈ actions ∧ step.events = [stoppedLine exit, .stateChanged .stopped]

namespace Execution

theorem failures_told (h : Execution config actions system) (id : Nat) :
    FailuresTold config actions system id where
  queued := h.queue_events
  lines := h.refusalLines_eq id
  later := fun _ _ _ hsplit hrun hline => h.stopping_before hsplit hrun hline
  answered := h.answered id

theorem indifferent (h : Execution config actions system) (hother : Execution config others other)
    (hcalls : calls others = calls actions) : Indifferent config actions others system other := by
  have hbare : other.bare = system.bare := by
    have hsame := hother.bare.1.symm.trans (hcalls ▸ h.bare.1)
    exact Option.some.inj hsame
  have heffects : Supervisor.effects (history config others) =
      Supervisor.effects (history config actions) := by
    rw [hother.effects_eq, h.effects_eq, hcalls]
  refine ⟨?_, heffects, ?_⟩
  · have hqueue : other.bare.withQueue other.queue = system.bare.withQueue other.queue := by
      rw [hbare]
    exact hqueue
  · rw [hother.unrefused_eq, h.unrefused_eq, heffects]

theorem undeterred (h : Execution config actions system) : Undeterred config actions system where
  failed := by
    rintro ⟨before, action, after⟩ hstep fault haction
    obtain ⟨earlier, hbefore, hact⟩ := h.mem_history hstep
    obtain rfl : action = .conclude (.error fault) := haction
    have hact : before.act (.conclude (.error fault)) = .moved after := hact
    cases System.transition_of_act hact with
    | concluded hlock =>
        obtain ⟨run, handle, -, -, -, hstate⟩ := hbefore.consistent.signalling hlock
        exact ⟨rfl, hstate, rfl, rfl⟩
  forced := by
    intro id handle hstanding hstate hlock hopen
    obtain ⟨run, hrun, hkey⟩ := Option.map_eq_some_iff.mp hstanding
    obtain ⟨rfl, hhandle⟩ := Prod.mk.inj hkey
    have hcore : { system.core with state := .stopping } = system.core := by rw [← hstate]
    have hrequest : system.core.request .force = .ok (.sent run.id false system.core) := by
      rw [Core.request_of_attached hrun hhandle (by simp [hstate]) (by simp), hcore]
      simp [hstate]
    refine ⟨system.sendSignal run.id .force, ?_, rfl, rfl⟩
    have hfree : system.isFree = true := by simp [System.isFree, hlock]
    have hstarted : system.isOpen = true := by simp [System.isOpen, hopen]
    simp only [System.act, System.onRequest, hstarted, hfree, hrequest]
    rfl
  ended := by
    induction h with
    | initial => simp [history, System.steps]
    | @step actions before after action hbefore hact ih =>
        intro step hstep id haction
        rw [hbefore.history_concat hact] at hstep
        rcases List.mem_append.mp hstep with hstep | hstep
        · obtain ⟨exit, hreport, hevents⟩ := ih step hstep id haction
          exact ⟨exit, List.mem_append_left _ hreport, hevents⟩
        · obtain rfl := List.mem_singleton.mp hstep
          obtain rfl : action = .teardown id := haction
          cases System.transition_of_act hact with
          | @tornDown _ teardown run hlock hfind hjoined hrun =>
              have hid : teardown.run = id := by simpa using List.find?_some hfind
              have hexit := hbefore.reported.ending teardown (List.mem_of_find?_eq_some hfind)
              have hopen := hbefore.consistent.queue_open (by simp [hrun])
              refine ⟨teardown.exit, List.mem_append_left _ ?_, ?_⟩
              · exact mem_exitReports.mp (by simp [← hid, hexit])
              · exact Step.events_of_putAll _ [stoppedLine teardown.exit, .stateChanged .stopped]
                  hopen rfl

end Execution

-- Failures of requests for termination are told line by line as they come, as long
-- as the exit of the run is not reported, and whether there are any makes no other
-- difference.
theorem failures_change_nothing_else (h : Execution config actions system) :
    (∀ id, FailuresTold config actions system id) ∧
      (∀ others other, Execution config others other → calls others = calls actions →
        Indifferent config actions others system other) ∧
      Undeterred config actions system :=
  ⟨h.failures_told, fun _ _ hother hcalls => h.indifferent hother hcalls, h.undeterred⟩

-- A run whose process cannot be signalled at first, and the same run with a process
-- that can; the observer is served at other times.
def reluctantRun : List Action :=
  .start :: installing 1 ⟨7, true, true⟩ ++
    [.request .graceful, .conclude (.error (.terminationFailed 7 "Operation not permitted")),
      .deliver, .settle, .request .force, .conclude (.ok ()), .report 1 (.ofCode 0)]

def compliantRun : List Action :=
  .start :: installing 1 ⟨7, true, true⟩ ++
    [.deliver, .request .graceful, .conclude (.ok ()), .request .force, .settle,
      .conclude (.ok ()), .report 1 (.ofCode 0)]

theorem failures_change_nothing_else_of_reluctant :
    ∃ system other, Execution .default reluctantRun system ∧
      Execution .default compliantRun other ∧
      FailuresTold .default reluctantRun system 1 ∧
      Indifferent .default reluctantRun compliantRun system other ∧
      refusals 1 (history .default reluctantRun) =
        [.terminationFailed 7 "Operation not permitted"] := by
  have hall : ∃ system, (System.new .default).actAll reluctantRun = some system :=
    Option.isSome_iff_exists.mp (by decide)
  have hother : ∃ other, (System.new .default).actAll compliantRun = some other :=
    Option.isSome_iff_exists.mp (by decide)
  obtain ⟨system, hall⟩ := hall
  obtain ⟨other, hother⟩ := hother
  obtain ⟨htold, hindifferent, -⟩ := failures_change_nothing_else (.of_actAll hall)
  exact ⟨system, other, .of_actAll hall, .of_actAll hother, htold 1,
    hindifferent _ _ (.of_actAll hother) rfl, by decide⟩

end Overseer.Supervisor
