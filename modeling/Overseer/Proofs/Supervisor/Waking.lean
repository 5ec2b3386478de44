import Overseer.Proofs.Supervisor.Coherence
import Overseer.Proofs.Supervisor.Likeness

namespace Overseer.Supervisor

-- Nobody sleeps through the state that he waits for. Every change of the state
-- rouses all who wait, and nobody goes to sleep, or away, without having looked
-- at the state under the lock.

-- Where somebody may wait: in a call of his own, or in the disposal, which waits
-- for the run to end.
inductive Place
  | caller (index : Nat)
  | disposal
deriving DecidableEq

namespace Place

-- Who waits there looks at the state,
def look : Place → Action
  | caller index => .look index
  | disposal => .disposeLook

-- or his time is up. The disposal has all the time it needs.
def expiry? : Place → Option Action
  | caller index => some (.expire index)
  | disposal => none

end Place

def System.waiterAt (system : System) : Place → Option Waiter
  | .caller index => system.waiters[index]?
  | .disposal =>
      match system.closing with
      | .waiting _ phase => some ⟨.stopped, phase⟩
      | _ => none

-- What becomes of who waits at a place.
inductive WaitStep (system after : System) (action : Action) (place : Place) :
    Option Waiter → Option Waiter → Prop
  | kept {waiter? : Option Waiter} :
      after.core.state = system.core.state → WaitStep system after action place waiter? waiter?
  | roused {waiter? : Option Waiter} :
      WaitStep system after action place waiter? (waiter?.map Waiter.roused)
  | arrived {target : State} :
      WaitStep system after action place none (some ⟨target, .entering⟩)
  | looked {waiter : Waiter} :
      system.lock = none → action = place.look → after.core.state = system.core.state →
      waiter.phase = .entering ∨ waiter.phase = .woken →
      WaitStep system after action place (some waiter)
        (some { waiter with
          phase := if system.core.state = waiter.target then .returned true else .asleep })
  | expired {waiter : Waiter} :
      system.lock = none → place.expiry? = some action → after.core.state = system.core.state →
      waiter.phase = .asleep ∨ waiter.phase = .woken →
      WaitStep system after action place (some waiter)
        (some { waiter with phase := .returned (system.core.state = waiter.target) })
  | left {waiter : Waiter} {reached : Bool} :
      after.core.state = system.core.state → waiter.phase = .returned reached →
      WaitStep system after action place (some waiter) none

variable {config : Config} {actions : List Action} {system after : System} {action : Action}
  {place : Place} {waiter : Waiter} {target : State}

namespace System

theorem waiterAt_congr (hwaiters : after.waiters = system.waiters)
    (hclosing : after.closing = system.closing) (place : Place) :
    after.waiterAt place = system.waiterAt place := by
  cases place with
  | caller index => simp only [waiterAt, hwaiters]
  | disposal => simp only [waiterAt, hclosing]

theorem waiterAt_notifyAll (hwaiters : after.waiters = system.notifyAll.waiters)
    (hclosing : after.closing = system.notifyAll.closing) (place : Place) :
    after.waiterAt place = (system.waiterAt place).map Waiter.roused := by
  cases place with
  | caller index =>
      simp only [waiterAt, hwaiters, notifyAll, List.getElem?_map]
      rfl
  | disposal =>
      simp only [waiterAt, hclosing, notifyAll]
      cases system.closing <;> rfl

theorem waiterAt_setWaiter {index : Nat} (hwaiter : system.waiters[index]? = some waiter)
    (changed : Waiter) (place : Place) :
    (system.setWaiter index changed).waiterAt place =
      if place = .caller index then some changed else system.waiterAt place := by
  cases place with
  | disposal => rfl
  | caller other =>
      obtain ⟨hlt, -⟩ := List.getElem?_eq_some_iff.mp hwaiter
      by_cases hsame : index = other
      · subst hsame
        simp [waiterAt, setWaiter, hlt]
      · simp [waiterAt, setWaiter, hsame, Ne.symm hsame]

end System

theorem Waiter.phase_roused (waiter : Waiter) : waiter.roused.phase = System.wake waiter.phase :=
  rfl

theorem Waiter.roused_ne_asleep (waiter : Waiter) : waiter.roused.phase ≠ .asleep := by
  rw [phase_roused]
  cases waiter.phase <;> simp [System.wake]

-- A step that has nothing to do with waiting, and one that changes the state.

theorem WaitStep.aside (hstate : after.core.state = system.core.state)
    (hwaiters : after.waiters = system.waiters) (hclosing : after.closing = system.closing) :
    WaitStep system after action place (system.waiterAt place) (after.waiterAt place) := by
  rw [System.waiterAt_congr hwaiters hclosing]
  exact .kept hstate

theorem WaitStep.notified (hwaiters : after.waiters = system.notifyAll.waiters)
    (hclosing : after.closing = system.notifyAll.closing) :
    WaitStep system after action place (system.waiterAt place) (after.waiterAt place) := by
  rw [System.waiterAt_notifyAll hwaiters hclosing]
  exact .roused

theorem WaitStep.setWaiter {index : Nat} {changed : Waiter}
    (hwaiter : system.waiters[index]? = some waiter)
    (h : WaitStep system (system.setWaiter index changed) action (.caller index) (some waiter)
      (some changed)) :
    WaitStep system (system.setWaiter index changed) action place (system.waiterAt place)
      ((system.setWaiter index changed).waiterAt place) := by
  rw [System.waiterAt_setWaiter hwaiter]
  by_cases hplace : place = .caller index
  · have hthere : system.waiterAt (.caller index) = some waiter := hwaiter
    rw [if_pos hplace, hplace, hthere]
    exact h
  · rw [if_neg hplace]
    exact .kept rfl

theorem WaitStep.congr {next : System} {before? after? : Option Waiter}
    (h : WaitStep system after action place before? after?)
    (hstate : next.core.state = after.core.state) :
    WaitStep system next action place before? after? := by
  cases h with
  | kept hsame => exact .kept (hstate.trans hsame)
  | roused => exact .roused
  | arrived => exact .arrived
  | looked hlock haction hsame hphase => exact .looked hlock haction (hstate.trans hsame) hphase
  | expired hlock haction hsame hphase => exact .expired hlock haction (hstate.trans hsame) hphase
  | left hsame hphase => exact .left (hstate.trans hsame) hphase

theorem Requesting.waitStep {signal : Signal} (hstep : Requesting system signal after)
    (place : Place) :
    WaitStep system after action place (system.waiterAt place) (after.waiterAt place) := by
  cases hstep with
  | entered => exact .notified rfl rfl
  | _ => exact .aside rfl rfl rfl

theorem Transition.waitStep (hstep : Transition system action after) (place : Place) :
    WaitStep system after action place (system.waiterAt place) (after.waiterAt place) := by
  cases hstep with
  | begun | failed | takenUp | announced | tornDown => exact .notified rfl rfl
  | requested hopen hrequest => exact hrequest.waitStep place
  | awaited hopen =>
      cases place with
      | disposal => exact .kept rfl
      | caller index =>
          simp only [System.waiterAt, List.getElem?_append]
          split
          · exact .kept rfl
          · rename_i hlt
            rw [List.getElem?_eq_none (Nat.le_of_not_lt hlt)]
            cases hlast : index - system.waiters.length with
            | zero => exact .arrived
            | succ count => exact .kept rfl
  | looked hlock hwaiter hphase =>
      exact .setWaiter hwaiter (.looked hlock rfl rfl hphase)
  | expired hlock hwaiter hphase =>
      exact .setWaiter hwaiter (.expired hlock rfl rfl hphase)
  | disposed hopen =>
      cases place with
      | caller index => exact .kept rfl
      | disposal =>
          simp only [System.waiterAt, hopen]
          exact .kept rfl
  | disposeRequested hclosing hrequest =>
      cases place with
      | caller index => exact (hrequest.waitStep (.caller index)).congr rfl
      | disposal =>
          simp only [System.waiterAt, hclosing]
          exact .arrived
  | disposeLooked hlock hclosing hphase =>
      cases place with
      | caller index => exact .kept rfl
      | disposal =>
          simp only [System.waiterAt, hclosing]
          exact .looked hlock rfl rfl hphase
  | disposeClosed hclosing =>
      cases place with
      | caller index => exact .kept rfl
      | disposal =>
          simp only [System.waiterAt, hclosing]
          exact .left rfl rfl
  | _ => exact .aside rfl rfl rfl

-- What a step leaves of the facts about those who wait.

namespace WaitStep

variable {before? after? : Option Waiter}

-- A change of the state rouses whoever waits, wherever he is.
theorem roused_of_changed (h : WaitStep system after action place (some waiter) after?)
    (hchanged : after.core.state ≠ system.core.state) : after? = some waiter.roused := by
  cases h with
  | roused => rfl
  | kept hsame | looked _ _ hsame | expired _ _ hsame | left hsame => exact absurd hsame hchanged

-- Whoever falls asleep has just seen that the state is another one.
theorem asleep (h : WaitStep system after action place before? (some ⟨target, .asleep⟩)) :
    (before? = some ⟨target, .asleep⟩ ∧ after.core.state = system.core.state) ∨
      (system.lock = none ∧ action = place.look ∧ system.core.state ≠ target ∧
        after.core.state = system.core.state ∧
        (before? = some ⟨target, .entering⟩ ∨ before? = some ⟨target, .woken⟩)) := by
  generalize hafter : some (⟨target, .asleep⟩ : Waiter) = after? at h
  cases h with
  | kept hsame => exact .inl ⟨rfl, hsame⟩
  | roused =>
      obtain ⟨waiter, -, hroused⟩ := Option.map_eq_some_iff.mp hafter.symm
      exact absurd (by rw [hroused]) waiter.roused_ne_asleep
  | arrived => cases hafter
  | @looked waiter hlock haction hsame hphase =>
      obtain ⟨rfl, hasleep⟩ := Waiter.mk.inj (Option.some.inj hafter)
      have hother : system.core.state ≠ waiter.target := by
        intro hreached
        rw [if_pos hreached] at hasleep
        cases hasleep
      exact .inr ⟨hlock, haction, hother, hsame, hphase.imp (fun hphase => by rw [← hphase])
        (fun hphase => by rw [← hphase])⟩
  | expired => cases hafter
  | left => cases hafter

-- Whoever returns has just looked, and says what he saw.
theorem returned {reached : Bool}
    (h : WaitStep system after action place before? (some ⟨target, .returned reached⟩))
    (hnew : before? ≠ some ⟨target, .returned reached⟩) :
    system.lock = none ∧ after.core.state = system.core.state ∧
      (reached = true ↔ system.core.state = target) ∧
      (action = place.look ∧ reached = true ∨ place.expiry? = some action) := by
  generalize hafter : some (⟨target, .returned reached⟩ : Waiter) = after? at h
  cases h with
  | kept => exact absurd hafter.symm hnew
  | @roused =>
      obtain ⟨waiter, rfl, hroused⟩ := Option.map_eq_some_iff.mp hafter.symm
      obtain ⟨rfl, hphase⟩ := Waiter.mk.inj hroused
      refine absurd ?_ hnew
      rw [← System.wake_eq_returned hphase]
  | arrived => cases hafter
  | @looked waiter hlock haction hsame hphase =>
      obtain ⟨rfl, hreturned⟩ := Waiter.mk.inj (Option.some.inj hafter)
      by_cases hreached : system.core.state = waiter.target
      · rw [if_pos hreached] at hreturned
        cases hreturned
        exact ⟨hlock, hsame, by simp [hreached], .inl ⟨haction, rfl⟩⟩
      · rw [if_neg hreached] at hreturned
        cases hreturned
  | @expired waiter hlock haction hsame hphase =>
      obtain ⟨rfl, hreturned⟩ := Waiter.mk.inj (Option.some.inj hafter)
      cases hreturned
      exact ⟨hlock, hsame, by simp, .inr haction⟩
  | left => cases hafter

-- Whoever was woken stays so until he looks.
theorem woken (h : WaitStep system after action place (some ⟨target, .woken⟩) after?) :
    after? = some ⟨target, .woken⟩ ∨
      system.lock = none ∧ (action = place.look ∨ place.expiry? = some action) := by
  cases h with
  | kept | roused => exact .inl rfl
  | looked hlock haction => exact .inr ⟨hlock, .inl haction⟩
  | expired hlock haction => exact .inr ⟨hlock, .inr haction⟩
  | left hsame hphase => cases hphase

end WaitStep

-- In every state, also while the lock is held.
theorem Execution.awake (h : Execution config actions system)
    (hasleep : system.waiterAt place = some ⟨target, .asleep⟩) : system.core.state ≠ target := by
  induction h with
  | initial => cases place <;> simp [System.waiterAt, System.new] at hasleep
  | step hbefore hact ih =>
      have hstep := (System.transition_of_act hact).waitStep place
      rw [hasleep] at hstep
      rcases hstep.asleep with ⟨hbefore, hsame⟩ | ⟨-, -, hother, hsame, -⟩
      · rw [hsame]
        exact ih hbefore
      · rwa [hsame]

-- A waiter who is not asleep and finds the lock free sees the state he waits for
-- and returns.
theorem System.returns_of_reached (hlock : system.lock = none)
    (hthere : system.waiterAt place = some waiter)
    (hphase : waiter.phase = .entering ∨ waiter.phase = .woken)
    (hreached : system.core.state = waiter.target) :
    ∃ after, system.act place.look = .moved after ∧
      after.waiterAt place = some ⟨waiter.target, .returned true⟩ := by
  cases place with
  | caller index =>
      have hwaiter : system.waiters[index]? = some waiter := hthere
      refine ⟨system.setWaiter index { waiter with phase := .returned true }, ?_, ?_⟩
      · rcases hphase with hphase | hphase <;>
          simp [Place.look, act, onLook, isFree, hlock, hwaiter, hphase, hreached]
      · rw [waiterAt_setWaiter hwaiter, if_pos rfl]
  | disposal =>
      cases hclosing : system.closing with
      | waiting inside phase =>
          obtain rfl : ⟨.stopped, phase⟩ = waiter := by simpa [waiterAt, hclosing] using hthere
          refine ⟨{ system with closing := .waiting inside (.returned true) }, ?_, rfl⟩
          rcases hphase with hphase | hphase <;> cases hphase <;>
            simp [Place.look, act, onDisposeLook, isFree, hlock, hclosing, hreached]
      | _ => simp [waiterAt, hclosing] at hthere

structure Alert (system : System) : Prop where
  -- Who is asleep, with no wake-up on its way, waits for another state.
  awake : ∀ place target, system.waiterAt place = some ⟨target, .asleep⟩ →
    system.core.state ≠ target
  -- A step that changes the state rouses all who wait.
  roused : ∀ action after, system.act action = .moved after →
    after.core.state ≠ system.core.state →
    ∀ place waiter, system.waiterAt place = some waiter →
      after.waiterAt place = some waiter.roused ∧ waiter.roused.phase ≠ .asleep
  -- Nobody falls asleep but by looking under the lock and seeing another state.
  asleep : ∀ action after, system.act action = .moved after →
    ∀ place target, after.waiterAt place = some ⟨target, .asleep⟩ →
      system.waiterAt place = some ⟨target, .asleep⟩ ∨
        (system.lock = none ∧ action = place.look ∧ system.core.state ≠ target ∧
          (system.waiterAt place = some ⟨target, .entering⟩ ∨
            system.waiterAt place = some ⟨target, .woken⟩))
  -- Who was woken looks under the lock before anything else.
  woken : ∀ action after, system.act action = .moved after →
    ∀ place target, system.waiterAt place = some ⟨target, .woken⟩ →
      after.waiterAt place = some ⟨target, .woken⟩ ∨
        (system.lock = none ∧ (action = place.look ∨ place.expiry? = some action))
  -- Who returns says whether the state is the one he waits for, and that it is
  -- not only when his time is up.
  returned : ∀ action after, system.act action = .moved after →
    ∀ place target reached, after.waiterAt place = some ⟨target, .returned reached⟩ →
      system.waiterAt place ≠ some ⟨target, .returned reached⟩ →
      system.lock = none ∧ (reached = true ↔ after.core.state = target) ∧
        (reached = false → place.expiry? = some action)
  -- When the state has come, whoever waits for it can return with the next look.
  able : system.lock = none → ∀ place target phase,
    system.waiterAt place = some ⟨target, phase⟩ → system.core.state = target →
    (∃ reached, phase = .returned reached) ∨ ∃ after, system.act place.look = .moved after ∧
      after.waiterAt place = some ⟨target, .returned true⟩

-- In every order of steps.
theorem nobody_sleeps_through (h : Execution config actions system) : Alert system where
  awake := fun _ _ => h.awake
  roused := by
    intro action after hact hchanged place waiter hthere
    have hstep := (System.transition_of_act hact).waitStep place
    rw [hthere] at hstep
    exact ⟨hstep.roused_of_changed hchanged, waiter.roused_ne_asleep⟩
  asleep := by
    intro action after hact place target hasleep
    have hstep := (System.transition_of_act hact).waitStep place
    rw [hasleep] at hstep
    rcases hstep.asleep with ⟨hbefore, -⟩ | ⟨hlock, haction, hother, -, hphase⟩
    · exact .inl hbefore
    · exact .inr ⟨hlock, haction, hother, hphase⟩
  woken := by
    intro action after hact place target hwoken
    have hstep := (System.transition_of_act hact).waitStep place
    rw [hwoken] at hstep
    exact hstep.woken
  returned := by
    intro action after hact place target reached hreturned hnew
    have hstep := (System.transition_of_act hact).waitStep place
    rw [hreturned] at hstep
    obtain ⟨hlock, hsame, hreached, hhow⟩ := hstep.returned hnew
    refine ⟨hlock, by rw [hsame]; exact hreached, fun hfalse => ?_⟩
    rcases hhow with ⟨-, htrue⟩ | hexpired
    · cases hfalse.symm.trans htrue
    · exact hexpired
  able := by
    intro hlock place target phase hthere hreached
    cases hphase : phase with
    | returned reached => exact .inl ⟨reached, rfl⟩
    | asleep => exact absurd hreached (h.awake (hphase ▸ hthere))
    | entering | woken =>
        exact .inr (System.returns_of_reached hlock hthere (by simp [hphase]) hreached)

-- A caller waits for the end of a run and another one for its readiness, and
-- both are asleep when the process exits by itself.
def sleptThrough : List Action :=
  [.start] ++ installing 1 ⟨7, false, false⟩ ++
    [.await .stopped, .await .running, .look 0, .look 1, .report 1 (.ofCode 0), .teardown 1]

theorem nobody_sleeps_through_of_slept :
    ∃ system, Execution .default sleptThrough system ∧
      system.waiterAt (.caller 0) = some ⟨.stopped, .woken⟩ ∧ system.lock = none ∧
      system.core.state = .stopped ∧ Alert system := by
  have hall : ∃ system, (System.new .default).actAll sleptThrough = some system ∧
      system.waiterAt (.caller 0) = some ⟨.stopped, .woken⟩ ∧ system.lock = none ∧
      system.core.state = .stopped :=
    ⟨_, rfl, rfl, rfl, rfl⟩
  obtain ⟨system, hall, hwoken, hlock, hstate⟩ := hall
  exact ⟨system, .of_actAll hall, hwoken, hlock, hstate, nobody_sleeps_through (.of_actAll hall)⟩

end Overseer.Supervisor
