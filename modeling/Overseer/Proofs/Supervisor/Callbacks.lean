import Overseer.Proofs.Supervisor.Delivery

namespace Overseer.Supervisor

-- A supervisor and an observer whose callback calls it. The thread that calls
-- back is the dispatcher's, so while the observer waits in a call nothing else
-- is handed over. All other threads may do what they can at any time.

inductive Call
  | start
  | request (signal : Signal)
  -- Asks for the state.
  | state
deriving DecidableEq

-- Where the dispatcher's thread is.
inductive Position
  -- In no callback.
  | away
  -- In a callback, in the observer's own code.
  | within
  -- In a call that waits for the lock.
  | waiting (call : Call)
  -- In a start call whose process is being spawned.
  | spawning (run : Nat)
  -- In a call that has the lock.
  | holding
deriving DecidableEq

structure Attended where
  system : System
  observer : Position

inductive Deed
  -- Another thread takes an action.
  | aside (action : Action)
  | deliver
  | call (call : Call)
  -- The observer's call comes to its turn.
  | enter
  -- The observer's call goes on.
  | proceed (action : Action)
  -- The callback returns.
  | settle

-- Taken by whoever has the lock.
def Action.isHeld : Action → Bool
  | watch _ | takePending | conclude _ => true
  | _ => false

-- A part of a call that an observer can make.
def Action.isOfCall : Action → Bool
  | start | request _ | fail _ | attach _ _ => true
  | action => action.isHeld

namespace Position

-- What is left to do in the observer's call.
def owns : Position → Action → Bool
  | spawning run, .fail other => run = other
  | spawning run, .attach other _ => run = other
  | holding, action => action.isHeld
  | _, _ => false

-- What other threads may do. Nobody else disposes of the supervisor while the
-- observer is in a call.
def leaves (position : Position) : Action → Bool
  | .deliver | .settle => false
  | .dispose inside => !inside && (position = away || position = within)
  | action => !position.owns action

end Position

namespace System

def act? (system : System) (action : Action) : Option System :=
  match system.act action with
  | .moved next => some next
  | .blocked | .broken _ => none

-- A call is over, or has the lock.
def afterCall (system : System) : Position := if system.isFree then .within else .holding

-- The first part of a call, which is all of it unless it starts a run or sends
-- a request.
def serve (system : System) : Call → Option Attended
  | .start =>
      (system.act? .start).map fun next =>
        ⟨next, if system.core.state = .stopped then .spawning next.core.lastRun else .within⟩
  | .request signal => (system.act? (.request signal)).map fun next => ⟨next, next.afterCall⟩
  | .state => if system.isFree then some ⟨system, .within⟩ else none

end System

namespace Attended

def act (attended : Attended) : Deed → Option Attended
  | .aside action =>
      if attended.observer.leaves action then
        (attended.system.act? action).map fun next => ⟨next, attended.observer⟩
      else none
  | .deliver =>
      if attended.observer = .away then
        (attended.system.act? .deliver).map fun next =>
          ⟨next, if next.queue.busy then .within else .away⟩
      else none
  | .call call =>
      if attended.observer = .within && attended.system.isOpen then
        some ⟨attended.system, .waiting call⟩
      else none
  | .enter =>
      match attended.observer with
      | .waiting call => attended.system.serve call
      | _ => none
  | .proceed action =>
      if attended.observer.owns action then
        (attended.system.act? action).map fun next => ⟨next, next.afterCall⟩
      else none
  | .settle =>
      if attended.observer = .within then
        (attended.system.act? .settle).map fun next => ⟨next, .away⟩
      else none

def actAll (attended : Attended) : List Deed → Option Attended
  | [] => some attended
  | deed :: deeds => (attended.act deed).bind fun next => next.actAll deeds

end Attended

-- The states that a supervisor comes to with such an observer.
inductive Attends (config : Config) : Attended → Prop
  | initial : Attends config ⟨System.new config, .away⟩
  | step {before after : Attended} {deed : Deed} :
      Attends config before → before.act deed = some after → Attends config after

variable {config : Config} {system after : System} {action : Action} {attended next : Attended}
  {deed : Deed} {id : Nat}

theorem Attends.of_actAll {deeds : List Deed} (h : Attends config attended)
    (hall : attended.actAll deeds = some next) : Attends config next := by
  induction deeds generalizing attended with
  | nil =>
      obtain rfl : attended = next := by simpa [Attended.actAll] using hall
      exact h
  | cons deed deeds ih =>
      obtain ⟨middle, hact, hrest⟩ := Option.bind_eq_some_iff.mp hall
      exact ih (.step h hact) hrest

theorem System.act?_eq_some :
    system.act? action = some after ↔ system.act action = .moved after := by
  unfold act?
  split <;> simp_all

-- What the actions of one thread leave alone that another one relies on.

theorem Transition.busy_eq (h : Transition system action after) (hdeliver : action ≠ .deliver)
    (hsettle : action ≠ .settle) : after.queue.busy = system.queue.busy := by
  cases h.queueStep with
  | @posted _ events _ _ hqueue =>
      obtain ⟨items, hitems⟩ := system.queue.exists_putAll events
      rw [hqueue, hitems]
  | delivered => exact absurd rfl hdeliver
  | settled => exact absurd rfl hsettle
  | marked _ _ hqueue =>
      obtain ⟨items, hitems⟩ := system.queue.exists_put .shutdown
      rw [hqueue, hitems]

-- A start call stays between its parts until its own second part is taken.
theorem Transition.mem_windows (h : Transition system action after) (hid : id ∈ system.windows)
    (hother : (Position.spawning id).owns action = false) : id ∈ after.windows := by
  cases h with
  | begun => exact List.mem_append_left _ hid
  | failed => exact (List.mem_erase_of_ne (by simpa [Position.owns] using hother)).mpr hid
  | attached => exact (List.mem_erase_of_ne (by simpa [Position.owns] using hother)).mpr hid
  | requested _ hrequest | disposeRequested _ hrequest => cases hrequest <;> exact hid
  | _ => exact hid

-- Whoever has the lock lets go of it.
theorem Transition.lock_ne_none (h : Transition system action after) (hlock : system.lock ≠ none)
    (hother : action.isHeld = false) : after.lock ≠ none := by
  cases h with
  | watched | unwatched | letGo | takenUp | concluded => cases hother
  | requested _ hrequest | disposeRequested _ hrequest =>
      cases hrequest <;> exact absurd ‹_› hlock
  | sent | readAgain | readEnd | readChunk | delivered | settled | awaited | disposed |
    disposeClosed => exact hlock
  | _ => exact absurd ‹_› hlock

theorem System.notifyAll_open (h : system.closing = .open) : system.notifyAll.closing = .open := by
  simp [notifyAll, h]

theorem Transition.closing_open (h : Transition system action after)
    (hopen : system.closing = .open) (hother : ∀ inside, action ≠ .dispose inside) :
    after.closing = .open := by
  cases h with
  | begun | failed | takenUp | announced | tornDown => exact System.notifyAll_open hopen
  | requested _ hrequest =>
      cases hrequest with
      | entered => exact System.notifyAll_open hopen
      | _ => exact hopen
  | disposed => exact absurd rfl (hother _)
  | disposeRequested hclosing | disposeLooked _ hclosing | disposeClosed hclosing =>
      rw [hclosing] at hopen
      cases hopen
  | _ => exact hopen

theorem System.notifyAll_holdsCallback :
    system.notifyAll.closing.holdsCallback = system.closing.holdsCallback := by
  cases hclosing : system.closing <;> simp [notifyAll, hclosing, Closing.holdsCallback]

-- A supervisor that is disposed of elsewhere does not keep the callback.
theorem Transition.holdsCallback (h : Transition system action after)
    (hfree : system.closing.holdsCallback = false) (hother : action ≠ .dispose true) :
    after.closing.holdsCallback = false := by
  cases h with
  | begun | failed | takenUp | announced | tornDown =>
      exact System.notifyAll_holdsCallback.trans hfree
  | requested _ hrequest =>
      cases hrequest with
      | entered => exact System.notifyAll_holdsCallback.trans hfree
      | _ => exact hfree
  | @disposed inside =>
      cases inside with
      | true => exact absurd rfl hother
      | false => rfl
  | disposeRequested hclosing | disposeLooked _ hclosing =>
      rw [hclosing] at hfree
      exact hfree
  | disposeClosed => rfl
  | _ => exact hfree

-- What holds of the two together.

namespace Attended

structure Sound (config : Config) (attended : Attended) : Prop where
  reachable : Reachable config attended.system
  busy : attended.system.queue.busy = true ↔ attended.observer ≠ .away
  spawning : ∀ run, attended.observer = .spawning run → run ∈ attended.system.windows
  holding : attended.observer = .holding → attended.system.lock ≠ none
  -- Whoever is in a call keeps the supervisor.
  kept : attended.observer ≠ .away → attended.observer ≠ .within →
    attended.system.closing = .open
  returns : attended.system.closing.holdsCallback = false

namespace Sound

theorem initial (config : Config) : Sound config ⟨System.new config, .away⟩ where
  reachable := ⟨[], .initial⟩
  busy := by simp [System.new, Queue.empty]
  spawning := by simp
  holding := by simp
  kept := by simp
  returns := rfl

theorem step_reachable (h : Sound config attended)
    (hact : attended.system.act action = .moved after) : Reachable config after := by
  obtain ⟨actions, hactions⟩ := h.reachable
  exact ⟨_, hactions.step hact⟩

theorem aside (h : Sound config attended) (hleaves : attended.observer.leaves action = true)
    (hact : attended.system.act action = .moved after) :
    Sound config ⟨after, attended.observer⟩ := by
  have hstep := System.transition_of_act hact
  have hdeliver : action ≠ .deliver := by
    rintro rfl
    simp [Position.leaves] at hleaves
  have hsettle : action ≠ .settle := by
    rintro rfl
    simp [Position.leaves] at hleaves
  have howns : attended.observer.owns action = false := by
    cases action with
    | deliver | settle | dispose => cases attended.observer <;> rfl
    | _ => simpa [Position.leaves] using hleaves
  refine ⟨h.step_reachable hact, ?_, ?_, ?_, ?_, ?_⟩
  · exact (hstep.busy_eq hdeliver hsettle).symm ▸ h.busy
  · intro run hposition
    have hposition : attended.observer = .spawning run := hposition
    exact hstep.mem_windows (h.spawning run hposition) (hposition ▸ howns)
  · intro hposition
    have hposition : attended.observer = .holding := hposition
    rw [hposition] at howns
    exact hstep.lock_ne_none (h.holding hposition) howns
  · intro haway hwithin
    refine hstep.closing_open (h.kept haway hwithin) fun inside hdispose => ?_
    have haway : attended.observer ≠ .away := haway
    have hwithin : attended.observer ≠ .within := hwithin
    simp [hdispose, Position.leaves, haway, hwithin] at hleaves
  · refine hstep.holdsCallback h.returns fun hdispose => ?_
    simp [hdispose, Position.leaves] at hleaves

-- The observer's own call goes on, and leaves it where the system says.
theorem ownCall (h : Sound config attended) (haway : attended.observer ≠ .away)
    (hwithin : attended.observer ≠ .within) {position : Position}
    (hact : attended.system.act action = .moved after) (hcall : action.isOfCall = true)
    (hposition : position ≠ .away)
    (hspawning : ∀ run, position = .spawning run → run ∈ after.windows)
    (hholding : position = .holding → after.lock ≠ none) : Sound config ⟨after, position⟩ := by
  have hstep := System.transition_of_act hact
  refine ⟨h.step_reachable hact, ?_, hspawning, hholding, fun _ _ => ?_, ?_⟩
  · have hbusy := h.busy.mpr haway
    rw [← hstep.busy_eq (by rintro rfl; cases hcall) (by rintro rfl; cases hcall)] at hbusy
    simp [hbusy, hposition]
  · exact hstep.closing_open (h.kept haway hwithin) (by rintro inside rfl; cases hcall)
  · exact hstep.holdsCallback h.returns (by rintro rfl; cases hcall)

end Sound

end Attended

theorem System.afterCall_cases (system : System) :
    system.lock = none ∧ system.afterCall = .within ∨
      system.lock ≠ none ∧ system.afterCall = .holding := by
  cases hlock : system.lock <;> simp [afterCall, isFree, hlock]

theorem Position.isOfCall_of_owns {position : Position} (h : position.owns action = true) :
    action.isOfCall = true ∧ position ≠ .away ∧ position ≠ .within := by
  cases position with
  | spawning run => cases action <;> simp_all [owns, Action.isOfCall]
  | holding => cases action <;> simp_all [owns, Action.isOfCall, Action.isHeld]
  | _ => cases h

namespace Attended.Sound

theorem afterCall (h : Sound config attended) (haway : attended.observer ≠ .away)
    (hwithin : attended.observer ≠ .within)
    (hact : attended.system.act action = .moved after) (hcall : action.isOfCall = true) :
    Sound config ⟨after, after.afterCall⟩ := by
  rcases after.afterCall_cases with ⟨-, hposition⟩ | ⟨hlock, hposition⟩ <;> rw [hposition]
  · exact h.ownCall haway hwithin hact hcall (by simp) (by simp) (by simp)
  · exact h.ownCall haway hwithin hact hcall (by simp) (by simp) fun _ => hlock

theorem deliver (h : Sound config attended)
    (hact : attended.system.act .deliver = .moved after) :
    Sound config ⟨after, if after.queue.busy then .within else .away⟩ := by
  refine ⟨h.step_reachable hact, ?_, ?_, ?_, ?_, ?_⟩
  · cases hbusy : after.queue.busy <;> simp
  · cases after.queue.busy <;> simp
  · cases after.queue.busy <;> simp
  · cases after.queue.busy <;> simp
  · exact (System.transition_of_act hact).holdsCallback h.returns (by simp)

theorem settle (h : Sound config attended) (hact : attended.system.act .settle = .moved after) :
    Sound config ⟨after, .away⟩ := by
  refine ⟨h.step_reachable hact, ?_, by simp, by simp, by simp, ?_⟩
  · cases System.transition_of_act hact with
    | settled => simp [Queue.settle]
  · exact (System.transition_of_act hact).holdsCallback h.returns (by simp)

theorem serve (h : Sound config attended) {call : Call}
    (hwaiting : attended.observer = .waiting call)
    (hserve : attended.system.serve call = some next) : Sound config next := by
  have haway : attended.observer ≠ .away := by simp [hwaiting]
  have hwithin : attended.observer ≠ .within := by simp [hwaiting]
  cases call with
  | start =>
      obtain ⟨after, hact, rfl⟩ := Option.map_eq_some_iff.mp hserve
      rw [System.act?_eq_some] at hact
      by_cases hstopped : attended.system.core.state = .stopped
      · rw [if_pos hstopped]
        refine h.ownCall haway hwithin hact rfl (by simp) ?_ (by simp)
        rintro run hrun
        obtain rfl : after.core.lastRun = run := by simpa using hrun
        cases System.transition_of_act hact with
        | startIgnored _ _ hactive => exact absurd hstopped hactive
        | begun => simp [System.notifyAll]
      · rw [if_neg hstopped]
        exact h.ownCall haway hwithin hact rfl (by simp) (by simp) (by simp)
  | request signal =>
      obtain ⟨after, hact, rfl⟩ := Option.map_eq_some_iff.mp hserve
      rw [System.act?_eq_some] at hact
      exact h.afterCall haway hwithin hact rfl
  | state =>
      obtain ⟨-, rfl⟩ : attended.system.isFree = true ∧
          (⟨attended.system, .within⟩ : Attended) = next := by
        simpa [System.serve] using hserve
      refine ⟨h.reachable, ?_, by simp, by simp, by simp, h.returns⟩
      simp [h.busy, haway]

theorem act (h : Sound config attended) (hact : attended.act deed = some next) :
    Sound config next := by
  cases deed with
  | aside action =>
      obtain ⟨hleaves, hmap⟩ := Option.ite_none_right_eq_some.mp hact
      obtain ⟨after, hafter, rfl⟩ := Option.map_eq_some_iff.mp hmap
      exact h.aside hleaves (System.act?_eq_some.mp hafter)
  | deliver =>
      obtain ⟨-, hmap⟩ := Option.ite_none_right_eq_some.mp hact
      obtain ⟨after, hafter, rfl⟩ := Option.map_eq_some_iff.mp hmap
      exact h.deliver (System.act?_eq_some.mp hafter)
  | call call =>
      obtain ⟨hguard, hnext⟩ := Option.ite_none_right_eq_some.mp hact
      obtain ⟨hwithin, hopen⟩ : attended.observer = .within ∧ attended.system.isOpen = true := by
        simpa using hguard
      obtain rfl := Option.some.inj hnext
      refine ⟨h.reachable, ?_, by simp, by simp, fun _ _ => System.closing_of_isOpen hopen,
        h.returns⟩
      simp [h.busy, hwithin]
  | enter =>
      simp only [Attended.act] at hact
      split at hact
      · rename_i call hwaiting
        exact h.serve hwaiting hact
      · cases hact
  | proceed action =>
      obtain ⟨howns, hmap⟩ := Option.ite_none_right_eq_some.mp hact
      obtain ⟨after, hafter, rfl⟩ := Option.map_eq_some_iff.mp hmap
      obtain ⟨hcall, haway, hwithin⟩ := Position.isOfCall_of_owns howns
      exact h.afterCall haway hwithin (System.act?_eq_some.mp hafter) hcall
  | settle =>
      obtain ⟨-, hmap⟩ := Option.ite_none_right_eq_some.mp hact
      obtain ⟨after, hafter, rfl⟩ := Option.map_eq_some_iff.mp hmap
      exact h.settle (System.act?_eq_some.mp hafter)

end Attended.Sound

theorem Attends.sound (h : Attends config attended) : attended.Sound config := by
  induction h with
  | initial => exact .initial config
  | step _ hact ih => exact ih.act hact

end Overseer.Supervisor
