import Overseer.Proofs.Supervisor.Telling

namespace Overseer.Supervisor

-- What each step does to the queue. Most steps put something in it or leave it
-- alone; the others are the dispatcher's own work and the mark that ends it.

theorem Queue.putAll_of_ended {queue : Queue} (hended : queue.ended = true)
    (events : List Event) : queue.putAll events = queue := by
  induction events with
  | nil => rfl
  | cons event events ih =>
      have hput : queue.put (.event event) = queue := by simp [put, hended]
      have hstep : queue.putAll (event :: events) = (queue.put (.event event)).putAll events := rfl
      rw [hstep, hput, ih]

-- The events that an action puts in the queue, with the state it enters.
inductive Posting (after : Core) : Action → List Event → Prop
  | nothing {action : Action} : Posting after action []
  | installed {id : Nat} {handle : Handle} :
      Posting after (.attach id handle) [startedLine handle.pid, .stateChanged .starting]
  | unread {source : Source} {reason : String} :
      Posting after (.watch (some reason)) [unreadLine source reason]
  | stopping {action : Action} :
      after.state = .stopping → Posting after action [.stateChanged .stopping]
  | refused {fault : Fault} : Posting after (.conclude (.error fault)) [refusedLine fault]
  | text {id : Nat} {source : Source} {text : String} :
      Posting after (.read id source) [.output ⟨source, text⟩]
  | ready {id : Nat} :
      after.state = .running → Posting after (.announce id) [.stateChanged .running]
  | ended {id : Nat} {exit : Exit} :
      after.state = .stopped →
      Posting after (.teardown id) [stoppedLine exit, .stateChanged .stopped]

inductive QueueStep (system after : System) : Action → Prop
  | posted {action : Action} {events : List Event} :
      action ≠ .deliver → Posting after.core action events →
      after.queue = system.queue.putAll events → QueueStep system after action
  | delivered : system.queue.deliver = some after.queue → QueueStep system after .deliver
  | settled :
      system.queue.busy = true → after.queue = system.queue.settle →
      QueueStep system after .settle
  | marked {inside reached : Bool} :
      system.closing = .waiting inside (.returned reached) → after.core = system.core →
      after.queue = system.queue.put .shutdown → QueueStep system after .disposeClose

variable {system after : System} {action : Action} {events : List Event}

theorem Posting.read {core : Core} (id : Nat) (source : Source) (text : Option String) :
    Posting core (.read id source) (System.outputEvent source text) := by
  cases text with
  | none => exact .nothing
  | some text => exact .text

-- Only a reader's announcement tells that a run is ready.
theorem Posting.announce {core : Core} (h : Posting core action events)
    (hmem : .stateChanged .running ∈ events) :
    ∃ id, action = .announce id ∧ core.state = .running := by
  cases h with
  | @ready id hstate => exact ⟨id, rfl, hstate⟩
  | _ => simp [startedLine, unreadLine, refusedLine, stoppedLine] at hmem

theorem Requesting.posting {signal : Signal} (hstep : Requesting system signal after)
    (action : Action) :
    ∃ events, Posting after.core action events ∧ after.queue = system.queue.putAll events := by
  cases hstep with
  | ignored => exact ⟨[], .nothing, rfl⟩
  | recorded => exact ⟨[], .nothing, rfl⟩
  | entered => exact ⟨[.stateChanged .stopping], .stopping rfl, rfl⟩
  | repeated => exact ⟨[], .nothing, rfl⟩

theorem Transition.queueStep (hstep : Transition system action after) :
    QueueStep system after action := by
  cases hstep with
  | attached => exact .posted (by simp) .installed rfl
  | unwatched => exact .posted (by simp) .unread rfl
  | takenUp => exact .posted (by simp) (.stopping rfl) rfl
  | requested hopen hrequest =>
      obtain ⟨events, hposting, hqueue⟩ := hrequest.posting (.request _)
      exact .posted (by simp) hposting hqueue
  | disposeRequested hclosing hrequest =>
      obtain ⟨events, hposting, hqueue⟩ := hrequest.posting .disposeRequest
      exact .posted (by simp) hposting hqueue
  | concluded hlock hconcluded =>
      rcases Core.concluded_eq_ok hconcluded with rfl | ⟨fault, rfl, rfl⟩
      · exact .posted (by simp) .nothing rfl
      · exact .posted (by simp) .refused rfl
  | @readEnd id source thread =>
      exact .posted (by simp) (.read id source thread.reader.flush) rfl
  | @readChunk id source thread bytes =>
      exact .posted (by simp) (.read id source (thread.reader.accept bytes).output) rfl
  | announced => exact .posted (by simp) (.ready rfl) rfl
  | tornDown => exact .posted (by simp) (.ended rfl) rfl
  | delivered hqueue => exact .delivered hqueue
  | settled hbusy => exact .settled hbusy rfl
  | disposeClosed hclosing => exact .marked hclosing rfl rfl
  | _ => exact .posted (by simp) .nothing rfl

namespace Consistent

-- Whoever has something to tell works for a run.
theorem run_of_posted (h : Consistent system) (hstep : Transition system action after)
    (hsome : (Step.mk system action after).events ≠ []) : system.core.run ≠ none := by
  cases hkind : action.isTurn with
  | false =>
      obtain ⟨events, hadds⟩ := Adds.transition h hstep hkind
      rw [hadds.events_eq] at hsome
      obtain ⟨id, handle, hstanding, -⟩ := hadds.labelled hsome
      intro hnone
      simp [Core.standing, hnone] at hstanding
  | true =>
      cases hstep with
      | failed => exact absurd (Step.events_of_same rfl) hsome
      | attached hlock hwindow hrun => simp [hrun]
      | tornDown hlock hfind hjoined hrun => simp [hrun]
      | _ => cases hkind

-- A step that puts something in the queue finds it open.
theorem events_of_posted (h : Consistent system)
    (hqueue : after.queue = system.queue.putAll events) (hrun : system.core.run ≠ none) :
    (Step.mk system action after).events = events :=
  Step.events_of_putAll _ _ (h.queue_open hrun) hqueue

-- Without a run nothing is put in the queue, whether it is open or not.
theorem queue_of_idle (h : Consistent system) (hstep : Transition system action after)
    (hqueue : after.queue = system.queue.putAll events) (hnone : system.core.run = none) :
    after.queue = system.queue := by
  cases hended : system.queue.ended with
  | true => rw [hqueue, Queue.putAll_of_ended hended]
  | false =>
      have hevents := Step.events_of_putAll ⟨system, action, after⟩ events hended hqueue
      have hsilent : events = [] := by
        refine Decidable.byContradiction fun hsome => h.run_of_posted hstep ?_ hnone
        rwa [hevents]
      rw [hqueue, hsilent]
      rfl

theorem posting (h : Consistent system) (hstep : Transition system action after) :
    Posting after.core action (Step.mk system action after).events := by
  by_cases hsome : (Step.mk system action after).events = []
  · rw [hsome]
    exact .nothing
  cases hstep.queueStep with
  | posted hother hposting hqueue =>
      rw [h.events_of_posted hqueue (h.run_of_posted hstep hsome)]
      exact hposting
  | delivered hdeliver => exact absurd (Step.events_of_same (Queue.events_deliver hdeliver)) hsome
  | settled hbusy hsettle =>
      have hsame : after.queue.events = system.queue.events := by
        rw [hsettle]
        rfl
      exact absurd (Step.events_of_same hsame) hsome
  | marked hclosing hcore hmark =>
      have hsame : after.queue.events = system.queue.events := by
        rw [hmark, Queue.events_put_shutdown]
      exact absurd (Step.events_of_same hsame) hsome

end Consistent

end Overseer.Supervisor
