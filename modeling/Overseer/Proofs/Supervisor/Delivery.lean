import Overseer.Proofs.Supervisor.Coherence
import Overseer.Proofs.Supervisor.Grammar
import Overseer.Proofs.Supervisor.Posting

namespace Overseer.Supervisor

-- The dispatcher hands over what was put in the queue, from the front and one
-- event after the other, and ends at the mark that nothing comes after.

variable {config : Config} {actions : List Action} {steps : List Step} {system after : System}
  {action : Action}

-- The event that a step hands to the observer.
def Step.handed? (step : Step) : Option Event :=
  match step.action with
  | .deliver => step.after.queue.current
  | _ => none

-- What the observer was given, in the order in which it was given.
def handovers (steps : List Step) : List Event := steps.filterMap Step.handed?

theorem handovers_concat (steps : List Step) (step : Step) :
    handovers (steps ++ [step]) = handovers steps ++ step.handed?.toList := by
  cases hhanded : step.handed? <;> simp [handovers, hhanded]

namespace Queue

variable {queue next : Queue} {item : Item} {events : List Event}

-- Where the dispatcher is in the queue, and where the mark is.
structure Sound (queue : Queue) : Prop where
  taken : queue.taken ≤ queue.items.size
  -- The mark comes last, and the dispatcher ends as soon as it takes it.
  last : ∀ index, queue.items[index]? = some .shutdown → index + 1 = queue.items.size
  ahead : queue.ended = false → ∀ index, queue.items[index]? = some .shutdown →
    queue.taken ≤ index
  ended : queue.ended = true → queue.taken = queue.items.size ∧ queue.busy = false

theorem sound_empty : empty.Sound where
  taken := Nat.le_refl 0
  last := by simp [empty]
  ahead := by simp [empty]
  ended := by simp [empty]

theorem put_of_open (hopen : queue.ended = false) (item : Item) :
    queue.put item = { queue with items := queue.items.push item } := by
  simp [put, hopen]

theorem put_of_ended (hended : queue.ended = true) (item : Item) : queue.put item = queue := by
  simp [put, hended]

namespace Sound

theorem put (h : queue.Sound) (hunmarked : Item.shutdown ∉ queue.items) (item : Item) :
    (queue.put item).Sound := by
  cases hended : queue.ended with
  | true =>
      rw [put_of_ended hended]
      exact h
  | false =>
      have hmark : ∀ index, (queue.items.push item)[index]? = some .shutdown →
          index = queue.items.size := by
        intro index hindex
        rw [Array.getElem?_push] at hindex
        split at hindex
        · assumption
        · exact absurd (Array.mem_of_getElem? hindex) hunmarked
      rw [put_of_open hended]
      refine ⟨?_, ?_, ?_, fun hover => absurd (hended.symm.trans hover) (by simp)⟩
      · rw [Array.size_push]
        exact Nat.le_succ_of_le h.taken
      · intro index hindex
        rw [Array.size_push, hmark index hindex]
      · intro _ index hindex
        rw [hmark index hindex]
        exact h.taken

theorem putAll (h : queue.Sound) (hunmarked : Item.shutdown ∉ queue.items) (events : List Event) :
    (queue.putAll events).Sound := by
  induction events generalizing queue with
  | nil => exact h
  | cons event events ih =>
      exact ih (h.put hunmarked (.event event)) fun hmem =>
        hunmarked (@shutdown_mem_putAll queue [event] hmem)

theorem deliver (h : queue.Sound) (hnext : queue.deliver = some next) : next.Sound := by
  unfold Queue.deliver at hnext
  split at hnext
  · cases hnext
  rename_i hguard
  obtain ⟨hidle, hopen⟩ : queue.busy = false ∧ queue.ended = false := by simpa using hguard
  split at hnext
  · cases hnext
  · rename_i event hitem
    obtain ⟨hlt, -⟩ := Array.getElem?_eq_some_iff.mp hitem
    obtain rfl := Option.some.inj hnext
    refine ⟨hlt, h.last, fun _ index hindex => ?_, fun hover => ?_⟩
    · -- The item that was taken is an event, so the mark is further on.
      refine Nat.lt_of_le_of_ne (h.ahead hopen index hindex) fun heq => ?_
      rw [← heq, hitem] at hindex
      cases hindex
    · exact absurd (hopen.symm.trans hover) (by simp)
  · rename_i hitem
    have hlast := h.last _ hitem
    obtain rfl := Option.some.inj hnext
    exact ⟨Nat.le_of_eq hlast, h.last, fun hover => absurd hover (by simp),
      fun _ => ⟨hlast, hidle⟩⟩

theorem settle (h : queue.Sound) : queue.settle.Sound where
  taken := h.taken
  last := h.last
  ahead := h.ahead
  ended := fun hended => ⟨(h.ended hended).1, rfl⟩

-- A dispatcher that has not come to the mark has something to take.
theorem able (h : queue.Sound) (hidle : queue.busy = false) (hopen : queue.ended = false)
    (hmarked : Item.shutdown ∈ queue.items) : ∃ next, queue.deliver = some next := by
  obtain ⟨index, hindex⟩ := Array.mem_iff_getElem?.mp hmarked
  have hahead := h.ahead hopen index hindex
  have hlast := h.last index hindex
  have hlt : queue.taken < queue.items.size := by omega
  unfold Queue.deliver
  rw [hidle, hopen, Array.getElem?_eq_getElem hlt]
  cases queue.items[queue.taken] <;> exact ⟨_, rfl⟩

end Sound

-- What was handed over, as the queue goes on.

theorem handed_put (h : queue.taken ≤ queue.items.size) (item : Item) :
    (queue.put item).handed = queue.handed := by
  unfold put
  split
  · rfl
  · simp only [handed, Array.toList_push]
    rw [List.take_append_of_le_length (by simpa using h)]

theorem handed_putAll (h : queue.taken ≤ queue.items.size) (events : List Event) :
    (queue.putAll events).handed = queue.handed := by
  induction events generalizing queue with
  | nil => rfl
  | cons event events ih =>
      have hroom : (queue.put (.event event)).taken ≤ (queue.put (.event event)).items.size := by
        unfold put
        split
        · exact h
        · rw [Array.size_push]
          exact Nat.le_succ_of_le h
      exact (ih hroom).trans (handed_put h (.event event))

-- The dispatcher takes an event and is busy with it, or takes the mark and ends.
theorem deliver_takes (hnext : queue.deliver = some next) :
    next.items = queue.items ∧ next.taken = queue.taken + 1 ∧
      (next.busy = true ∨ next.ended = true) := by
  unfold deliver at hnext
  split at hnext
  · cases hnext
  split at hnext
  · cases hnext
  · obtain rfl := Option.some.inj hnext
    exact ⟨rfl, rfl, .inl rfl⟩
  · obtain rfl := Option.some.inj hnext
    exact ⟨rfl, rfl, .inr rfl⟩

theorem handed_deliver (hnext : queue.deliver = some next) :
    next.handed = queue.handed ++ next.current.toList := by
  unfold deliver at hnext
  split at hnext
  · cases hnext
  rename_i hguard
  have hidle : queue.busy = false := (by simpa using hguard : _ ∧ _).1
  split at hnext
  · cases hnext
  all_goals
    rename_i hitem
    obtain ⟨hlt, hget⟩ := Array.getElem?_eq_some_iff.mp hitem
    have htake : queue.items.toList.take (queue.taken + 1) =
        queue.items.toList.take queue.taken ++ [queue.items[queue.taken]] := by
      rw [List.take_succ_eq_append_getElem (by simpa using hlt), Array.getElem_toList]
    obtain rfl := Option.some.inj hnext
    simp [handed, current, htake, hitem, hget, hidle]

-- At any time the observer was given the beginning of what was put in.
theorem handed_prefix (queue : Queue) : queue.handed <+: queue.events :=
  (List.take_prefix _ _).filterMap _

theorem handed_of_ended (h : queue.Sound) (hended : queue.ended = true) :
    queue.handed = queue.events := by
  have hall := (h.ended hended).1
  simp only [handed, events]
  rw [List.take_of_length_le (by simp [hall])]

end Queue

-- How the disposal ends.

theorem System.closed_notifyAll :
    system.notifyAll.closing = .closed ↔ system.closing = .closed := by
  cases hclosing : system.closing <;> simp [notifyAll, hclosing]

theorem Requesting.closed_iff {signal : Signal} (hstep : Requesting system signal after) :
    after.closing = .closed ↔ system.closing = .closed := by
  cases hstep with
  | entered => exact System.closed_notifyAll
  | _ => exact Iff.rfl

theorem Transition.closed (hstep : Transition system action after)
    (hclosed : after.closing = .closed) : system.closing = .closed ∨ action = .disposeClose := by
  cases hstep with
  | disposeClosed => exact .inr rfl
  | disposed | disposeRequested | disposeLooked => cases hclosed
  | requested hopen hrequest => exact .inl (hrequest.closed_iff.mp hclosed)
  | begun | failed | takenUp | announced | tornDown =>
      exact .inl (System.closed_notifyAll.mp hclosed)
  | _ => exact .inl hclosed

namespace Consistent

theorem unmarked (h : Consistent system) (hrun : system.core.run ≠ none) :
    Item.shutdown ∉ system.queue.items :=
  fun hmarked => hrun (h.shut.closed (h.shut.marked hmarked))

theorem queue_sound (h : Consistent system) (hsound : system.queue.Sound)
    (hstep : Transition system action after) : after.queue.Sound := by
  cases hstep.queueStep with
  | posted hother hposting hqueue =>
      by_cases hrun : system.core.run = none
      · rw [h.queue_of_idle hstep hqueue hrun]
        exact hsound
      · rw [hqueue]
        exact hsound.putAll (h.unmarked hrun) _
  | delivered hdeliver => exact hsound.deliver hdeliver
  | settled hbusy hsettle =>
      rw [hsettle]
      exact hsound.settle
  | marked hclosing hcore hmark =>
      rw [hmark]
      refine hsound.put (fun hmarked => ?_) .shutdown
      rw [h.shut.marked hmarked] at hclosing
      cases hclosing

end Consistent

-- What the observer is given grows by the event that is handed over now.
theorem Transition.handed_concat (hstep : Transition system action after)
    (hsound : system.queue.Sound) :
    after.queue.handed = system.queue.handed ++ (Step.mk system action after).handed?.toList := by
  have hquiet : action ≠ .deliver → (Step.mk system action after).handed? = none := by
    intro hother
    cases action <;> first | rfl | exact absurd rfl hother
  cases hstep.queueStep with
  | delivered hdeliver => exact Queue.handed_deliver hdeliver
  | settled hbusy hsettle =>
      rw [hsettle, hquiet (by simp), Option.toList_none, List.append_nil]
      rfl
  | marked hclosing hcore hmark =>
      rw [hmark, hquiet (by simp), Option.toList_none, List.append_nil]
      exact Queue.handed_put hsound.taken .shutdown
  | posted hother hposting hqueue =>
      rw [hqueue, hquiet hother, Option.toList_none, List.append_nil]
      exact Queue.handed_putAll hsound.taken _

namespace Execution

theorem queue_sound (h : Execution config actions system) : system.queue.Sound := by
  induction h with
  | initial => exact Queue.sound_empty
  | step hbefore hact ih => exact hbefore.consistent.queue_sound ih (System.transition_of_act hact)

theorem handed_eq (h : Execution config actions system) :
    handovers (history config actions) = system.queue.handed := by
  induction h with
  | initial => rfl
  | step hbefore hact ih =>
      have hnext := (System.transition_of_act hact).handed_concat hbefore.queue_sound
      rw [hbefore.history_concat hact, handovers_concat, ih, hnext]

-- Once the disposal is over only the dispatcher still changes the queue.
theorem queue_of_closed (h : Execution config actions system) (hclosed : system.closing = .closed)
    (hact : system.act action = .moved after) :
    after.queue.items = system.queue.items ∧ after.queue.events = system.queue.events := by
  have hstep := System.transition_of_act hact
  cases hstep.queueStep with
  | posted hother hposting hqueue =>
      rw [h.consistent.queue_of_idle hstep hqueue (h.consistent.shut.closed hclosed)]
      exact ⟨rfl, rfl⟩
  | delivered hdeliver => exact ⟨(Queue.deliver_takes hdeliver).1, Queue.events_deliver hdeliver⟩
  | settled hbusy hsettle =>
      rw [hsettle]
      exact ⟨rfl, rfl⟩
  | marked hclosing =>
      rw [hclosed] at hclosing
      cases hclosing

theorem marked_of_closed (h : Execution config actions system)
    (hclosed : system.closing = .closed) : Item.shutdown ∈ system.queue.items := by
  induction h with
  | initial => cases hclosed
  | @step actions before after action hbefore hact ih =>
      have hstep := System.transition_of_act hact
      rcases hstep.closed hclosed with hearlier | rfl
      · rw [(hbefore.queue_of_closed hearlier hact).1]
        exact ih hearlier
      · cases hstep with
        | disposeClosed hclosing =>
            have hopen : before.queue.ended = false := by
              cases hended : before.queue.ended with
              | false => rfl
              | true =>
                  rw [hbefore.consistent.shut.ended hended] at hclosing
                  cases hclosing
            simp [Queue.put_of_open hopen]

-- The last that is heard of a supervisor which ever had a process.
theorem last_event (h : Execution config actions system) (hnone : system.core.run = none)
    (hattached : attachments actions ≠ []) :
    system.queue.events.getLast? = some (.stateChanged .stopped) := by
  obtain ⟨chapters, hbook, -⟩ := h.book
  rcases List.eq_nil_or_concat chapters with rfl | ⟨earlier, last, rfl⟩
  · exact absurd hbook.runs.symm hattached
  · rw [List.concat_eq_append] at hbook
    have hexit : last.exit ≠ none := by
      intro hopen
      have hcurrent := hbook.unfinished last (by simp) hopen
      simp [Core.isAttached, hnone] at hcurrent
    obtain ⟨exit, hexit⟩ := Option.ne_none_iff_exists'.mp hexit
    rw [hbook.queued, List.flatMap_append, List.flatMap_singleton]
    simp [Chapter.events, Chapter.ending, hexit, List.getLast?_append]

end Execution

-- A dispatcher that is left alone with a marked queue comes to the mark.

theorem System.act_deliver {next : Queue} (h : system.queue.deliver = some next) :
    system.act .deliver = .moved { system with queue := next } := by
  simp [act, onDeliver, h]

theorem System.act_settle (hbusy : system.queue.busy = true) (hclosed : system.closing = .closed) :
    system.act .settle = .moved { system with queue := system.queue.settle } := by
  simp [act, onSettle, hbusy, hclosed, Closing.holdsCallback]

def Action.isDispatching : Action → Bool
  | deliver | settle => true
  | _ => false

structure Drained (system : System) (rest : List Action) (final : System) : Prop where
  alone : ∀ action ∈ rest, action.isDispatching = true
  taken : system.actAll rest = some final
  ended : final.queue.ended = true
  items : final.queue.items = system.queue.items

theorem Drained.nil (hended : system.queue.ended = true) : Drained system [] system :=
  ⟨by simp, rfl, hended, rfl⟩

theorem Drained.cons {rest : List Action} {final : System} (h : Drained after rest final)
    (haction : action.isDispatching = true) (hact : system.act action = .moved after)
    (hitems : after.queue.items = system.queue.items) :
    Drained system (action :: rest) final where
  alone := by simpa [haction] using h.alone
  taken := by simp only [System.actAll, hact, h.taken]
  ended := h.ended
  items := h.items.trans hitems

theorem System.drain_idle (count : Nat)
    (hcount : system.queue.items.size ≤ system.queue.taken + count)
    (hclosed : system.closing = .closed) (hsound : system.queue.Sound)
    (hmarked : Item.shutdown ∈ system.queue.items) (hidle : system.queue.busy = false) :
    ∃ rest final, Drained system rest final := by
  induction count generalizing system with
  | zero =>
      cases hended : system.queue.ended with
      | true => exact ⟨[], system, .nil hended⟩
      | false =>
          obtain ⟨next, hnext⟩ := hsound.able hidle hended hmarked
          obtain ⟨hitems, htaken, -⟩ := Queue.deliver_takes hnext
          have hroom := (hsound.deliver hnext).taken
          rw [hitems, htaken] at hroom
          omega
  | succ count ih =>
      cases hended : system.queue.ended with
      | true => exact ⟨[], system, .nil hended⟩
      | false =>
          obtain ⟨next, hnext⟩ := hsound.able hidle hended hmarked
          obtain ⟨hitems, htaken, hkind⟩ := Queue.deliver_takes hnext
          let given : System := { system with queue := next }
          have hdeliver : system.act .deliver = .moved given := act_deliver hnext
          rcases hkind with hbusy | hend
          · -- The observer is given an event and returns.
            let returned : System := { system with queue := next.settle }
            have hsettle : given.act .settle = .moved returned := act_settle hbusy hclosed
            have hleft : next.items.size ≤ next.taken + count := by
              rw [hitems, htaken]
              omega
            have hmark : Item.shutdown ∈ next.items := by rwa [hitems]
            obtain ⟨rest, final, hrest⟩ : ∃ rest final, Drained returned rest final :=
              ih hleft hclosed (hsound.deliver hnext).settle hmark rfl
            exact ⟨_, final, (hrest.cons rfl hsettle rfl).cons rfl hdeliver hitems⟩
          · have hnil : Drained given [] given := .nil hend
            exact ⟨_, given, hnil.cons rfl hdeliver hitems⟩

theorem System.drain (hclosed : system.closing = .closed) (hsound : system.queue.Sound)
    (hmarked : Item.shutdown ∈ system.queue.items) :
    ∃ rest final, Drained system rest final := by
  have hcount : system.queue.items.size ≤ system.queue.taken + system.queue.items.size :=
    Nat.le_add_left _ _
  cases hbusy : system.queue.busy with
  | false => exact drain_idle _ hcount hclosed hsound hmarked hbusy
  | true =>
      let returned : System := { system with queue := system.queue.settle }
      obtain ⟨rest, final, hrest⟩ : ∃ rest final, Drained returned rest final :=
        drain_idle _ hcount hclosed hsound.settle hmarked rfl
      exact ⟨_, final, hrest.cons rfl (act_settle hbusy hclosed) rfl⟩

-- The call that disposes of the supervisor returns once the queue is marked
-- and, outside of a callback, once the dispatcher has ended.
def System.isDisposed (system : System) (inside : Bool) : Bool :=
  system.closing = .closed && (inside || system.queue.ended)

structure Delivered (config : Config) (actions : List Action) (system : System) : Prop where
  -- What the observer was given is the beginning of what was put in the queue.
  handed : handovers (history config actions) = system.queue.handed
  inOrder : system.queue.handed <+: system.queue.events
  -- The end is marked by the disposal alone, when the run is over.
  marking : ∀ action after, system.act action = .moved after →
    Item.shutdown ∉ system.queue.items → Item.shutdown ∈ after.queue.items →
    action = .disposeClose ∧ system.core.state = .stopped
  -- The mark stays the last item, and no event comes after it.
  last : ∀ index, system.queue.items[index]? = some .shutdown →
    index + 1 = system.queue.items.size
  silent : Item.shutdown ∈ system.queue.items →
    ∀ action after, system.act action = .moved after →
      after.queue.items = system.queue.items ∧ after.queue.events = system.queue.events
  -- A dispatcher that ends leaves nothing behind, wherever the supervisor was
  -- disposed of, and so does a disposal from outside when it returns.
  ended : system.queue.ended = true →
    system.queue.handed = system.queue.events ∧ system.queue.busy = false
  disposed : system.isDisposed false = true →
    system.queue.handed = system.queue.events ∧ system.queue.busy = false ∧
      (attachments actions ≠ [] →
        system.queue.events.getLast? = some (.stateChanged .stopped))
  -- After a disposal from inside a callback the dispatcher gets to the end with
  -- no help but the observer's returning.
  drains : system.isDisposed true = true → ∃ rest final, Drained system rest final ∧
    final.queue.handed = system.queue.events

-- In every order of steps each event is handed over once and in its turn, also
-- when the supervisor is disposed of.
theorem every_event_is_delivered (h : Execution config actions system) :
    Delivered config actions system where
  handed := h.handed_eq
  inOrder := system.queue.handed_prefix
  marking := by
    intro action after hact hunmarked hmarked
    have hstep := System.transition_of_act hact
    cases hstep.queueStep with
    | posted hother hposting hqueue =>
        rw [hqueue] at hmarked
        exact absurd (Queue.shutdown_mem_putAll hmarked) hunmarked
    | delivered hdeliver =>
        rw [(Queue.deliver_takes hdeliver).1] at hmarked
        exact absurd hmarked hunmarked
    | settled hbusy hsettle =>
        rw [hsettle] at hmarked
        exact absurd hmarked hunmarked
    | marked hclosing =>
        exact ⟨rfl, h.consistent.stopped_iff.mpr (h.consistent.shut.released _ _ hclosing)⟩
  last := h.queue_sound.last
  silent := fun hmarked _ _ hact => h.queue_of_closed (h.consistent.shut.marked hmarked) hact
  ended := fun hended =>
    ⟨Queue.handed_of_ended h.queue_sound hended, (h.queue_sound.ended hended).2⟩
  disposed := by
    intro hdisposed
    obtain ⟨hclosed, hended⟩ : system.closing = .closed ∧ system.queue.ended = true := by
      simpa [System.isDisposed] using hdisposed
    exact ⟨Queue.handed_of_ended h.queue_sound hended, (h.queue_sound.ended hended).2,
      h.last_event (h.consistent.shut.closed hclosed)⟩
  drains := by
    intro hdisposed
    have hclosed : system.closing = .closed := by simpa [System.isDisposed] using hdisposed
    obtain ⟨rest, final, hrest⟩ := System.drain hclosed h.queue_sound (h.marked_of_closed hclosed)
    refine ⟨rest, final, hrest, ?_⟩
    rw [Queue.handed_of_ended (h.append hrest.taken).queue_sound hrest.ended]
    simp only [Queue.events, hrest.items]

-- A supervisor that is disposed of in the callback for its first line, while the
-- run goes on to its end.
def disposedInside : List Action :=
  [.start] ++ installing 1 ⟨7, false, false⟩ ++
    [.deliver, .dispose true, .disposeRequest, .conclude (.ok ()), .report 1 (.ofCode 0),
      .teardown 1, .disposeLook, .disposeClose]

theorem every_event_is_delivered_of_inside :
    ∃ system, Execution .default disposedInside system ∧ system.isDisposed true = true ∧
      Delivered .default disposedInside system := by
  have hall : ∃ system, (System.new .default).actAll disposedInside = some system ∧
      system.isDisposed true = true :=
    ⟨_, rfl, by decide⟩
  obtain ⟨system, hall, hdisposed⟩ := hall
  exact ⟨system, .of_actAll hall, hdisposed, every_event_is_delivered (.of_actAll hall)⟩

end Overseer.Supervisor
