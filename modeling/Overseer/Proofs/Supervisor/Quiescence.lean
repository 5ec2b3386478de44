import Mathlib.Data.List.Nodup
import Overseer.Proofs.Supervisor.Callbacks

namespace Overseer.Output

-- The end of a stream, or a read that fails for good.
def Message.isLast : Message → Bool
  | .closed | .broken | .data [] => true
  | _ => false

theorem Stream.read_ne_none {stream : Stream} (h : stream ≠ []) (size : Nat) :
    stream.read size ≠ none := by
  cases stream with
  | nil => exact absurd rfl h
  | cons message rest =>
      cases message with
      | data bytes => cases bytes <;> simp [Stream.read]
      | _ => simp [Stream.read]

end Overseer.Output

namespace Overseer.Supervisor

open Overseer.Output

-- Who waits for whom. Readers wait for their streams and, to announce, for the
-- lock; threads that end a run wait for its readers and then for the lock; a
-- callback waits for the lock. Whoever has the lock waits for none of them.

variable {config : Config} {system after : System} {action : Action} {attended next : Attended}
  {deed : Deed} {id : Nat} {thread : ReaderThread} {teardown : Teardown}

-- Steps of the threads that work for the supervisor, and of whoever has the lock.
def Action.isInternal : Action → Bool
  | .read _ _ | .announce _ | .teardown _ => true
  | action => action.isHeld

-- What goes on without the outside world: no call is made, and no process is
-- spawned, writes or ends.
def Deed.isInternal : Deed → Bool
  | aside action | proceed action => action.isInternal
  | deliver | enter | settle => true
  | call _ => false

theorem System.moved_of_act (hblocked : system.act action ≠ .blocked)
    (hbroken : ∀ violation, system.act action ≠ .broken violation) :
    ∃ after, system.act action = .moved after := by
  cases hact : system.act action with
  | blocked => exact absurd hact hblocked
  | broken violation => exact absurd hact (hbroken violation)
  | moved after => exact ⟨after, rfl⟩

namespace Consistent

theorem exists_held (h : Consistent system) (hlock : system.lock ≠ none) :
    ∃ action after, action.isHeld = true ∧ system.act action = .moved after := by
  suffices hfree : ∃ action : Action, action.isHeld = true ∧ system.act action ≠ .blocked by
    obtain ⟨action, hheld, hblocked⟩ := hfree
    obtain ⟨after, hact⟩ := System.moved_of_act hblocked (h.act_ne_broken action)
    exact ⟨action, after, hheld, hact⟩
  obtain ⟨holder, hholder⟩ := Option.ne_none_iff_exists'.mp hlock
  cases holder with
  | attaching id unread =>
      cases unread with
      | cons source rest =>
          exact ⟨.watch none, rfl, by simp [System.act, System.onWatch, hholder]⟩
      | nil =>
          refine ⟨.takePending, rfl, ?_⟩
          simp only [System.act, System.onTakePending, hholder]
          cases system.core.takePending <;> simp
  | signalling id signal =>
      refine ⟨.conclude (.ok ()), rfl, ?_⟩
      simp only [System.act, System.onConclude, hholder]
      cases system.core.concluded (.ok ()) <;> simp

-- A request is heard whenever the lock is free.
theorem request_moves (h : Consistent system) (hlock : system.lock = none)
    (hopen : system.closing = .open) (signal : Signal) :
    ∃ after, system.act (.request signal) = .moved after := by
  refine System.moved_of_act ?_ (h.act_ne_broken _)
  simp only [System.act, System.onRequest, System.isFree, System.isOpen, hlock, hopen]
  cases system.core.request signal with
  | error => simp
  | ok requested => cases requested <;> simp

-- The exit of a run brings the thread that ends it.
theorem exists_teardown (h : Consistent system) {run : Run} (hrun : system.core.run = some run)
    (hexited : run.exited = true) : ∃ teardown, teardown ∈ system.teardowns := by
  cases hhandle : run.handle with
  | none => simp [(h.spawning run hrun hhandle).exited] at hexited
  | some handle =>
      have hteardowns := (h.attached run handle hrun hhandle).teardowns
      refine List.exists_mem_of_ne_nil _ fun hnil => ?_
      simp [hnil, hexited] at hteardowns

theorem findReader_of_mem (h : Consistent system) (hmem : thread ∈ system.readers) :
    system.findReader thread.run thread.source = some thread := by
  obtain ⟨run, handle, -, -, hattached⟩ := h.reader_owner hmem
  cases hfind : system.findReader thread.run thread.source with
  | none =>
      have hnone := List.find?_eq_none.mp hfind thread hmem
      simp at hnone
  | some found =>
      obtain ⟨hfound, -, hsource⟩ := System.findReader_eq_some hfind
      rw [List.inj_on_of_nodup_map hattached.distinct hfound hmem hsource]

theorem read_moves (h : Consistent system) (hmem : thread ∈ system.readers)
    (htold : thread.announcing = false) (hstream : thread.stream ≠ []) :
    ∃ after, system.act (.read thread.run thread.source) = .moved after := by
  refine System.moved_of_act ?_ (h.act_ne_broken _)
  have hread := Stream.read_ne_none hstream (Stream.request system.config.chunkSize)
  obtain ⟨⟨reading, rest⟩, hreading⟩ := Option.ne_none_iff_exists'.mp hread
  simp only [System.act, System.onRead, h.findReader_of_mem hmem, htold, hreading]
  cases reading <;> simp

theorem announce_moves (h : Consistent system) (hlock : system.lock = none)
    (hmem : thread ∈ system.readers) (htold : thread.announcing = true) :
    ∃ after, system.act (.announce thread.run) = .moved after := by
  refine System.moved_of_act ?_ (h.act_ne_broken _)
  obtain ⟨run, handle, -, -, hattached⟩ := h.reader_owner hmem
  have hfind := h.findReader_of_mem hmem
  rw [((hattached.fits thread hmem).told htold).1] at hfind
  simp only [System.act, System.onAnnounce, System.isFree, hlock, hfind, htold]
  cases system.core.ready thread.run with
  | error => simp
  | ok next => cases next <;> simp

theorem teardown_moves (h : Consistent system) (hlock : system.lock = none)
    (hmem : teardown ∈ system.teardowns)
    (hjoined : ∀ source ∈ teardown.awaited, system.findReader teardown.run source = none) :
    ∃ after, system.act (.teardown teardown.run) = .moved after := by
  refine System.moved_of_act ?_ (h.act_ne_broken _)
  have honly : system.teardowns.find? (fun other => other.run = teardown.run) = some teardown := by
    simp [h.teardowns_eq hmem]
  have hended : teardown.awaited.any
      (fun source => (system.findReader teardown.run source).isSome) = false := by
    simpa using hjoined
  simp only [System.act, System.onTeardown, System.isFree, hlock, honly, hended]
  cases system.core.finish <;> simp

end Consistent

-- A dispatcher that has nothing to take has handed everything over.
theorem Queue.Sound.handed_of_idle {queue : Queue} (h : queue.Sound) (hidle : queue.busy = false)
    (hnone : queue.deliver = none) : queue.handed = queue.events := by
  cases hended : queue.ended with
  | true => exact Queue.handed_of_ended h hended
  | false =>
      simp only [Queue.deliver, hidle, hended, Bool.or_self, Bool.false_eq_true, if_false] at hnone
      have hsize : queue.items.size ≤ queue.taken := by
        split at hnone
        · rename_i hitem
          exact Array.getElem?_eq_none_iff.mp hitem
        · cases hnone
        · cases hnone
      simp only [Queue.handed, Queue.events]
      rw [List.take_of_length_le (by simpa using hsize)]

namespace Attended

theorem act_aside (hleaves : attended.observer.leaves action = true)
    (hact : attended.system.act action = .moved after) :
    attended.act (.aside action) = some ⟨after, attended.observer⟩ := by
  simp [act, hleaves, System.act?_eq_some.mpr hact]

theorem act_proceed (howns : attended.observer.owns action = true)
    (hact : attended.system.act action = .moved after) :
    attended.act (.proceed action) = some ⟨after, after.afterCall⟩ := by
  simp [act, howns, System.act?_eq_some.mpr hact]

namespace Sound

theorem consistent (h : Sound config attended) : Consistent attended.system := by
  obtain ⟨actions, hactions⟩ := h.reachable
  exact hactions.consistent

theorem queue_sound (h : Sound config attended) : attended.system.queue.Sound := by
  obtain ⟨actions, hactions⟩ := h.reachable
  exact hactions.queue_sound

-- Whoever has the lock, in a call of the observer's or elsewhere, can go on.
theorem holder_moves (h : Sound config attended) (hlock : attended.system.lock ≠ none) :
    ∃ action next, action.isHeld = true ∧
      (attended.act (.aside action) = some next ∨ attended.act (.proceed action) = some next) := by
  obtain ⟨action, after, hheld, hact⟩ := h.consistent.exists_held hlock
  by_cases howns : attended.observer.owns action = true
  · exact ⟨action, _, hheld, .inr (act_proceed howns hact)⟩
  · refine ⟨action, _, hheld, .inl (act_aside ?_ hact)⟩
    cases action <;> simp_all [Position.leaves, Action.isHeld]

theorem enter_moves (h : Sound config attended) {call : Call}
    (hwaiting : attended.observer = .waiting call) (hlock : attended.system.lock = none) :
    ∃ next, attended.act .enter = some next := by
  have hopen := h.kept (by simp [hwaiting]) (by simp [hwaiting])
  simp only [Attended.act, hwaiting]
  cases call with
  | start =>
      obtain ⟨after, hact⟩ : ∃ after, attended.system.act .start = .moved after := by
        refine System.moved_of_act ?_ (h.consistent.act_ne_broken _)
        simp only [System.act, System.onStart, System.isFree, System.isOpen, hlock, hopen]
        cases attended.system.core.begin? <;> simp
      simp [System.serve, System.act?_eq_some.mpr hact]
  | request signal =>
      obtain ⟨after, hact⟩ := h.consistent.request_moves hlock hopen signal
      simp [System.serve, System.act?_eq_some.mpr hact]
  | state => simp [System.serve, System.isFree, hlock]

theorem settle_moves (h : Sound config attended) (hwithin : attended.observer = .within) :
    ∃ next, attended.act .settle = some next := by
  have hbusy := h.busy.mpr (by simp [hwithin])
  simp [Attended.act, hwithin, System.act?, System.act, System.onSettle, hbusy, h.returns]

theorem deliver_moves (haway : attended.observer = .away) {queue : Queue}
    (hnext : attended.system.queue.deliver = some queue) :
    ∃ next, attended.act .deliver = some next := by
  simp [Attended.act, haway, System.act?, System.act_deliver hnext]

end Sound

end Attended

-- Nothing goes on unless the outside world does something.
def Attended.Still (attended : Attended) : Prop :=
  ∀ deed : Deed, deed.isInternal = true → attended.act deed = none

-- The state that a supervisor comes to rest in.
structure AtRest (attended : Attended) : Prop where
  stopped : attended.system.core.state = .stopped
  runless : attended.system.core.run = none
  delivered : attended.system.queue.handed = attended.system.queue.events
  away : attended.observer = .away

structure Unhindered (attended : Attended) : Prop where
  -- Nobody waits who has the lock.
  holding : attended.system.lock ≠ none → ∃ action next, action.isHeld = true ∧
    (attended.act (.aside action) = some next ∨ attended.act (.proceed action) = some next)
  -- A reader that reads does not need the lock, and one that announces needs
  -- nothing else, whoever waits for it.
  reading : ∀ thread ∈ attended.system.readers, thread.announcing = false → thread.stream ≠ [] →
    ∃ next, attended.act (.aside (.read thread.run thread.source)) = some next
  announcing : attended.system.lock = none → ∀ thread ∈ attended.system.readers,
    thread.announcing = true → ∃ next, attended.act (.aside (.announce thread.run)) = some next
  joining : attended.system.lock = none → ∀ teardown ∈ attended.system.teardowns,
    (∀ source ∈ teardown.awaited, attended.system.findReader teardown.run source = none) →
    ∃ next, attended.act (.aside (.teardown teardown.run)) = some next
  -- A callback that calls the supervisor needs nothing but the lock.
  entering : attended.system.lock = none → ∀ call, attended.observer = .waiting call →
    ∃ next, attended.act .enter = some next
  returning : attended.observer = .within → ∃ next, attended.act .settle = some next
  -- When the exit was reported, every stream ends and nothing goes on, all is over.
  resting : (∀ run, attended.system.core.run = some run → run.exited = true) →
    (∀ thread ∈ attended.system.readers, ∃ message ∈ thread.stream, message.isLast = true) →
    attended.Still → AtRest attended

theorem Attended.Still.not_moves (h : attended.Still) (hdeed : deed.isInternal = true) :
    ¬ ∃ next, attended.act deed = some next := by
  rintro ⟨next, hnext⟩
  simp [h deed hdeed] at hnext

namespace Attended.Sound

theorem read_moves (h : Sound config attended) (hmem : thread ∈ attended.system.readers)
    (htold : thread.announcing = false) (hstream : thread.stream ≠ []) :
    ∃ next, attended.act (.aside (.read thread.run thread.source)) = some next := by
  obtain ⟨after, hact⟩ := h.consistent.read_moves hmem htold hstream
  exact ⟨_, act_aside (by cases attended.observer <;> rfl) hact⟩

theorem announce_moves (h : Sound config attended) (hlock : attended.system.lock = none)
    (hmem : thread ∈ attended.system.readers) (htold : thread.announcing = true) :
    ∃ next, attended.act (.aside (.announce thread.run)) = some next := by
  obtain ⟨after, hact⟩ := h.consistent.announce_moves hlock hmem htold
  exact ⟨_, act_aside (by cases attended.observer <;> rfl) hact⟩

theorem teardown_moves (h : Sound config attended) (hlock : attended.system.lock = none)
    (hmem : teardown ∈ attended.system.teardowns)
    (hjoined : ∀ source ∈ teardown.awaited,
      attended.system.findReader teardown.run source = none) :
    ∃ next, attended.act (.aside (.teardown teardown.run)) = some next := by
  obtain ⟨after, hact⟩ := h.consistent.teardown_moves hlock hmem hjoined
  exact ⟨_, act_aside (by cases attended.observer <;> rfl) hact⟩

-- A supervisor that is still: first nobody has the lock, then nobody reads, and
-- then nobody is left who waits for readers.

theorem lock_of_still (h : Sound config attended) (hstill : attended.Still) :
    attended.system.lock = none := by
  refine Decidable.byContradiction fun hlock => ?_
  obtain ⟨action, next, hheld, hact⟩ := h.holder_moves hlock
  have hinternal : action.isInternal = true := by
    cases action <;> simp_all [Action.isInternal, Action.isHeld]
  rcases hact with hact | hact
  · exact @Still.not_moves _ (.aside action) hstill hinternal ⟨next, hact⟩
  · exact @Still.not_moves _ (.proceed action) hstill hinternal ⟨next, hact⟩

theorem readers_of_still (h : Sound config attended) (hstill : attended.Still)
    (hstreams : ∀ thread ∈ attended.system.readers,
      ∃ message ∈ thread.stream, message.isLast = true) : attended.system.readers = [] := by
  refine List.eq_nil_iff_forall_not_mem.mpr fun thread hmem => ?_
  cases htold : thread.announcing with
  | true => exact hstill.not_moves rfl (h.announce_moves (h.lock_of_still hstill) hmem htold)
  | false =>
      obtain ⟨message, hmessage, -⟩ := hstreams thread hmem
      exact hstill.not_moves rfl (h.read_moves hmem htold (List.ne_nil_of_mem hmessage))

theorem run_of_still (h : Sound config attended) (hstill : attended.Still)
    (hreaders : attended.system.readers = [])
    (hexited : ∀ run, attended.system.core.run = some run → run.exited = true) :
    attended.system.core.run = none := by
  cases hrun : attended.system.core.run with
  | none => rfl
  | some run =>
      obtain ⟨teardown, hmem⟩ := h.consistent.exists_teardown hrun (hexited run hrun)
      have hjoined : ∀ source ∈ teardown.awaited,
          attended.system.findReader teardown.run source = none := by
        simp [System.findReader, hreaders]
      exact (hstill.not_moves rfl (h.teardown_moves (h.lock_of_still hstill) hmem hjoined)).elim

theorem observer_of_still (h : Sound config attended) (hstill : attended.Still)
    (hrun : attended.system.core.run = none) : attended.observer = .away := by
  cases hposition : attended.observer with
  | away => rfl
  | within => exact (hstill.not_moves rfl (h.settle_moves hposition)).elim
  | waiting call =>
      exact (hstill.not_moves rfl (h.enter_moves hposition (h.lock_of_still hstill))).elim
  | spawning run =>
      have hwindow := h.spawning run hposition
      simp [(h.consistent.idle hrun).windows] at hwindow
  | holding => exact absurd (h.lock_of_still hstill) (h.holding hposition)

theorem delivered_of_still (h : Sound config attended) (hstill : attended.Still)
    (haway : attended.observer = .away) :
    attended.system.queue.handed = attended.system.queue.events := by
  have hidle : attended.system.queue.busy = false := by
    simpa [haway] using h.busy
  refine h.queue_sound.handed_of_idle hidle ?_
  cases hnext : attended.system.queue.deliver with
  | none => rfl
  | some queue => exact (hstill.not_moves rfl (deliver_moves haway hnext)).elim

theorem resting (h : Sound config attended)
    (hexited : ∀ run, attended.system.core.run = some run → run.exited = true)
    (hstreams : ∀ thread ∈ attended.system.readers,
      ∃ message ∈ thread.stream, message.isLast = true)
    (hstill : attended.Still) : AtRest attended := by
  have hrun := h.run_of_still hstill (h.readers_of_still hstill hstreams) hexited
  have haway := h.observer_of_still hstill hrun
  exact ⟨h.consistent.stopped_iff.mpr hrun, hrun, h.delivered_of_still hstill haway, haway⟩

end Attended.Sound

-- In every order of steps, with an observer that calls back as it likes.
theorem teardown_never_deadlocks (h : Attends config attended) : Unhindered attended where
  holding := h.sound.holder_moves
  reading := fun _ => h.sound.read_moves
  announcing := fun hlock _ => h.sound.announce_moves hlock
  joining := fun hlock _ => h.sound.teardown_moves hlock
  entering := fun hlock _ hwaiting => h.sound.enter_moves hwaiting hlock
  returning := h.sound.settle_moves
  resting := h.sound.resting

-- Between two runs nothing goes on but the handing over.
theorem Attended.still (hidle : Idle attended.system) (haway : attended.observer = .away)
    (hnone : attended.system.queue.deliver = none) : attended.Still := by
  intro deed hdeed
  have hblocked : ∀ action : Action, action.isInternal = true →
      attended.system.act? action = none := by
    intro action haction
    cases action <;>
      simp_all [Action.isInternal, Action.isHeld, System.act?, System.act, System.onRead,
        System.onAnnounce, System.onTeardown, System.onWatch, System.onTakePending,
        System.onConclude, System.findReader, System.isFree, hidle.lock, hidle.readers,
        hidle.teardowns]
  cases deed with
  | aside action | proceed action => simp [act, hblocked action hdeed]
  | deliver => simp [act, System.act?, System.act, System.onDeliver, hnone]
  | call => cases hdeed
  | enter | settle => simp [act, haway]

-- The observer asks for an end in the callback for the first line, while a
-- reader is about to announce and the thread that ends the run waits for it.
def crossing : List Deed :=
  List.map .aside ([.start] ++ installing 1 ⟨7, true, false⟩) ++
    [.deliver, .aside (.send 1 .stdout (.data [79, 75, 10])), .aside (.read 1 .stdout),
      .aside (.report 1 .unknown), .call (.request .force)]

def crossed : List Deed :=
  [.enter, .proceed (.conclude (.ok ())), .aside (.announce 1), .aside (.send 1 .stdout .closed),
    .aside (.read 1 .stdout), .aside (.teardown 1), .settle] ++
    (List.replicate 5 [.deliver, .settle]).flatten

theorem teardown_never_deadlocks_of_crossing :
    ∃ amid final : Attended, Attends ⟨"OK", 8, 4⟩ amid ∧ Attends ⟨"OK", 8, 4⟩ final ∧
      amid.observer = .waiting (.request .force) ∧ amid.system.readers.any ReaderThread.announcing = true ∧
      amid.system.teardowns = [⟨1, .unknown, [.stdout]⟩] ∧ Unhindered amid ∧
      final.Still ∧ AtRest final := by
  obtain ⟨amid, final, hamid, hfinal, hwaiting, hannouncing, hteardowns, hrun, haway, hnone⟩ :
      ∃ amid final : Attended,
        (⟨System.new ⟨"OK", 8, 4⟩, .away⟩ : Attended).actAll crossing = some amid ∧
        amid.actAll crossed = some final ∧ amid.observer = .waiting (.request .force) ∧
        amid.system.readers.any ReaderThread.announcing = true ∧
        amid.system.teardowns = [⟨1, .unknown, [.stdout]⟩] ∧ final.system.core.run = none ∧
        final.observer = .away ∧ final.system.queue.deliver = none :=
    ⟨_, _, rfl, rfl, rfl, by decide, rfl, rfl, rfl, rfl⟩
  have hfirst := Attends.initial.of_actAll hamid
  have hlast := hfirst.of_actAll hfinal
  have hidle := hlast.sound.consistent.idle hrun
  have hstill : final.Still := Attended.still hidle haway hnone
  exact ⟨amid, final, hfirst, hlast, hwaiting, hannouncing, hteardowns,
    teardown_never_deadlocks hfirst, hstill,
    (teardown_never_deadlocks hlast).resting (by simp [hrun]) (by simp [hidle.readers]) hstill⟩

end Overseer.Supervisor
