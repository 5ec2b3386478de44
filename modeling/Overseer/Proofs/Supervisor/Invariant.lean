import Overseer.Proofs.Output.Decoding
import Overseer.Proofs.Supervisor.Transition

namespace Overseer.Supervisor

open Overseer.Output

-- What holds of a supervisor in every state that an execution can reach, also
-- while its lock is held. A run is idle, being spawned, or attached to its
-- process, and each of the three says which threads can be there.

structure ReaderThread.Fits (run : Run) (handle : Handle) (thread : ReaderThread) : Prop where
  owner : thread.run = run.id
  provided : thread.source ∈ handle.streams
  -- Only standard output is looked through, and only until the marker is seen.
  plain : thread.source ≠ .stdout → thread.reader.scanner = none
  told : thread.announcing = true → thread.source = .stdout ∧ thread.reader.scanner = none

structure Idle (system : System) : Prop where
  state : system.core.state = .stopped
  lock : system.lock = none
  windows : system.windows = []
  readers : system.readers = []
  reportable : system.reportable = []
  teardowns : system.teardowns = []

structure Spawning (system : System) (run : Run) : Prop where
  state : system.core.state = .starting
  exited : run.exited = false
  joined : run.readers = []
  lock : system.lock = none
  windows : system.windows = [run.id]
  readers : system.readers = []
  reportable : system.reportable = []
  teardowns : system.teardowns = []

-- What the holder of the lock relies on, and what it restores before it lets
-- go.
def Held (system : System) (run : Run) (handle : Handle) : Prop :=
  match system.lock with
  | none => system.core.state ≠ .stopped ∧ run.pending = none
  | some (.attaching id unread) =>
      id = run.id ∧ system.core.state = .starting ∧ run.exited = false ∧
        ∃ opened, handle.streams = opened ++ unread ∧ ∀ source ∈ run.readers, source ∈ opened
  | some (.signalling id _) =>
      id = run.id ∧ system.core.state = .stopping ∧ run.pending = none

structure Attached (system : System) (run : Run) (handle : Handle) : Prop where
  held : Held system run handle
  windows : system.windows = []
  reportable : system.reportable = if run.exited then [] else [run.id]
  teardowns : system.teardowns.map Teardown.run = if run.exited then [run.id] else []
  fits : ∀ thread ∈ system.readers, thread.Fits run handle
  distinct : (system.readers.map ReaderThread.source).Nodup
  -- Whoever reads is waited for, by the run or by the thread that ends it.
  awaited : ∀ thread ∈ system.readers,
    thread.source ∈ run.readers ++ system.teardowns.flatMap Teardown.awaited
  handedOver : run.exited = true → run.readers = []
  -- A run that is ready has no reader left that could make it ready.
  settled : system.core.state = .running →
    ∀ thread ∈ system.readers, thread.reader.scanner = none ∧ thread.announcing = false

-- Once the end of the queue is marked there is no run to put anything in.
structure Shut (system : System) : Prop where
  released : ∀ inside reached, system.closing = .waiting inside (.returned reached) →
    system.core.run = none
  closed : system.closing = .closed → system.core.run = none
  marked : Item.shutdown ∈ system.queue.items → system.closing = .closed
  ended : system.queue.ended = true → system.closing = .closed

structure Consistent (system : System) : Prop where
  current : ∀ run, system.core.run = some run → run.id = system.core.lastRun
  idle : system.core.run = none → Idle system
  spawning : ∀ run, system.core.run = some run → run.handle = none → Spawning system run
  attached : ∀ run handle, system.core.run = some run → run.handle = some handle →
    Attached system run handle
  shut : Shut system

theorem Handle.nodup_streams (handle : Handle) : handle.streams.Nodup := by
  unfold streams
  split <;> split <;> decide

variable {system after : System} {run : Run} {handle : Handle}

namespace Consistent

theorem initial (config : Config) : Consistent (System.new config) where
  current := by simp [System.new, Core.initial]
  idle := fun _ => ⟨rfl, rfl, rfl, rfl, rfl, rfl⟩
  spawning := by simp [System.new, Core.initial]
  attached := by simp [System.new, Core.initial]
  shut := by
    refine ⟨?_, ?_, ?_, ?_⟩ <;> simp [System.new, Queue.empty]

-- A start call between its parts has its run to itself.
theorem window (h : Consistent system) {id : Nat} (hid : id ∈ system.windows) :
    ∃ run, system.core.run = some run ∧ run.handle = none ∧ run.id = id := by
  cases hrun : system.core.run with
  | none => simp [(h.idle hrun).windows] at hid
  | some run =>
      cases hhandle : run.handle with
      | none =>
          rw [(h.spawning run hrun hhandle).windows, List.mem_singleton] at hid
          exact ⟨run, rfl, hhandle, hid.symm⟩
      | some handle => simp [(h.attached run handle hrun hhandle).windows] at hid

theorem stopped_iff (h : Consistent system) :
    system.core.state = .stopped ↔ system.core.run = none := by
  constructor
  · intro hstopped
    cases hrun : system.core.run with
    | none => rfl
    | some run =>
        cases hhandle : run.handle with
        | none => simp [(h.spawning run hrun hhandle).state] at hstopped
        | some handle =>
            have hheld := (h.attached run handle hrun hhandle).held
            unfold Held at hheld
            split at hheld <;> simp_all
  · exact fun hrun => (h.idle hrun).state

-- Whoever holds the lock works for a run that has its process.
theorem lock_owner (h : Consistent system) (hlock : system.lock ≠ none) :
    ∃ run handle, system.core.run = some run ∧ run.handle = some handle ∧
      Attached system run handle := by
  cases hrun : system.core.run with
  | none => exact absurd (h.idle hrun).lock hlock
  | some run =>
      cases hhandle : run.handle with
      | none => exact absurd (h.spawning run hrun hhandle).lock hlock
      | some handle => exact ⟨run, handle, rfl, hhandle, h.attached run handle hrun hhandle⟩

theorem reader_owner (h : Consistent system) {thread : ReaderThread}
    (hthread : thread ∈ system.readers) :
    ∃ run handle, system.core.run = some run ∧ run.handle = some handle ∧
      Attached system run handle := by
  cases hrun : system.core.run with
  | none => simp [(h.idle hrun).readers] at hthread
  | some run =>
      cases hhandle : run.handle with
      | none => simp [(h.spawning run hrun hhandle).readers] at hthread
      | some handle => exact ⟨run, handle, rfl, hhandle, h.attached run handle hrun hhandle⟩

theorem teardown_owner (h : Consistent system) {teardown : Teardown}
    (hteardown : teardown ∈ system.teardowns) :
    ∃ run handle, system.core.run = some run ∧ run.handle = some handle ∧
      run.exited = true ∧ teardown.run = run.id ∧ Attached system run handle := by
  cases hrun : system.core.run with
  | none => simp [(h.idle hrun).teardowns] at hteardown
  | some run =>
      cases hhandle : run.handle with
      | none => simp [(h.spawning run hrun hhandle).teardowns] at hteardown
      | some handle =>
          have hattached := h.attached run handle hrun hhandle
          have hmem := List.mem_map_of_mem (f := Teardown.run) hteardown
          rw [hattached.teardowns] at hmem
          cases hexited : run.exited with
          | false => simp [hexited] at hmem
          | true =>
              exact ⟨run, handle, rfl, hhandle, hexited, by simpa [hexited] using hmem, hattached⟩

-- No more than one thread ends a run.
theorem teardowns_eq (h : Consistent system) {teardown : Teardown}
    (hteardown : teardown ∈ system.teardowns) : system.teardowns = [teardown] := by
  obtain ⟨run, handle, -, -, hexited, -, hattached⟩ := h.teardown_owner hteardown
  have hlength := congrArg List.length hattached.teardowns
  simp only [hexited, if_true, List.length_map] at hlength
  obtain ⟨only, honly⟩ := List.length_eq_one_iff.mp hlength
  rw [honly, List.mem_singleton] at hteardown
  rw [honly, hteardown]

-- While the process is being attached nobody else waits for its readers.
theorem attaching (h : Consistent system) {id : Nat} {unread : List Source}
    (hlock : system.lock = some (.attaching id unread)) :
    ∃ run handle, system.core.run = some run ∧ run.handle = some handle ∧ run.id = id ∧
      system.core.state = .starting ∧ run.exited = false ∧ system.teardowns = [] ∧
      Attached system run handle ∧
      ∃ opened, handle.streams = opened ++ unread ∧ ∀ source ∈ run.readers, source ∈ opened := by
  obtain ⟨run, handle, hrun, hhandle, hattached⟩ := h.lock_owner (by simp [hlock])
  have hheld := hattached.held
  simp only [Held, hlock] at hheld
  obtain ⟨rfl, hstate, hexited, hopened⟩ := hheld
  have hteardowns : system.teardowns = [] := by simpa [hexited] using hattached.teardowns
  exact ⟨run, handle, hrun, hhandle, rfl, hstate, hexited, hteardowns, hattached, hopened⟩

-- A stream whose turn has not come is not read.
theorem source_ne_of_unread (h : Consistent system) {id : Nat} {unread : List Source}
    (hlock : system.lock = some (.attaching id unread)) {source : Source}
    (hsource : source ∈ unread) : ∀ thread ∈ system.readers, thread.source ≠ source := by
  obtain ⟨run, handle, -, -, -, -, -, hteardowns, hattached, opened, hstreams, hopened⟩ :=
    h.attaching hlock
  rintro thread hthread rfl
  have hjoined : thread.source ∈ run.readers := by
    simpa [hteardowns] using hattached.awaited thread hthread
  have hnodup := handle.nodup_streams
  rw [hstreams] at hnodup
  exact (List.nodup_append.mp hnodup).2.2 _ (hopened _ hjoined) _ hsource rfl

-- An exit is reported once, and by then nobody waits for the readers yet.
theorem reportable_owner (h : Consistent system) {id : Nat}
    (hreport : id ∈ system.reportable) :
    ∃ run handle, system.core.run = some run ∧ run.handle = some handle ∧ run.id = id ∧
      run.exited = false ∧ system.teardowns = [] ∧ Attached system run handle := by
  cases hrun : system.core.run with
  | none => simp [(h.idle hrun).reportable] at hreport
  | some run =>
      cases hhandle : run.handle with
      | none => simp [(h.spawning run hrun hhandle).reportable] at hreport
      | some handle =>
          have hattached := h.attached run handle hrun hhandle
          have hteardowns := hattached.teardowns
          rw [hattached.reportable] at hreport
          cases hexited : run.exited with
          | true => simp [hexited] at hreport
          | false =>
              exact ⟨run, handle, rfl, hhandle, by simpa [hexited, eq_comm] using hreport,
                hexited, by simpa [hexited] using hteardowns, hattached⟩

-- When the readers that are waited for have ended, no reader is left.
theorem joined (h : Consistent system) {id : Nat} {teardown : Teardown}
    (hfind : system.teardowns.find? (fun teardown => teardown.run = id) = some teardown)
    (hjoined : ∀ source ∈ teardown.awaited, system.findReader id source = none) :
    ∃ run handle, system.core.run = some run ∧ run.handle = some handle ∧ run.id = id ∧
      run.exited = true ∧ system.teardowns = [teardown] ∧ system.readers = [] ∧
      Attached system run handle := by
  obtain ⟨run, handle, hrun, hhandle, hexited, howner, hattached⟩ :=
    h.teardown_owner (List.mem_of_find?_eq_some hfind)
  have hid : teardown.run = id := by simpa using List.find?_some hfind
  have hteardowns := h.teardowns_eq (List.mem_of_find?_eq_some hfind)
  refine ⟨run, handle, hrun, hhandle, howner.symm.trans hid, hexited, hteardowns, ?_, hattached⟩
  refine List.eq_nil_iff_forall_not_mem.mpr fun thread hthread => ?_
  have hawaited : thread.source ∈ teardown.awaited := by
    simpa [hattached.handedOver hexited, hteardowns] using hattached.awaited thread hthread
  have hnone := List.find?_eq_none.mp (hjoined _ hawaited) thread hthread
  have hthreadRun := (hattached.fits thread hthread).owner
  simp [hthreadRun, ← howner, hid] at hnone

end Consistent

-- The table of readers.

theorem System.findReader_eq_some {id : Nat} {source : Source} {thread : ReaderThread}
    (h : system.findReader id source = some thread) :
    thread ∈ system.readers ∧ thread.run = id ∧ thread.source = source := by
  have hmem := List.mem_of_find?_eq_some h
  have hkey := List.find?_some h
  simp only [Bool.and_eq_true, decide_eq_true_eq] at hkey
  exact ⟨hmem, hkey⟩

theorem System.mem_setReader {changed thread : ReaderThread}
    (h : thread ∈ (system.setReader changed).readers) :
    thread = changed ∨
      thread ∈ system.readers ∧ ¬(thread.run = changed.run ∧ thread.source = changed.source) := by
  obtain ⟨old, hold, rfl⟩ := List.mem_map.mp h
  by_cases hkey : old.run = changed.run ∧ old.source = changed.source
  · exact .inl (by simp [hkey])
  · exact .inr (by simpa [hkey] using hold)

theorem System.map_source_setReader (changed : ReaderThread) :
    (system.setReader changed).readers.map ReaderThread.source =
      system.readers.map ReaderThread.source := by
  simp only [setReader, List.map_map]
  refine List.map_congr_left fun thread _ => ?_
  by_cases hkey : thread.run = changed.run ∧ thread.source = changed.source
  · simp [hkey]
  · simp [hkey]

theorem System.mem_endReader {id : Nat} {source : Source} {thread : ReaderThread}
    (h : thread ∈ (system.endReader id source).readers) : thread ∈ system.readers :=
  (List.mem_filter.mp h).1

namespace Attached

-- A run only looks at the lock, the core and the threads.
theorem congr (h : Attached system run handle) (hcore : after.core = system.core)
    (hlock : after.lock = system.lock) (hwindows : after.windows = system.windows)
    (hreaders : after.readers = system.readers)
    (hreportable : after.reportable = system.reportable)
    (hteardowns : after.teardowns = system.teardowns) : Attached after run handle where
  held := by simpa only [Held, hlock, hcore] using h.held
  windows := hwindows.trans h.windows
  reportable := hreportable.trans h.reportable
  teardowns := by rw [hteardowns]; exact h.teardowns
  fits := by rw [hreaders]; exact h.fits
  distinct := by rw [hreaders]; exact h.distinct
  awaited := by rw [hreaders, hteardowns]; exact h.awaited
  handedOver := h.handedOver
  settled := by rw [hreaders, hcore]; exact h.settled

-- A reader moves on within its stream.
theorem setReader (h : Attached system run handle) {id : Nat} {source : Source}
    {thread changed : ReaderThread} (hfind : system.findReader id source = some thread)
    (hrun : changed.run = thread.run) (hsource : changed.source = thread.source)
    (hscanner : thread.reader.scanner = none → changed.reader.scanner = none)
    (htold : changed.announcing = true →
      changed.source = .stdout ∧ changed.reader.scanner = none)
    (hquiet : thread.reader.scanner = none → thread.announcing = false →
      changed.announcing = false) :
    Attached (system.setReader changed) run handle := by
  obtain ⟨hmem, -, -⟩ := System.findReader_eq_some hfind
  have hfits := h.fits thread hmem
  refine ⟨h.held, h.windows, h.reportable, h.teardowns, ?_, ?_, ?_, h.handedOver, ?_⟩
  · intro other hother
    rcases System.mem_setReader hother with rfl | ⟨hother, -⟩
    · exact ⟨hrun.trans hfits.owner, hsource ▸ hfits.provided,
        fun hplain => hscanner (hfits.plain (hsource ▸ hplain)), htold⟩
    · exact h.fits other hother
  · rw [System.map_source_setReader]
    exact h.distinct
  · intro other hother
    rcases System.mem_setReader hother with rfl | ⟨hother, -⟩
    · rw [hsource]
      exact h.awaited thread hmem
    · exact h.awaited other hother
  · intro hrunning other hother
    rcases System.mem_setReader hother with rfl | ⟨hother, -⟩
    · obtain ⟨hnone, hidle⟩ := h.settled hrunning thread hmem
      exact ⟨hscanner hnone, hquiet hnone hidle⟩
    · exact h.settled hrunning other hother

theorem endReader (h : Attached system run handle) (id : Nat) (source : Source) :
    Attached (system.endReader id source) run handle where
  held := h.held
  windows := h.windows
  reportable := h.reportable
  teardowns := h.teardowns
  fits := fun thread hthread => h.fits thread (System.mem_endReader hthread)
  distinct := (List.filter_sublist.map ReaderThread.source).nodup h.distinct
  awaited := fun thread hthread => h.awaited thread (System.mem_endReader hthread)
  handedOver := h.handedOver
  settled := fun hrunning thread hthread => h.settled hrunning thread (System.mem_endReader hthread)

end Attached

-- The queue between a run and the end mark.

namespace Queue

-- Whatever is put in a queue, only its items change.
theorem exists_put (queue : Queue) (item : Item) :
    ∃ items, queue.put item = { queue with items := items } := by
  unfold put
  split
  · exact ⟨queue.items, rfl⟩
  · exact ⟨_, rfl⟩

theorem exists_putAll (queue : Queue) (events : List Event) :
    ∃ items, queue.putAll events = { queue with items := items } := by
  induction events generalizing queue with
  | nil => exact ⟨queue.items, rfl⟩
  | cons event events ih =>
      obtain ⟨first, hfirst⟩ := queue.exists_put (.event event)
      obtain ⟨items, hitems⟩ := ih { queue with items := first }
      have hstep : queue.putAll (event :: events) = (queue.put (.event event)).putAll events := rfl
      exact ⟨items, by rw [hstep, hfirst, hitems]⟩

theorem ended_putAll (queue : Queue) (events : List Event) :
    (queue.putAll events).ended = queue.ended := by
  obtain ⟨items, hitems⟩ := queue.exists_putAll events
  rw [hitems]

theorem shutdown_mem_putAll {queue : Queue} {events : List Event}
    (h : Item.shutdown ∈ (queue.putAll events).items) : Item.shutdown ∈ queue.items := by
  induction events generalizing queue with
  | nil => exact h
  | cons event events ih =>
      have hmem : Item.shutdown ∈ (queue.put (.event event)).items := ih h
      unfold put at hmem
      split at hmem
      · exact hmem
      · simpa using hmem

end Queue

theorem System.wake_eq_returned {phase : WaitPhase} {reached : Bool}
    (h : System.wake phase = .returned reached) : phase = .returned reached := by
  cases phase <;> simp_all [System.wake]

namespace Shut

-- Work on a run leaves the disposal where it is, but for waking it.
theorem work (h : Shut system) (events : List Event)
    (hrun : system.core.run = none → after.core.run = none)
    (hclosing : after.closing = system.closing ∨ after.closing = system.notifyAll.closing)
    (hqueue : after.queue = system.queue.putAll events) : Shut after := by
  have hback : (∀ inside reached, after.closing = .waiting inside (.returned reached) →
      system.closing = .waiting inside (.returned reached)) ∧
      (after.closing = .closed ↔ system.closing = .closed) := by
    rcases hclosing with hclosing | hclosing
    · simp [hclosing]
    · rw [hclosing]
      cases hsystem : system.closing with
      | waiting inside phase =>
          simp only [System.notifyAll, hsystem, Closing.waiting.injEq, reduceCtorEq, iff_self,
            and_true]
          rintro inside' reached ⟨rfl, hphase⟩
          exact ⟨rfl, System.wake_eq_returned hphase⟩
      | _ => simp [System.notifyAll, hsystem]
  obtain ⟨hreturned, hclosed⟩ := hback
  refine ⟨fun inside reached hafter => hrun (h.released inside reached (hreturned _ _ hafter)),
    fun hafter => hrun (h.closed (hclosed.mp hafter)), fun hafter => ?_, fun hafter => ?_⟩
  · rw [hqueue] at hafter
    exact hclosed.mpr (h.marked (Queue.shutdown_mem_putAll hafter))
  · rw [hqueue, Queue.ended_putAll] at hafter
    exact hclosed.mpr (h.ended hafter)

-- Until the disposal is over nothing is marked.
theorem of_not_closed (h : Shut system) (hbefore : system.closing ≠ .closed)
    (hclosing : after.closing ≠ .closed)
    (hphase : ∀ inside reached, after.closing = .waiting inside (.returned reached) →
      after.core.run = none)
    (hqueue : after.queue = system.queue) : Shut after where
  released := hphase
  closed := fun hafter => absurd hafter hclosing
  marked := fun hafter => absurd (h.marked (hqueue ▸ hafter)) hbefore
  ended := fun hafter => absurd (h.ended (hqueue ▸ hafter)) hbefore

end Shut

end Overseer.Supervisor
