import Overseer.Proofs.Supervisor.Invariant

namespace Overseer.Supervisor

open Overseer.Output

-- Every step keeps the invariant: one lemma for each operation, by what it does
-- to the run that is there.

variable {system after : System} {run : Run} {handle : Handle}

namespace Consistent

-- What happens in the queue, to waiting callers and to the disposal does not
-- concern the run.
theorem congr (h : Consistent system) (hcore : after.core = system.core)
    (hlock : after.lock = system.lock) (hwindows : after.windows = system.windows)
    (hreaders : after.readers = system.readers)
    (hreportable : after.reportable = system.reportable)
    (hteardowns : after.teardowns = system.teardowns) (hshut : Shut after) :
    Consistent after where
  current := by rw [hcore]; exact h.current
  idle := by
    rw [hcore]
    intro hrun
    have hidle := h.idle hrun
    exact ⟨hcore ▸ hidle.state, hlock.trans hidle.lock, hwindows.trans hidle.windows,
      hreaders.trans hidle.readers, hreportable.trans hidle.reportable,
      hteardowns.trans hidle.teardowns⟩
  spawning := by
    rw [hcore]
    intro run hrun hhandle
    have hspawning := h.spawning run hrun hhandle
    exact ⟨hcore ▸ hspawning.state, hspawning.exited, hspawning.joined,
      hlock.trans hspawning.lock, hwindows.trans hspawning.windows,
      hreaders.trans hspawning.readers, hreportable.trans hspawning.reportable,
      hteardowns.trans hspawning.teardowns⟩
  attached := by
    rw [hcore]
    intro run handle hrun hhandle
    exact (h.attached run handle hrun hhandle).congr hcore hlock hwindows hreaders hreportable
      hteardowns
  shut := hshut

-- A run that has its process is all there is to look at.
theorem of_attached (run : Run) (hrun : after.core.run = some run) (hhandle : run.handle = some handle)
    (hcurrent : run.id = after.core.lastRun) (hattached : Attached after run handle)
    (hshut : Shut after) : Consistent after where
  current := by
    intro other hother
    obtain rfl : run = other := by simpa [hrun] using hother
    exact hcurrent
  idle := by simp [hrun]
  spawning := by
    intro other hother hnone
    obtain rfl : run = other := by simpa [hrun] using hother
    simp [hhandle] at hnone
  attached := by
    intro other handle' hother hhandle'
    obtain rfl : run = other := by simpa [hrun] using hother
    obtain rfl : handle = handle' := by simpa [hhandle] using hhandle'
    exact hattached
  shut := hshut

theorem of_idle (hrun : after.core.run = none) (hidle : Idle after) (hshut : Shut after) :
    Consistent after where
  current := by simp [hrun]
  idle := fun _ => hidle
  spawning := by simp [hrun]
  attached := by simp [hrun]
  shut := hshut

theorem of_spawning (hrun : after.core.run = some run) (hhandle : run.handle = none)
    (hcurrent : run.id = after.core.lastRun) (hspawning : Spawning after run)
    (hshut : Shut after) : Consistent after where
  current := by
    intro other hother
    obtain rfl : run = other := by simpa [hrun] using hother
    exact hcurrent
  idle := by simp [hrun]
  spawning := by
    intro other hother _
    obtain rfl : run = other := by simpa [hrun] using hother
    exact hspawning
  attached := by
    intro other handle hother hsome
    obtain rfl : run = other := by simpa [hrun] using hother
    simp [hhandle] at hsome
  shut := hshut

-- A request is answered by the run that is there.
theorem requesting (h : Consistent system) {signal : Signal}
    (hstep : Requesting system signal after) : Consistent after := by
  cases hstep with
  | ignored => exact h
  | @recorded run hlock hrun hhandle hactive hnew =>
      have hspawning := h.spawning run hrun hhandle
      refine of_spawning rfl hhandle (h.current run hrun) ?_ ?_
      · exact ⟨hspawning.state, hspawning.exited, hspawning.joined, hspawning.lock,
          hspawning.windows, hspawning.readers, hspawning.reportable, hspawning.teardowns⟩
      · exact h.shut.work [] (by simp [hrun]) (.inl rfl) rfl
  | @entered run handle hlock hrun hhandle hstate =>
      have hattached := h.attached run handle hrun hhandle
      have hpending : run.pending = none := by
        have hheld := hattached.held
        simp only [Held, hlock] at hheld
        exact hheld.2
      refine of_attached run hrun hhandle (h.current run hrun) ?_ ?_
      · exact ⟨⟨rfl, rfl, hpending⟩, hattached.windows, hattached.reportable,
          hattached.teardowns, hattached.fits, hattached.distinct, hattached.awaited,
          hattached.handedOver, fun hrunning => by cases hrunning⟩
      · exact h.shut.work [.stateChanged .stopping] (by simp [hrun]) (.inr rfl) rfl
  | @repeated run handle hlock hrun hhandle hstate hforce =>
      have hattached := h.attached run handle hrun hhandle
      have hpending : run.pending = none := by
        have hheld := hattached.held
        simp only [Held, hlock] at hheld
        exact hheld.2
      refine of_attached run hrun hhandle (h.current run hrun) ?_ ?_
      · exact ⟨⟨rfl, hstate, hpending⟩, hattached.windows, hattached.reportable,
          hattached.teardowns, hattached.fits, hattached.distinct, hattached.awaited,
          hattached.handedOver, hattached.settled⟩
      · exact h.shut.work [] (by simp [hrun]) (.inl rfl) rfl

-- A new reader joins those that were created before it, if it can have its
-- buffer.
theorem watched (h : Consistent system) {id : Nat} {source : Source} {rest : List Source}
    (hlock : system.lock = some (.attaching id (source :: rest))) :
    Consistent
      { system with
        lock := some (.attaching id rest)
        core := system.core.addReader source
        readers :=
          if System.hasBuffer system.config then
            system.readers ++ [System.newReader system.config id source]
          else system.readers } := by
  obtain ⟨run, handle, hrun, hhandle, rfl, hstate, hexited, hteardowns, hattached, opened,
    hstreams, hopened⟩ := h.attaching hlock
  have hjoined : ∀ thread ∈ system.readers, thread.source ∈ run.readers := by
    intro thread hthread
    simpa [hteardowns] using hattached.awaited thread hthread
  have hfresh := h.source_ne_of_unread hlock List.mem_cons_self
  have hthreads : ∀ thread, thread ∈ (if System.hasBuffer system.config then
      system.readers ++ [System.newReader system.config run.id source] else system.readers) →
      thread ∈ system.readers ∨ thread = System.newReader system.config run.id source := by
    intro thread hthread
    split at hthread
    · simpa using hthread
    · exact .inl hthread
  refine of_attached { run with readers := run.readers ++ [source] }
    (by simp [Core.addReader, hrun]) hhandle (h.current run hrun) ?_ ?_
  · refine ⟨⟨rfl, hstate, hexited, opened ++ [source], by simp [hstreams], ?_⟩,
      hattached.windows, hattached.reportable, hattached.teardowns, ?_, ?_, ?_, ?_, ?_⟩
    · intro other hother
      rcases List.mem_append.mp hother with hother | hother
      · exact List.mem_append_left _ (hopened other hother)
      · exact List.mem_append_right _ hother
    · intro thread hthread
      rcases hthreads thread hthread with hthread | rfl
      · obtain ⟨howner, hprovided, hplain, htold⟩ := hattached.fits thread hthread
        exact ⟨howner, hprovided, hplain, htold⟩
      · refine ⟨rfl, by simp [System.newReader, hstreams], ?_, by simp [System.newReader]⟩
        intro hplain
        have hsource : source ≠ .stdout := hplain
        simp [System.newReader, hsource, Reader.plain]
    · dsimp only
      split
      · simpa [System.newReader, List.nodup_append] using
          ⟨hattached.distinct, fun thread hthread heq =>
            hfresh thread hthread heq⟩
      · exact hattached.distinct
    · intro thread hthread
      rcases hthreads thread hthread with hthread | rfl
      · simp [hjoined thread hthread]
      · simp [System.newReader]
    · intro hgone
      simp [hexited] at hgone
    · intro hrunning
      simp [Core.addReader, hstate] at hrunning
  · exact h.shut.work [] (by simp [hrun]) (.inl rfl) rfl

theorem unwatched (h : Consistent system) {id : Nat} {source : Source} {rest : List Source}
    (hlock : system.lock = some (.attaching id (source :: rest))) (events : List Event) :
    Consistent
      ({ system with lock := some (.attaching id rest), core := system.core.missReader }.put
        events) := by
  obtain ⟨run, handle, hrun, hhandle, rfl, hstate, hexited, -, hattached, opened, hstreams,
    hopened⟩ := h.attaching hlock
  refine of_attached { run with pending := some (Core.strengthen run.pending .graceful) }
    (by simp [System.put, Core.missReader, hrun]) hhandle (h.current run hrun) ?_ ?_
  · refine ⟨⟨rfl, hstate, hexited, opened ++ [source], by simp [hstreams], ?_⟩,
      hattached.windows, hattached.reportable, hattached.teardowns, ?_, hattached.distinct,
      hattached.awaited, hattached.handedOver, hattached.settled⟩
    · exact fun other hother => List.mem_append_left _ (hopened other hother)
    · intro thread hthread
      obtain ⟨howner, hprovided, hplain, htold⟩ := hattached.fits thread hthread
      exact ⟨howner, hprovided, hplain, htold⟩
  · exact h.shut.work _ (by simp [hrun]) (.inl rfl) rfl

-- The start call lets go of the lock, with or without a request to send.
theorem takePending (h : Consistent system) (hstep : Transition system .takePending after) :
    Consistent after := by
  cases hstep with
  | @letGo id hlock htake =>
      obtain ⟨run, handle, hrun, hhandle, rfl, hstate, -, -, hattached, -⟩ := h.attaching hlock
      have hpending : run.pending = none := by
        cases hpending : run.pending with
        | none => rfl
        | some signal => simp [Core.takePending, hrun, hpending] at htake
      refine of_attached run hrun hhandle (h.current run hrun) ?_ ?_
      · exact ⟨⟨by simp [hstate], hpending⟩, hattached.windows, hattached.reportable,
          hattached.teardowns, hattached.fits, hattached.distinct, hattached.awaited,
          hattached.handedOver, hattached.settled⟩
      · exact h.shut.work [] (by simp [hrun]) (.inl rfl) rfl
  | @takenUp id run signal hlock hrun hpending =>
      obtain ⟨other, handle, hother, hhandle, rfl, hstate, -, -, hattached, -⟩ :=
        h.attaching hlock
      obtain rfl : run = other := by simpa [hrun] using hother
      refine of_attached { run with pending := none } rfl hhandle (h.current run hrun)
        ?_ ?_
      · refine ⟨⟨rfl, rfl, rfl⟩, hattached.windows, hattached.reportable, hattached.teardowns,
          ?_, hattached.distinct, hattached.awaited,
          hattached.handedOver, fun hrunning => by cases hrunning⟩
        intro thread hthread
        obtain ⟨howner, hprovided, hplain, htold⟩ := hattached.fits thread hthread
        exact ⟨howner, hprovided, hplain, htold⟩
      · exact h.shut.work [.stateChanged .stopping] (by simp [hrun]) (.inr rfl) rfl

theorem concluded (h : Consistent system) {id : Nat} {signal : Signal}
    (hlock : system.lock = some (.signalling id signal)) (events : List Event) :
    Consistent { system.put events with lock := none } := by
  obtain ⟨run, handle, hrun, hhandle, hattached⟩ := h.lock_owner (by simp [hlock])
  have hheld := hattached.held
  simp only [Held, hlock] at hheld
  obtain ⟨-, hstate, hpending⟩ := hheld
  refine of_attached run hrun hhandle (h.current run hrun) ?_ ?_
  · exact ⟨⟨by simp [System.put, hstate], hpending⟩, hattached.windows, hattached.reportable,
      hattached.teardowns, hattached.fits, hattached.distinct, hattached.awaited,
      hattached.handedOver, hattached.settled⟩
  · exact h.shut.work _ (by simp [hrun]) (.inl rfl) rfl

-- A reader moves on and may have something to tell.
theorem setReader (h : Consistent system) {id : Nat} {source : Source}
    {thread changed : ReaderThread} (hfind : system.findReader id source = some thread)
    (events : List Event) (hrun : changed.run = thread.run)
    (hsource : changed.source = thread.source)
    (hscanner : thread.reader.scanner = none → changed.reader.scanner = none)
    (htold : changed.announcing = true →
      changed.source = .stdout ∧ changed.reader.scanner = none)
    (hquiet : thread.reader.scanner = none → thread.announcing = false →
      changed.announcing = false) :
    Consistent ((system.put events).setReader changed) := by
  obtain ⟨run, handle, howner, hhandle, hattached⟩ :=
    h.reader_owner (System.findReader_eq_some hfind).1
  have hput : Attached (system.put events) run handle :=
    hattached.congr rfl rfl rfl rfl rfl rfl
  refine of_attached run howner hhandle (h.current run howner) ?_ ?_
  · exact hput.setReader hfind hrun hsource hscanner htold hquiet
  · exact h.shut.work _ (by simp [howner]) (.inl rfl) rfl

theorem read (h : Consistent system) {id : Nat} {source : Source}
    (hstep : Transition system (.read id source) after) : Consistent after := by
  cases hstep with
  | @readAgain _ _ thread rest hfind hidle hread =>
      exact h.setReader hfind [] rfl rfl (fun hplain => hplain) (by simp [hidle])
        (fun _ hold => hold)
  | @readEnd _ _ thread rest hfind hidle hread =>
      obtain ⟨run, handle, hrun, hhandle, hattached⟩ :=
        h.reader_owner (System.findReader_eq_some hfind).1
      have hput : Attached (system.put (System.outputEvent source thread.reader.flush)) run
          handle := hattached.congr rfl rfl rfl rfl rfl rfl
      refine of_attached run hrun hhandle (h.current run hrun) (hput.endReader _ _) ?_
      exact h.shut.work _ (by simp [hrun]) (.inl rfl) rfl
  | @readChunk _ _ thread bytes rest hfind hidle hread =>
      obtain ⟨run, handle, hrun, hhandle, hattached⟩ :=
        h.reader_owner (System.findReader_eq_some hfind).1
      have hfits := hattached.fits thread (System.findReader_eq_some hfind).1
      refine h.setReader hfind _ rfl rfl ?_ ?_ ?_
      · exact fun hplain => (Reader.accept_of_plain hplain bytes).2
      · intro hready
        refine ⟨?_, Reader.accept_of_ready hready⟩
        by_cases hsource : thread.source = .stdout
        · exact hsource
        · simp [(Reader.accept_of_plain (hfits.plain hsource) bytes).1] at hready
      · exact fun hplain _ => (Reader.accept_of_plain hplain bytes).1

theorem announce (h : Consistent system) {id : Nat}
    (hstep : Transition system (.announce id) after) : Consistent after := by
  cases hstep with
  | announcedInVain hlock hfind htold hready =>
      exact h.setReader hfind [] rfl rfl (fun hplain => hplain) (by simp) (fun _ _ => rfl)
  | @announced _ thread run hlock hfind htold hrun hid hexited hstate =>
      subst hid
      obtain ⟨hmem, hrunId, hstdout⟩ := System.findReader_eq_some hfind
      obtain ⟨other, handle, hother, hhandle, hattached⟩ := h.reader_owner hmem
      obtain rfl : run = other := by simpa [hrun] using hother
      have htold := (hattached.fits thread hmem).told htold
      have hset : Attached (system.setReader { thread with announcing := false }) run handle :=
        hattached.setReader hfind rfl rfl (fun hplain => hplain) (by simp) (fun _ _ => rfl)
      have hheld := hattached.held
      simp only [Held, hlock] at hheld
      refine of_attached run hrun hhandle (h.current run hrun) ?_ ?_
      · refine ⟨?_, hset.windows, hset.reportable, hset.teardowns, hset.fits, hset.distinct,
          hset.awaited, hset.handedOver, ?_⟩
        · simp only [Held, System.entered, System.put, System.notifyAll, System.setReader, hlock]
          exact ⟨(by simp), hheld.2⟩
        · -- The reader of standard output has found its marker, the other never looks.
          intro _ other hother
          rcases System.mem_setReader hother with rfl | ⟨hother, hkey⟩
          · exact ⟨htold.2, rfl⟩
          · have hfits := hattached.fits other hother
            have hsource : other.source ≠ .stdout := fun hsource =>
              hkey ⟨hfits.owner.trans hrunId.symm, hsource.trans hstdout.symm⟩
            refine ⟨hfits.plain hsource, ?_⟩
            cases hannouncing : other.announcing with
            | false => rfl
            | true => exact absurd (hfits.told hannouncing).1 hsource
      · exact h.shut.work [.stateChanged .running] (by simp [hrun]) (.inr rfl) rfl

theorem report (h : Consistent system) {id : Nat} {exit : Exit}
    (hstep : Transition system (.report id exit) after) : Consistent after := by
  cases hstep with
  | reportedInVain hlock hreport hflag =>
      obtain ⟨run, handle, hrun, -, rfl, hexited, -⟩ := h.reportable_owner hreport
      simp [Core.flagExit, hrun, hexited] at hflag
  | @reported _ _ run hlock hreport hrun hid hexited =>
      subst hid
      obtain ⟨other, handle, hother, hhandle, -, -, hteardowns, hattached⟩ :=
        h.reportable_owner hreport
      obtain rfl : run = other := by simpa [hrun] using hother
      have hheld := hattached.held
      simp only [Held, hlock] at hheld
      refine of_attached { run with exited := true, readers := [] } rfl hhandle
        (h.current run hrun) ?_ ?_
      · refine ⟨?_, hattached.windows, ?_, ?_, ?_, hattached.distinct, ?_, fun _ => rfl,
          hattached.settled⟩
        · simpa only [Held, System.record, hlock] using hheld
        · simp [System.record, hattached.reportable, hexited]
        · simp [System.record, hteardowns]
        · intro thread hthread
          obtain ⟨howner, hprovided, hplain, htold⟩ := hattached.fits thread hthread
          exact ⟨howner, hprovided, hplain, htold⟩
        · intro thread hthread
          have hawaited := hattached.awaited thread hthread
          simpa [System.record, hteardowns] using hawaited
      · exact h.shut.work [] (by simp [hrun]) (.inl rfl) rfl

theorem begun (h : Consistent system) (hlock : system.lock = none)
    (hopen : system.closing = .open) (hstopped : system.core.state = .stopped)
    (records : List Log.RunRecord) :
    Consistent
      { system with
        core :=
          ⟨.starting, some ⟨system.core.lastRun + 1, none, [], none, false⟩,
            system.core.lastRun + 1⟩
        windows := system.windows ++ [system.core.lastRun + 1]
        records := records }.notifyAll := by
  have hidle := h.idle (h.stopped_iff.mp hstopped)
  refine of_spawning rfl rfl rfl ?_ ?_
  · exact ⟨rfl, rfl, rfl, hlock, by simp [System.notifyAll, hidle.windows], hidle.readers,
      hidle.reportable, hidle.teardowns⟩
  · exact h.shut.of_not_closed (by simp [hopen]) (by simp [System.notifyAll, hopen])
      (by simp [System.notifyAll, hopen]) rfl

theorem failed (h : Consistent system) (hlock : system.lock = none) {id : Nat}
    (hwindow : id ∈ system.windows) :
    Consistent
      { system with
        core := system.core.abandon, windows := system.windows.erase id }.notifyAll := by
  obtain ⟨run, hrun, hhandle, rfl⟩ := h.window hwindow
  have hspawning := h.spawning run hrun hhandle
  refine of_idle rfl ?_ ?_
  · exact ⟨rfl, hlock, by simp [System.notifyAll, hspawning.windows], hspawning.readers,
      hspawning.reportable, hspawning.teardowns⟩
  · exact h.shut.work [] (fun _ => rfl) (.inr rfl) rfl

theorem attach (h : Consistent system) {id : Nat}
    (hstep : Transition system (.attach id handle) after) : Consistent after := by
  cases hstep with
  | @attached _ _ run hlock hwindow hrun hid hstate =>
      subst hid
      obtain ⟨other, hother, hhandle, -⟩ := h.window hwindow
      obtain rfl : run = other := by simpa [hrun] using hother
      have hspawning := h.spawning run hrun hhandle
      refine of_attached _ rfl rfl (h.current run hrun) ?_ ?_
      · refine ⟨⟨rfl, hstate, hspawning.exited, [], rfl, by simp [hspawning.joined]⟩, ?_, ?_, ?_,
          ?_, ?_, ?_, fun _ => hspawning.joined, ?_⟩
        · simp [System.put, System.record, hspawning.windows]
        · simp [System.put, System.record, hspawning.reportable, hspawning.exited]
        · simp [System.put, System.record, hspawning.teardowns, hspawning.exited]
        all_goals simp [System.put, System.record, hspawning.readers]
      · exact h.shut.work _ (by simp [hrun]) (.inl rfl) rfl

theorem teardown (h : Consistent system) {id : Nat}
    (hstep : Transition system (.teardown id) after) : Consistent after := by
  cases hstep with
  | @tornDown _ teardown run hlock hfind hjoined hrun =>
      obtain ⟨other, handle, hother, -, -, hexited, hteardowns, hreaders, hattached⟩ :=
        h.joined hfind hjoined
      obtain rfl : run = other := by simpa [hrun] using hother
      refine of_idle rfl ?_ ?_
      · exact ⟨rfl, hlock, hattached.windows, hreaders,
          hattached.reportable.trans (by simp [hexited]),
          by simp [System.entered, System.put, System.notifyAll, hteardowns]⟩
      · exact h.shut.work [stoppedLine teardown.exit, .stateChanged .stopped]
          (fun _ => rfl) (.inr rfl) rfl

-- The dispatcher ends at the mark, which is not there before the disposal is
-- over.
theorem deliver (h : Consistent system) {queue : Queue}
    (hqueue : system.queue.deliver = some queue) :
    Consistent { system with queue := queue } := by
  refine h.congr rfl rfl rfl rfl rfl rfl ?_
  unfold Queue.deliver at hqueue
  split at hqueue
  · cases hqueue
  split at hqueue
  · cases hqueue
  · cases hqueue
    exact ⟨h.shut.released, h.shut.closed, h.shut.marked, h.shut.ended⟩
  · rename_i hitem
    cases hqueue
    have hclosed := h.shut.marked (Array.mem_of_getElem? hitem)
    exact ⟨h.shut.released, h.shut.closed, h.shut.marked, fun _ => hclosed⟩

theorem dispose (h : Consistent system) {inside : Bool}
    (hstep : Transition system (.dispose inside) after) : Consistent after := by
  cases hstep with
  | disposed hopen =>
      exact h.congr rfl rfl rfl rfl rfl rfl
        (h.shut.of_not_closed (by simp [hopen]) (by simp) (by simp) rfl)

theorem disposeRequest (h : Consistent system)
    (hstep : Transition system .disposeRequest after) : Consistent after := by
  cases hstep with
  | @disposeRequested inside next hclosing hrequest =>
      have hnext := h.requesting hrequest
      have hopen : next.closing ≠ .closed := by
        cases hrequest <;>
          simp [System.entered, System.put, System.notifyAll, System.sendSignal, hclosing]
      exact hnext.congr rfl rfl rfl rfl rfl rfl (hnext.shut.of_not_closed hopen (by simp) (by simp) rfl)

theorem disposeLook (h : Consistent system) (hstep : Transition system .disposeLook after) :
    Consistent after := by
  cases hstep with
  | @disposeLooked inside phase hlock hclosing hphase =>
      refine h.congr rfl rfl rfl rfl rfl rfl
        (h.shut.of_not_closed (by simp [hclosing]) (by simp) ?_ rfl)
      intro inside' reached hreturned
      by_cases hstopped : system.core.state = .stopped
      · exact h.stopped_iff.mp hstopped
      · simp [hstopped] at hreturned

theorem disposeClose (h : Consistent system) (hstep : Transition system .disposeClose after) :
    Consistent after := by
  cases hstep with
  | disposeClosed hclosing =>
      have hrun := h.shut.released _ _ hclosing
      exact h.congr rfl rfl rfl rfl rfl rfl ⟨(by simp), fun _ => hrun, fun _ => rfl, fun _ => rfl⟩

-- The queue is handed on and callers wait without touching the run.
theorem aside (h : Consistent system) {queue : Queue} {waiters : List Waiter}
    (hitems : queue.items = system.queue.items) (hended : queue.ended = system.queue.ended) :
    Consistent { system with queue := queue, waiters := waiters } :=
  h.congr rfl rfl rfl rfl rfl rfl
    ⟨h.shut.released, h.shut.closed, by simpa only [hitems] using h.shut.marked,
      by simpa only [hended] using h.shut.ended⟩

theorem transition (h : Consistent system) {action : Action}
    (hstep : Transition system action after) : Consistent after := by
  cases action with
  | start =>
      cases hstep with
      | startIgnored => exact h
      | begun hlock hopen hstopped => exact h.begun hlock hopen hstopped _
  | fail run =>
      cases hstep with
      | failed hlock hwindow => exact h.failed hlock hwindow
  | attach run handle => exact h.attach hstep
  | watch refusal =>
      cases hstep with
      | watched hlock => exact h.watched hlock
      | unwatched hlock => exact h.unwatched hlock _
  | takePending => exact h.takePending hstep
  | request signal =>
      cases hstep with
      | requested _ hrequest => exact h.requesting hrequest
  | conclude outcome =>
      cases hstep with
      | concluded hlock => exact h.concluded hlock _
  | send run source message =>
      cases hstep with
      | @sent _ _ _ thread hfind =>
          have hmem := (System.findReader_eq_some hfind).1
          obtain ⟨run, handle, -, -, hattached⟩ := h.reader_owner hmem
          exact h.setReader hfind [] rfl rfl (fun hplain => hplain) (hattached.fits thread hmem).told
            (fun _ hidle => hidle)
  | read run source => exact h.read hstep
  | announce run => exact h.announce hstep
  | report run exit => exact h.report hstep
  | teardown run => exact h.teardown hstep
  | deliver =>
      cases hstep with
      | delivered hqueue => exact h.deliver hqueue
  | settle =>
      cases hstep with
      | settled => exact h.aside rfl rfl
  | await target =>
      cases hstep with
      | awaited => exact h.aside rfl rfl
  | look index =>
      cases hstep with
      | looked => exact h.aside rfl rfl
  | expire index =>
      cases hstep with
      | expired => exact h.aside rfl rfl
  | dispose inside => exact h.dispose hstep
  | disposeRequest => exact h.disposeRequest hstep
  | disposeLook => exact h.disposeLook hstep
  | disposeClose => exact h.disposeClose hstep

end Consistent

theorem Execution.consistent {config : Config} {actions : List Action} {system : System}
    (h : Execution config actions system) : Consistent system := by
  induction h with
  | initial => exact .initial config
  | step _ hact ih => exact ih.transition (System.transition_of_act hact)

end Overseer.Supervisor
