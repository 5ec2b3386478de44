import Overseer.Supervisor.System

namespace Overseer.Supervisor

open Overseer.Output

-- What an action does to a system, one case for each way in which it can go.
-- A case names what the action found and the system it leaves behind. Facts
-- about executions are proved by these cases and never by unfolding an action.

-- A request for termination, whoever makes it.
inductive Requesting (system : System) (signal : Signal) : System → Prop
  | ignored :
      system.lock = none →
      system.core.state = .stopped ∨ system.core.state = .stopping ∧ signal = .graceful →
      Requesting system signal system
  | recorded {run : Run} :
      system.lock = none → system.core.run = some run → run.handle = none →
      system.core.state ≠ .stopped → ¬(system.core.state = .stopping ∧ signal = .graceful) →
      Requesting system signal
        { system with
          core :=
            { system.core with
              run := some { run with pending := some (Core.strengthen run.pending signal) } } }
  | entered {run : Run} {handle : Handle} :
      system.lock = none → system.core.run = some run → run.handle = some handle →
      system.core.state = .starting ∨ system.core.state = .running →
      Requesting system signal
        (({ system with core := { system.core with state := .stopping } }.entered).sendSignal
          run.id signal)
  | repeated {run : Run} {handle : Handle} :
      system.lock = none → system.core.run = some run → run.handle = some handle →
      system.core.state = .stopping → signal = .force →
      Requesting system signal (system.sendSignal run.id signal)

inductive Transition (system : System) : Action → System → Prop
  | startIgnored :
      system.lock = none → system.closing = .open → system.core.state ≠ .stopped →
      Transition system .start system
  | begun :
      system.lock = none → system.closing = .open → system.core.state = .stopped →
      Transition system .start
        { system with
          core :=
            ⟨.starting, some ⟨system.core.lastRun + 1, none, [], none, false⟩,
              system.core.lastRun + 1⟩
          windows := system.windows ++ [system.core.lastRun + 1]
          records :=
            system.records ++ [Log.RunRecord.new (system.core.lastRun + 1)] }.notifyAll
  | failed {run : Nat} :
      system.lock = none → run ∈ system.windows →
      Transition system (.fail run)
        { system with
          core := system.core.abandon, windows := system.windows.erase run }.notifyAll
  | attached {id : Nat} {handle : Handle} {run : Run} :
      system.lock = none → id ∈ system.windows → system.core.run = some run → run.id = id →
      system.core.state = .starting →
      Transition system (.attach id handle)
        (({ system with
            core := { system.core with run := some { run with handle := some handle } }
            lock := some (.attaching id handle.streams)
            windows := system.windows.erase id
            reportable := system.reportable ++ [id] }.record id
          fun entry => { entry with pid := some handle.pid }).put
          [startedLine handle.pid, .stateChanged .starting])
  | watched {id : Nat} {source : Source} {rest : List Source} :
      system.lock = some (.attaching id (source :: rest)) →
      Transition system (.watch none)
        { system with
          lock := some (.attaching id rest)
          core := system.core.addReader source
          readers :=
            if System.hasBuffer system.config then
              system.readers ++ [System.newReader system.config id source]
            else system.readers }
  | unwatched {id : Nat} {source : Source} {rest : List Source} {reason : String} :
      system.lock = some (.attaching id (source :: rest)) →
      Transition system (.watch (some reason))
        ({ system with lock := some (.attaching id rest), core := system.core.missReader }.put
          [unreadLine source reason])
  | letGo {id : Nat} :
      system.lock = some (.attaching id []) → system.core.takePending = none →
      Transition system .takePending { system with lock := none }
  | takenUp {id : Nat} {run : Run} {signal : Signal} :
      system.lock = some (.attaching id []) → system.core.run = some run →
      run.pending = some signal →
      Transition system .takePending
        ({ system with
            core :=
              { system.core with state := .stopping, run := some { run with pending := none } }
          }.entered.sendSignal id signal)
  | requested {signal : Signal} {after : System} :
      system.closing = .open → Requesting system signal after →
      Transition system (.request signal) after
  | concluded {id : Nat} {signal : Signal} {outcome : Except Fault Unit} {events : List Event} :
      system.lock = some (.signalling id signal) → system.core.concluded outcome = .ok events →
      Transition system (.conclude outcome) { system.put events with lock := none }
  | sent {id : Nat} {source : Source} {message : Message} {thread : ReaderThread} :
      system.findReader id source = some thread →
      Transition system (.send id source message)
        (system.setReader { thread with stream := thread.stream ++ [message] })
  | readAgain {id : Nat} {source : Source} {thread : ReaderThread} {rest : Stream} :
      system.findReader id source = some thread → thread.announcing = false →
      thread.stream.read (Stream.request system.config.chunkSize) = some (.again, rest) →
      Transition system (.read id source) (system.setReader { thread with stream := rest })
  | readEnd {id : Nat} {source : Source} {thread : ReaderThread} {rest : Stream} :
      system.findReader id source = some thread → thread.announcing = false →
      thread.stream.read (Stream.request system.config.chunkSize) = some (.ended, rest) →
      Transition system (.read id source)
        ((system.put (System.outputEvent source thread.reader.flush)).endReader id source)
  | readChunk {id : Nat} {source : Source} {thread : ReaderThread} {bytes : List UInt8}
      {rest : Stream} :
      system.findReader id source = some thread → thread.announcing = false →
      thread.stream.read (Stream.request system.config.chunkSize) = some (.chunk bytes, rest) →
      Transition system (.read id source)
        ((system.put (System.outputEvent source (thread.reader.accept bytes).output)).setReader
          { thread with
            stream := rest, reader := (thread.reader.accept bytes).reader
            announcing := (thread.reader.accept bytes).ready })
  | announcedInVain {id : Nat} {thread : ReaderThread} :
      system.lock = none → system.findReader id .stdout = some thread →
      thread.announcing = true → system.core.ready id = .ok none →
      Transition system (.announce id) (system.setReader { thread with announcing := false })
  | announced {id : Nat} {thread : ReaderThread} {run : Run} :
      system.lock = none → system.findReader id .stdout = some thread →
      thread.announcing = true → system.core.run = some run → run.id = id →
      run.exited = false → system.core.state = .starting →
      Transition system (.announce id)
        { system.setReader { thread with announcing := false } with
          core := { system.core with state := .running } }.entered
  | reportedInVain {id : Nat} {exit : Exit} :
      system.lock = none → id ∈ system.reportable → system.core.flagExit id = none →
      Transition system (.report id exit)
        { system with reportable := system.reportable.erase id }
  | reported {id : Nat} {exit : Exit} {run : Run} :
      system.lock = none → id ∈ system.reportable → system.core.run = some run → run.id = id →
      run.exited = false →
      Transition system (.report id exit)
        ({ system with
            reportable := system.reportable.erase id
            core :=
              { system.core with run := some { run with exited := true, readers := [] } }
            teardowns := system.teardowns ++ [Teardown.mk id exit run.readers] }.record id
          fun entry => { entry with exit := some exit.describe })
  | tornDown {id : Nat} {teardown : Teardown} {run : Run} :
      system.lock = none →
      system.teardowns.find? (fun teardown => teardown.run = id) = some teardown →
      (∀ source ∈ teardown.awaited, system.findReader id source = none) →
      system.core.run = some run →
      Transition system (.teardown id)
        ({ system with
            core := { system.core with state := .stopped, run := none }
            teardowns := system.teardowns.erase teardown }.put
          [stoppedLine teardown.exit]).entered
  | delivered {queue : Queue} :
      system.queue.deliver = some queue →
      Transition system .deliver { system with queue := queue }
  | settled :
      system.queue.busy = true → system.closing.holdsCallback = false →
      Transition system .settle { system with queue := system.queue.settle }
  | awaited {target : State} :
      system.closing = .open →
      Transition system (.await target)
        { system with waiters := system.waiters ++ [⟨target, .entering⟩] }
  | looked {index : Nat} {waiter : Waiter} :
      system.lock = none → system.waiters[index]? = some waiter →
      waiter.phase = .entering ∨ waiter.phase = .woken →
      Transition system (.look index)
        (system.setWaiter index
          { waiter with
            phase := if system.core.state = waiter.target then .returned true else .asleep })
  | expired {index : Nat} {waiter : Waiter} :
      system.lock = none → system.waiters[index]? = some waiter →
      waiter.phase = .asleep ∨ waiter.phase = .woken →
      Transition system (.expire index)
        (system.setWaiter index
          { waiter with phase := .returned (system.core.state = waiter.target) })
  | disposed {inside : Bool} :
      system.closing = .open → system.windows = [] →
      system.waiters.all System.hasReturned = true → (inside = true → system.queue.busy = true) →
      Transition system (.dispose inside) { system with closing := .requesting inside }
  | disposeRequested {inside : Bool} {after : System} :
      system.closing = .requesting inside → Requesting system .graceful after →
      Transition system .disposeRequest { after with closing := .waiting inside .entering }
  | disposeLooked {inside : Bool} {phase : WaitPhase} :
      system.lock = none → system.closing = .waiting inside phase →
      phase = .entering ∨ phase = .woken →
      Transition system .disposeLook
        { system with
          closing :=
            .waiting inside (if system.core.state = .stopped then .returned true else .asleep) }
  | disposeClosed {inside reached : Bool} :
      system.closing = .waiting inside (.returned reached) →
      Transition system .disposeClose
        { system with queue := system.queue.put .shutdown, closing := .closed }

namespace Core

variable {core : Core} {run : Run} {handle : Handle} {signal : Signal} {id : Nat}

theorem request_of_idle
    (h : core.state = .stopped ∨ core.state = .stopping ∧ signal = .graceful) :
    core.request signal = .ok .ignored := by
  rcases h with hs | ⟨hs, rfl⟩ <;> simp [request, hs]

theorem request_of_no_run (hrun : core.run = none) (hactive : core.state ≠ .stopped)
    (hnew : ¬(core.state = .stopping ∧ signal = .graceful)) :
    core.request signal = .error .activeWithoutRun := by
  cases hs : core.state <;> simp_all [request]

theorem request_of_spawning (hrun : core.run = some run) (hhandle : run.handle = none)
    (hactive : core.state ≠ .stopped) (hnew : ¬(core.state = .stopping ∧ signal = .graceful)) :
    core.request signal = .ok (.recorded
      { core with run := some { run with pending := some (strengthen run.pending signal) } }) := by
  cases hs : core.state <;> simp_all [request]

theorem request_of_attached (hrun : core.run = some run) (hhandle : run.handle = some handle)
    (hactive : core.state ≠ .stopped) (hnew : ¬(core.state = .stopping ∧ signal = .graceful)) :
    core.request signal =
      .ok (.sent run.id (core.state ≠ .stopping) { core with state := .stopping }) := by
  cases hs : core.state <;> simp_all [request]

theorem attach_of_starting (hrun : core.run = some run) (hid : run.id = id)
    (hstate : core.state = .starting) :
    core.attach id handle =
      .ok { core with run := some { run with handle := some handle } } := by
  simp [attach, hrun, hid, hstate]

-- Besides a start, nothing is made ready.
theorem ready_eq_some {next : Core} (h : core.ready id = .ok (some next)) :
    ∃ run, core.run = some run ∧ run.id = id ∧ run.exited = false ∧ core.state = .starting ∧
      next = { core with state := .running } := by
  unfold ready at h
  split at h
  · cases h
  rename_i run hrun
  split at h
  · cases h
  rename_i hid
  split at h
  · rename_i hstate
    cases hexited : run.exited with
    | true => simp [hexited] at h
    | false =>
        simp only [hexited] at h
        cases h
        exact ⟨run, hrun, by simpa using hid, hexited, hstate, rfl⟩
  · cases h
  · cases h
  · cases h

theorem flagExit_eq_some {awaited : List Source} {next : Core}
    (h : core.flagExit id = some (awaited, next)) :
    ∃ run, core.run = some run ∧ run.id = id ∧ run.exited = false ∧ awaited = run.readers ∧
      next = { core with run := some { run with exited := true, readers := [] } } := by
  unfold flagExit at h
  split at h
  · cases h
  rename_i run hrun
  split at h
  · cases h
  rename_i hguard
  obtain ⟨hid, hexited⟩ : run.id = id ∧ run.exited = false := by simpa using hguard
  cases h
  exact ⟨run, hrun, hid, hexited, rfl, rfl⟩

end Core

namespace System

variable {system after : System}

@[simp] theorem lock_sendSignal (system : System) (run : Nat) (signal : Signal) :
    (system.sendSignal run signal).lock = some (.signalling run signal) := rfl

theorem lock_of_isFree (h : ¬(!system.isFree) = true) : system.lock = none := by
  simpa [isFree] using h

theorem closing_of_isOpen (h : system.isOpen = true) : system.closing = .open := by
  simpa [isOpen] using h

theorem requesting_of_onRequest {signal : Signal} (h : system.onRequest signal = .moved after) :
    Requesting system signal after := by
  unfold onRequest at h
  split at h
  · cases h
  rename_i hfree
  have hlock := lock_of_isFree hfree
  by_cases hidle : system.core.state = .stopped ∨
      system.core.state = .stopping ∧ signal = .graceful
  · rw [Core.request_of_idle hidle] at h
    cases h
    exact .ignored hlock hidle
  obtain ⟨hactive, hnew⟩ := not_or.mp hidle
  cases hrun : system.core.run with
  | none =>
      rw [Core.request_of_no_run hrun hactive hnew] at h
      cases h
  | some run =>
      cases hhandle : run.handle with
      | none =>
          rw [Core.request_of_spawning hrun hhandle hactive hnew] at h
          cases h
          exact .recorded hlock hrun hhandle hactive hnew
      | some handle =>
          rw [Core.request_of_attached hrun hhandle hactive hnew] at h
          by_cases hstopping : system.core.state = .stopping
          · have hforce : signal = .force := by
              cases signal with
              | graceful => exact absurd ⟨hstopping, rfl⟩ hnew
              | force => rfl
            have hcore : { system.core with state := .stopping } = system.core := by
              rw [← hstopping]
            simp only [hstopping, hcore, ne_eq, not_true_eq_false, decide_false] at h
            cases h
            exact .repeated hlock hrun hhandle hstopping hforce
          · have hstate : system.core.state = .starting ∨ system.core.state = .running := by
              cases hs : system.core.state <;> simp_all
            simp only [hstopping, ne_eq, not_false_eq_true, decide_true] at h
            cases h
            exact .entered hlock hrun hhandle hstate

theorem transition_of_onStart (h : system.onStart = .moved after) :
    Transition system .start after := by
  unfold onStart at h
  split at h
  · cases h
  rename_i hguard
  obtain ⟨hfree, hopen⟩ : system.isFree = true ∧ system.isOpen = true := by simpa using hguard
  have hlock : system.lock = none := by simpa [isFree] using hfree
  by_cases hstopped : system.core.state = .stopped
  · simp only [Core.begin?, hstopped, ne_eq, not_true_eq_false, if_false] at h
    cases h
    exact .begun hlock (closing_of_isOpen hopen) hstopped
  · simp only [Core.begin?, hstopped, ne_eq, not_false_eq_true, if_true] at h
    cases h
    exact .startIgnored hlock (closing_of_isOpen hopen) hstopped

theorem transition_of_onFail {run : Nat} (h : system.onFail run = .moved after) :
    Transition system (.fail run) after := by
  unfold onFail at h
  split at h
  · cases h
  rename_i hguard
  cases h
  obtain ⟨hfree, hwindow⟩ : system.lock = none ∧ run ∈ system.windows := by
    simpa [isFree] using hguard
  exact .failed hfree hwindow

theorem transition_of_onAttach {id : Nat} {handle : Handle}
    (h : system.onAttach id handle = .moved after) :
    Transition system (.attach id handle) after := by
  unfold onAttach at h
  split at h
  · cases h
  rename_i hguard
  obtain ⟨hfree, hwindow⟩ : system.lock = none ∧ id ∈ system.windows := by
    simpa [isFree] using hguard
  cases hrun : system.core.run with
  | none => simp [Core.attach, hrun] at h
  | some run =>
      by_cases hid : run.id = id
      · by_cases hstate : system.core.state = .starting
        · rw [Core.attach_of_starting hrun hid hstate] at h
          cases h
          exact .attached hfree hwindow hrun hid hstate
        · simp [Core.attach, hrun, hid, hstate] at h
      · simp [Core.attach, hrun, hid] at h

theorem transition_of_onWatch {refusal : Option String}
    (h : system.onWatch refusal = .moved after) : Transition system (.watch refusal) after := by
  unfold onWatch at h
  split at h
  · rename_i id source rest hlock
    cases refusal with
    | none =>
        cases h
        exact .watched hlock
    | some reason =>
        cases h
        exact .unwatched hlock
  · cases h

theorem transition_of_onTakePending (h : system.onTakePending = .moved after) :
    Transition system .takePending after := by
  unfold onTakePending at h
  split at h
  · rename_i id hlock
    cases hrun : system.core.run with
    | none =>
        have htake : system.core.takePending = none := by simp [Core.takePending, hrun]
        rw [htake] at h
        cases h
        exact .letGo hlock htake
    | some run =>
        cases hpending : run.pending with
        | none =>
            have htake : system.core.takePending = none := by
              simp [Core.takePending, hrun, hpending]
            rw [htake] at h
            cases h
            exact .letGo hlock htake
        | some signal =>
            have htake : system.core.takePending = some (signal,
                { system.core with
                  state := .stopping, run := some { run with pending := none } }) := by
              simp [Core.takePending, hrun, hpending]
            rw [htake] at h
            cases h
            exact .takenUp hlock hrun hpending
  · cases h

theorem transition_of_onConclude {outcome : Except Fault Unit}
    (h : system.onConclude outcome = .moved after) :
    Transition system (.conclude outcome) after := by
  unfold onConclude at h
  split at h
  · rename_i id signal hlock
    cases hevents : system.core.concluded outcome with
    | error violation => simp [hevents] at h
    | ok events =>
        rw [hevents] at h
        cases h
        exact .concluded hlock hevents
  · cases h

theorem transition_of_onSend {id : Nat} {source : Source} {message : Message}
    (h : system.onSend id source message = .moved after) :
    Transition system (.send id source message) after := by
  unfold onSend at h
  split at h
  · cases h
  rename_i thread hthread
  cases h
  exact .sent hthread

theorem transition_of_onRead {id : Nat} {source : Source}
    (h : system.onRead id source = .moved after) :
    Transition system (.read id source) after := by
  unfold onRead at h
  split at h
  · cases h
  rename_i thread hthread
  split at h
  · cases h
  rename_i hidle
  have hidle : thread.announcing = false := by simpa using hidle
  split at h
  · cases h
  · rename_i rest hread
    cases h
    exact .readAgain hthread hidle hread
  · rename_i rest hread
    cases h
    exact .readEnd hthread hidle hread
  · rename_i bytes rest hread
    cases h
    exact .readChunk hthread hidle hread

theorem transition_of_onAnnounce {id : Nat} (h : system.onAnnounce id = .moved after) :
    Transition system (.announce id) after := by
  unfold onAnnounce at h
  split at h
  · cases h
  rename_i hfree
  have hlock := lock_of_isFree hfree
  split at h
  · cases h
  rename_i thread hthread
  split at h
  · cases h
  rename_i htold
  have htold : thread.announcing = true := by simpa using htold
  cases hready : system.core.ready id with
  | error violation => simp [hready] at h
  | ok next =>
      cases next with
      | none =>
          simp only [hready] at h
          cases h
          exact .announcedInVain hlock hthread htold hready
      | some core =>
          obtain ⟨run, hrun, hid, hexited, hstate, rfl⟩ := Core.ready_eq_some hready
          simp only [hready] at h
          cases h
          exact .announced hlock hthread htold hrun hid hexited hstate

theorem transition_of_onReport {id : Nat} {exit : Exit}
    (h : system.onReport id exit = .moved after) :
    Transition system (.report id exit) after := by
  unfold onReport at h
  split at h
  · cases h
  rename_i hguard
  obtain ⟨hlock, hreport⟩ : system.lock = none ∧ id ∈ system.reportable := by
    simpa [isFree] using hguard
  cases hflag : system.core.flagExit id with
  | none =>
      simp only [hflag] at h
      cases h
      exact .reportedInVain hlock hreport hflag
  | some flagged =>
      obtain ⟨awaited, core⟩ := flagged
      obtain ⟨run, hrun, hid, hexited, rfl, rfl⟩ := Core.flagExit_eq_some hflag
      simp only [hflag] at h
      cases h
      exact .reported hlock hreport hrun hid hexited

theorem transition_of_onTeardown {id : Nat} (h : system.onTeardown id = .moved after) :
    Transition system (.teardown id) after := by
  unfold onTeardown at h
  split at h
  · cases h
  rename_i hfree
  have hlock := lock_of_isFree hfree
  split at h
  · cases h
  rename_i teardown hfind
  split at h
  · cases h
  rename_i hjoined
  have hjoined : ∀ source ∈ teardown.awaited, system.findReader id source = none := by
    simpa using hjoined
  cases hrun : system.core.run with
  | none => simp [Core.finish, hrun] at h
  | some run =>
      have hfinish :
          system.core.finish = .ok { system.core with state := .stopped, run := none } := by
        simp [Core.finish, hrun]
      rw [hfinish] at h
      cases h
      exact .tornDown hlock hfind hjoined hrun

theorem transition_of_onDispose {inside : Bool} (h : system.onDispose inside = .moved after) :
    Transition system (.dispose inside) after := by
  unfold onDispose at h
  split at h
  · cases h
  rename_i hguard
  cases h
  simp only [Bool.or_eq_true, Bool.not_eq_true', Bool.and_eq_true, not_or, Bool.not_eq_false,
    not_and, List.isEmpty_iff] at hguard
  obtain ⟨⟨⟨hopen, hwindows⟩, hwaiters⟩, hinside⟩ := hguard
  exact .disposed (closing_of_isOpen hopen) hwindows hwaiters hinside

theorem transition_of_onDisposeRequest (h : system.onDisposeRequest = .moved after) :
    Transition system .disposeRequest after := by
  unfold onDisposeRequest at h
  split at h
  · rename_i inside hclosing
    split at h
    · rename_i next hrequest
      cases h
      exact .disposeRequested hclosing (requesting_of_onRequest hrequest)
    · rename_i hnot
      exact absurd h (hnot after)
  · cases h

theorem transition_of_onDisposeLook (h : system.onDisposeLook = .moved after) :
    Transition system .disposeLook after := by
  unfold onDisposeLook at h
  split at h
  · cases h
  rename_i hfree
  have hlock := lock_of_isFree hfree
  split at h
  · rename_i inside hclosing
    cases h
    exact .disposeLooked hlock hclosing (.inl rfl)
  · rename_i inside hclosing
    cases h
    exact .disposeLooked hlock hclosing (.inr rfl)
  · cases h

theorem transition_of_onDisposeClose (h : system.onDisposeClose = .moved after) :
    Transition system .disposeClose after := by
  unfold onDisposeClose at h
  split at h
  · rename_i inside reached hclosing
    cases h
    exact .disposeClosed hclosing
  · cases h

theorem transition_of_onLook {index : Nat} (h : system.onLook index = .moved after) :
    Transition system (.look index) after := by
  unfold onLook at h
  split at h
  · cases h
  rename_i hfree
  have hlock := lock_of_isFree hfree
  split at h
  · cases h
  rename_i waiter hwaiter
  split at h
  · rename_i hphase
    cases h
    exact .looked hlock hwaiter (.inl hphase)
  · rename_i hphase
    cases h
    exact .looked hlock hwaiter (.inr hphase)
  · cases h
  · cases h

theorem transition_of_onExpire {index : Nat} (h : system.onExpire index = .moved after) :
    Transition system (.expire index) after := by
  unfold onExpire at h
  split at h
  · cases h
  rename_i hfree
  have hlock := lock_of_isFree hfree
  split at h
  · cases h
  rename_i waiter hwaiter
  split at h
  · rename_i hphase
    cases h
    exact .expired hlock hwaiter (.inl hphase)
  · rename_i hphase
    cases h
    exact .expired hlock hwaiter (.inr hphase)
  · cases h
  · cases h

-- Every action that is taken goes in one of the ways above.
theorem transition_of_act {action : Action} (h : system.act action = .moved after) :
    Transition system action after := by
  cases action with
  | start => exact transition_of_onStart h
  | fail run => exact transition_of_onFail h
  | attach run handle => exact transition_of_onAttach h
  | watch refusal => exact transition_of_onWatch h
  | takePending => exact transition_of_onTakePending h
  | request signal =>
      simp only [act] at h
      split at h
      · rename_i hopen
        exact .requested (closing_of_isOpen hopen) (requesting_of_onRequest h)
      · cases h
  | conclude outcome => exact transition_of_onConclude h
  | send run source message => exact transition_of_onSend h
  | read run source => exact transition_of_onRead h
  | announce run => exact transition_of_onAnnounce h
  | report run exit => exact transition_of_onReport h
  | teardown run => exact transition_of_onTeardown h
  | deliver =>
      simp only [act, onDeliver] at h
      cases hqueue : system.queue.deliver with
      | none => simp [hqueue] at h
      | some queue =>
          simp only [hqueue] at h
          cases h
          exact .delivered hqueue
  | settle =>
      simp only [act, onSettle] at h
      split at h
      · cases h
      rename_i hguard
      cases h
      obtain ⟨hbusy, hcallback⟩ :
          system.queue.busy = true ∧ system.closing.holdsCallback = false := by
        simpa using hguard
      exact .settled hbusy hcallback
  | await target =>
      simp only [act, onAwait] at h
      split at h
      · cases h
      rename_i hopen
      cases h
      exact .awaited (closing_of_isOpen (by simpa using hopen))
  | look waiter => exact transition_of_onLook h
  | expire waiter => exact transition_of_onExpire h
  | dispose inside => exact transition_of_onDispose h
  | disposeRequest => exact transition_of_onDisposeRequest h
  | disposeLook => exact transition_of_onDisposeLook h
  | disposeClose => exact transition_of_onDisposeClose h

end System

end Overseer.Supervisor
