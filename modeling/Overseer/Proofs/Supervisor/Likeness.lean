import Overseer.Proofs.Supervisor.Renumbering

namespace Overseer.Supervisor

open Overseer.Output

-- Two supervisors that are alike but for the numbers of their runs, for their
-- logs, and for the first callers who wait, as many as given. Whatever one of
-- them does the other can do, and they stay alike.

-- A step of one of the first callers.
def Action.isEarly (early : Nat) : Action → Bool
  | look index | expire index => index < early
  | _ => false

def Waiter.roused (waiter : Waiter) : Waiter := { waiter with phase := System.wake waiter.phase }

structure AgreeFrom (early : Nat) (waiters others : List Waiter) : Prop where
  early_le : early ≤ waiters.length
  length : others.length = waiters.length
  same : others.drop early = waiters.drop early

namespace AgreeFrom

variable {early later index : Nat} {waiters others : List Waiter}

theorem refl (h : early ≤ waiters.length) : AgreeFrom early waiters waiters := ⟨h, rfl, rfl⟩

theorem symm (h : AgreeFrom early waiters others) : AgreeFrom early others waiters where
  early_le := by simpa [h.length] using h.early_le
  length := h.length.symm
  same := h.same.symm

theorem trans {last : List Waiter} (h : AgreeFrom early waiters others)
    (hlast : AgreeFrom early others last) : AgreeFrom early waiters last :=
  ⟨h.early_le, hlast.length.trans h.length, hlast.same.trans h.same⟩

theorem mono (h : AgreeFrom early waiters others) (hlater : early ≤ later)
    (hlength : later ≤ waiters.length) : AgreeFrom later waiters others where
  early_le := hlength
  length := h.length
  same := by
    have hsame := congrArg (List.drop (later - early)) h.same
    simpa [List.drop_drop, Nat.add_sub_cancel' hlater] using hsame

theorem of_length (h : others.length = waiters.length) :
    AgreeFrom waiters.length waiters others where
  early_le := Nat.le_refl _
  length := h
  same := by rw [List.drop_length, ← h, List.drop_length]

theorem wake (h : AgreeFrom early waiters others) :
    AgreeFrom early (waiters.map Waiter.roused) (others.map Waiter.roused) where
  early_le := by simpa using h.early_le
  length := by simpa using h.length
  same := by rw [← List.map_drop, ← List.map_drop, h.same]

theorem append (h : AgreeFrom early waiters others) (waiter : Waiter) :
    AgreeFrom early (waiters ++ [waiter]) (others ++ [waiter]) where
  early_le := by simpa using Nat.le_succ_of_le h.early_le
  length := by simpa using h.length
  same := by
    rw [List.drop_append_of_le_length h.early_le,
      List.drop_append_of_le_length (by simpa [h.length] using h.early_le), h.same]

theorem getElem? (h : AgreeFrom early waiters others) (hindex : early ≤ index) :
    others[index]? = waiters[index]? := by
  have hsame := congrArg (fun late : List Waiter => late[index - early]?) h.same
  simpa [List.getElem?_drop, Nat.add_sub_cancel' hindex] using hsame

theorem set (h : AgreeFrom early waiters others) (hindex : early ≤ index) (waiter : Waiter) :
    AgreeFrom early (waiters.set index waiter) (others.set index waiter) where
  early_le := by simpa using h.early_le
  length := by simpa using h.length
  same := by simp only [List.drop_set, if_neg (Nat.not_lt.mpr hindex), h.same]

theorem set_right (h : AgreeFrom early waiters others) (hindex : index < early)
    (waiter : Waiter) : AgreeFrom early waiters (others.set index waiter) where
  early_le := h.early_le
  length := by simpa using h.length
  same := by simpa only [List.drop_set, if_pos hindex] using h.same

theorem set_left (h : AgreeFrom early waiters others) (hindex : index < early) (waiter : Waiter) :
    AgreeFrom early (waiters.set index waiter) others :=
  (h.symm.set_right hindex waiter).symm

end AgreeFrom

-- The state, the queue and, but for the numbers of the runs, the signals are the
-- same in both, and so are all who work beside the supervisor.
structure Alike (fork early : Nat) (system other : System) : Prop where
  fork_le : fork ≤ system.core.lastRun
  agree : AgreeFrom early system.waiters other.waiters
  same : other = system.renumber fork other.waiters other.records

-- What the same action comes to in both.
inductive Move.Matches (fork early : Nat) : Move → Move → Prop
  | blocked : Matches fork early .blocked .blocked
  | broken {violation : Violation} :
      Matches fork early (.broken violation) (.broken violation)
  | moved {after other : System} :
      Alike fork early after other → Matches fork early (.moved after) (.moved other)

theorem Move.Matches.of_eq {fork early : Nat} {after other : System} {waiters : List Waiter}
    {records : List Log.RunRecord} (hfork : fork ≤ after.core.lastRun)
    (hagree : AgreeFrom early after.waiters waiters)
    (hsame : other = after.renumber fork waiters records) :
    Move.Matches fork early (.moved after) (.moved other) := by
  subst hsame
  exact .moved ⟨hfork, hagree, rfl⟩

namespace System

variable {system : System} {fork early : Nat} {waiters : List Waiter} {records : List Log.RunRecord}

@[simp] theorem isFree_renumber :
    (system.renumber fork waiters records).isFree = system.isFree := by
  simp [isFree, renumber]

section Fields

variable (system fork waiters records)

theorem config_renumber : (system.renumber fork waiters records).config = system.config := rfl

theorem core_renumber :
    (system.renumber fork waiters records).core = system.core.renumber fork := rfl

theorem lock_renumber : (system.renumber fork waiters records).lock =
    system.lock.map (Holder.renumber fork) := rfl

theorem queue_renumber : (system.renumber fork waiters records).queue = system.queue := rfl

theorem windows_renumber : (system.renumber fork waiters records).windows =
    system.windows.map (bump fork) := rfl

theorem readers_renumber : (system.renumber fork waiters records).readers =
    system.readers.map (ReaderThread.renumber fork) := rfl

theorem reportable_renumber : (system.renumber fork waiters records).reportable =
    system.reportable.map (bump fork) := rfl

theorem teardowns_renumber : (system.renumber fork waiters records).teardowns =
    system.teardowns.map (Teardown.renumber fork) := rfl

theorem closing_renumber : (system.renumber fork waiters records).closing = system.closing := rfl

theorem isOpen_renumber :
    (system.renumber fork waiters records).isOpen = system.isOpen := rfl

end Fields

section Moves

variable (hfork : fork ≤ system.core.lastRun) (hagree : AgreeFrom early system.waiters waiters)

include hfork hagree

theorem onStart_matches :
    Move.Matches fork early system.onStart (system.renumber fork waiters records).onStart := by
  unfold onStart
  rw [isFree_renumber, isOpen_renumber, core_renumber, Core.begin?_renumber hfork,
    windows_renumber]
  split
  · exact .blocked
  cases hbegin : system.core.begin? with
  | none => exact .of_eq hfork hagree rfl
  | some core =>
      have hnext := Core.lastRun_begin? hbegin
      have hlast : fork ≤ core.lastRun := by omega
      have hnew : system.windows.map (bump fork) ++ [(core.renumber fork).lastRun] =
          (system.windows ++ [core.lastRun]).map (bump fork) := by
        rw [← concat_map, hnext, bump_succ hfork, ← hnext]
        rfl
      simp only [Option.map_some, hnew]
      exact .of_eq hlast hagree.wake rfl

theorem onFail_matches (run : Nat) :
    Move.Matches fork early (system.onFail run)
      ((system.renumber fork waiters records).onFail (bump fork run)) := by
  unfold onFail
  rw [isFree_renumber, windows_renumber, contains_map_bump, erase_map_bump]
  split
  · exact .blocked
  · exact .of_eq hfork hagree.wake rfl

theorem onAttach_matches (run : Nat) (handle : Handle) :
    Move.Matches fork early (system.onAttach run handle)
      ((system.renumber fork waiters records).onAttach (bump fork run) handle) := by
  unfold onAttach
  rw [isFree_renumber, windows_renumber, contains_map_bump, erase_map_bump, core_renumber,
    Core.attach_renumber, reportable_renumber, concat_map]
  split
  · exact .blocked
  cases hattach : system.core.attach run handle with
  | error violation => exact .broken
  | ok core =>
      have hlast : fork ≤ core.lastRun := by
        rw [Core.lastRun_attach hattach]
        exact hfork
      exact .of_eq hlast hagree rfl

theorem onWatch_matches (refusal : Option String) :
    Move.Matches fork early (system.onWatch refusal)
      ((system.renumber fork waiters records).onWatch refusal) := by
  unfold onWatch
  rw [lock_renumber]
  rcases hlock : system.lock with _ | (⟨run, _ | ⟨source, rest⟩⟩ | ⟨run, signal⟩)
  · exact .blocked
  · exact .blocked
  · cases refusal with
    | none =>
        have hnew := concat_map (ReaderThread.renumber fork) system.readers
          (newReader system.config run source)
        simp only [Option.map_some, Holder.renumber, core_renumber, Core.addReader_renumber,
          readers_renumber, config_renumber]
        refine @Move.Matches.of_eq _ _ _ _ _ records hfork hagree ?_
        simp only [renumber, apply_ite (List.map (ReaderThread.renumber fork)), ← hnew]
        rfl
    | some reason =>
        simp only [Option.map_some, Holder.renumber, core_renumber, Core.missReader_renumber]
        exact .of_eq hfork hagree rfl
  · exact .blocked

theorem onTakePending_matches :
    Move.Matches fork early system.onTakePending
      (system.renumber fork waiters records).onTakePending := by
  unfold onTakePending
  rw [lock_renumber, core_renumber, Core.takePending_renumber]
  rcases hlock : system.lock with _ | (⟨run, _ | ⟨source, rest⟩⟩ | ⟨run, signal⟩)
  · exact .blocked
  · cases htake : system.core.takePending with
    | none => exact .of_eq hfork hagree rfl
    | some taken =>
        obtain ⟨signal, core⟩ := taken
        have hlast : fork ≤ core.lastRun := by
          rw [Core.lastRun_takePending htake]
          exact hfork
        let next : System := { system with core := core, lock := some (.attaching run []) }
        exact .of_eq hlast hagree.wake
          (@sendSignal_renumber next.entered fork _ records run signal)
  · exact .blocked
  · exact .blocked

theorem onRequest_matches (signal : Signal) :
    Move.Matches fork early (system.onRequest signal)
      ((system.renumber fork waiters records).onRequest signal) := by
  unfold onRequest
  rw [isFree_renumber, core_renumber, Core.request_renumber]
  split
  · exact .blocked
  cases hrequest : system.core.request signal with
  | error violation => exact .broken
  | ok requested =>
      cases requested with
      | ignored => exact .of_eq hfork hagree rfl
      | recorded core =>
          have hlast : fork ≤ core.lastRun := by
            rw [Core.lastRun_request hrequest rfl]
            exact hfork
          exact .of_eq hlast hagree rfl
      | sent run entering core =>
          have hlast : fork ≤ core.lastRun := by
            rw [Core.lastRun_request hrequest rfl]
            exact hfork
          let next : System := { system with core := core }
          cases entering with
          | false =>
              exact .of_eq hlast hagree (@sendSignal_renumber next fork waiters records run signal)
          | true =>
              exact .of_eq hlast hagree.wake
                (@sendSignal_renumber next.entered fork _ records run signal)

theorem onConclude_matches (outcome : Except Fault Unit) :
    Move.Matches fork early (system.onConclude outcome)
      ((system.renumber fork waiters records).onConclude outcome) := by
  unfold onConclude
  rw [lock_renumber, core_renumber, Core.concluded_renumber]
  rcases hlock : system.lock with _ | (⟨run, unread⟩ | ⟨run, signal⟩)
  · exact .blocked
  · exact .blocked
  · cases hconcluded : system.core.concluded outcome with
    | error violation => exact .broken
    | ok events => exact .of_eq hfork hagree rfl

theorem onSend_matches (run : Nat) (source : Source) (message : Message) :
    Move.Matches fork early (system.onSend run source message)
      ((system.renumber fork waiters records).onSend (bump fork run) source message) := by
  unfold onSend
  rw [findReader_renumber]
  cases hfind : system.findReader run source with
  | none => exact .blocked
  | some thread =>
      exact .of_eq hfork hagree
        (setReader_renumber { thread with stream := thread.stream ++ [message] })

theorem onRead_matches (run : Nat) (source : Source) :
    Move.Matches fork early (system.onRead run source)
      ((system.renumber fork waiters records).onRead (bump fork run) source) := by
  unfold onRead
  rw [findReader_renumber, config_renumber]
  cases hfind : system.findReader run source with
  | none => exact .blocked
  | some thread =>
      simp only [Option.map_some, ReaderThread.renumber]
      split
      · exact .blocked
      cases hread : thread.stream.read (Stream.request system.config.chunkSize) with
      | none => exact .blocked
      | some result =>
          obtain ⟨reading, rest⟩ := result
          cases reading with
          | again => exact .of_eq hfork hagree (setReader_renumber { thread with stream := rest })
          | ended =>
              exact .of_eq hfork hagree
                (@endReader_renumber (system.put _) fork waiters records run source)
          | chunk bytes =>
              exact .of_eq hfork hagree (@setReader_renumber (system.put _) fork waiters records
                { thread with
                  stream := rest, reader := (thread.reader.accept bytes).reader
                  announcing := (thread.reader.accept bytes).ready })

theorem onAnnounce_matches (run : Nat) :
    Move.Matches fork early (system.onAnnounce run)
      ((system.renumber fork waiters records).onAnnounce (bump fork run)) := by
  unfold onAnnounce
  rw [isFree_renumber, findReader_renumber, core_renumber, Core.ready_renumber]
  split
  · exact .blocked
  cases hfind : system.findReader run .stdout with
  | none => exact .blocked
  | some thread =>
      simp only [Option.map_some, ReaderThread.renumber]
      split
      · exact .blocked
      have htold :=
        @setReader_renumber system fork waiters records { thread with announcing := false }
      cases hready : system.core.ready run with
      | error violation => exact .broken
      | ok next =>
          cases next with
          | none => exact .of_eq hfork hagree htold
          | some core =>
              have hlast : fork ≤ core.lastRun := by
                rw [Core.lastRun_ready hready]
                exact hfork
              exact .of_eq hlast hagree.wake (congrArg
                (fun told : System => { told with core := core.renumber fork }.entered) htold)

theorem onReport_matches (run : Nat) (exit : Exit) :
    Move.Matches fork early (system.onReport run exit)
      ((system.renumber fork waiters records).onReport (bump fork run) exit) := by
  unfold onReport
  rw [isFree_renumber, reportable_renumber, contains_map_bump]
  split
  · exact .blocked
  simp only [core_renumber, Core.flagExit_renumber, erase_map_bump, teardowns_renumber]
  cases hflag : system.core.flagExit run with
  | none => exact .of_eq hfork hagree rfl
  | some flagged =>
      obtain ⟨awaited, core⟩ := flagged
      have hlast : fork ≤ core.lastRun := by
        rw [Core.lastRun_flagExit hflag]
        exact hfork
      have hnew : system.teardowns.map (Teardown.renumber fork) ++
          [Teardown.mk (bump fork run) exit awaited] =
            (system.teardowns ++ [Teardown.mk run exit awaited]).map (Teardown.renumber fork) :=
        concat_map (Teardown.renumber fork) system.teardowns ⟨run, exit, awaited⟩
      simp only [Option.map_some, hnew]
      exact .of_eq hlast hagree rfl

theorem onTeardown_matches (run : Nat) :
    Move.Matches fork early (system.onTeardown run)
      ((system.renumber fork waiters records).onTeardown (bump fork run)) := by
  unfold onTeardown
  rw [isFree_renumber, teardowns_renumber, core_renumber, Core.finish_renumber]
  split
  · exact .blocked
  rw [find?_teardown_renumber]
  cases hfind : system.teardowns.find? fun teardown => teardown.run = run with
  | none => exact .blocked
  | some teardown =>
      simp only [Option.map_some, Teardown.renumber, findReader_renumber, Option.isSome_map]
      split
      · exact .blocked
      cases hfinish : system.core.finish with
      | error violation => exact .broken
      | ok core =>
          have hlast : fork ≤ core.lastRun := by
            rw [Core.lastRun_finish hfinish]
            exact hfork
          have herase : (system.teardowns.map (Teardown.renumber fork)).erase
              (Teardown.mk (bump fork teardown.run) teardown.exit teardown.awaited) =
                (system.teardowns.erase teardown).map (Teardown.renumber fork) :=
            erase_map_teardown system.teardowns teardown
          simp only [herase]
          exact .of_eq hlast hagree.wake rfl

theorem onDeliver_matches :
    Move.Matches fork early system.onDeliver (system.renumber fork waiters records).onDeliver := by
  unfold onDeliver
  rw [queue_renumber]
  cases system.queue.deliver with
  | none => exact .blocked
  | some queue => exact .of_eq hfork hagree rfl

theorem onSettle_matches :
    Move.Matches fork early system.onSettle (system.renumber fork waiters records).onSettle := by
  unfold onSettle
  rw [queue_renumber, closing_renumber]
  split
  · exact .blocked
  · exact .of_eq hfork hagree rfl

theorem onAwait_matches (target : State) :
    Move.Matches fork early (system.onAwait target)
      ((system.renumber fork waiters records).onAwait target) := by
  unfold onAwait
  rw [isOpen_renumber]
  split
  · exact .blocked
  · exact .of_eq hfork (hagree.append _) rfl

theorem onLook_matches {index : Nat} (hindex : early ≤ index) :
    Move.Matches fork early (system.onLook index)
      ((system.renumber fork waiters records).onLook index) := by
  have hsame : (system.renumber fork waiters records).waiters[index]? = system.waiters[index]? :=
    hagree.getElem? hindex
  unfold onLook
  rw [isFree_renumber, hsame]
  split
  · exact .blocked
  cases hwaiter : system.waiters[index]? with
  | none => exact .blocked
  | some waiter =>
      obtain ⟨target, phase⟩ := waiter
      cases phase
      case entering | woken => exact .of_eq hfork (hagree.set hindex _) rfl
      all_goals exact .blocked

theorem onExpire_matches {index : Nat} (hindex : early ≤ index) :
    Move.Matches fork early (system.onExpire index)
      ((system.renumber fork waiters records).onExpire index) := by
  have hsame : (system.renumber fork waiters records).waiters[index]? = system.waiters[index]? :=
    hagree.getElem? hindex
  unfold onExpire
  rw [isFree_renumber, hsame]
  split
  · exact .blocked
  cases hwaiter : system.waiters[index]? with
  | none => exact .blocked
  | some waiter =>
      obtain ⟨target, phase⟩ := waiter
      cases phase
      case asleep | woken => exact .of_eq hfork (hagree.set hindex _) rfl
      all_goals exact .blocked

-- Disposal has to wait for the first callers as well.
theorem onDispose_matches (inside : Bool)
    (hwaiters : waiters.all hasReturned = system.waiters.all hasReturned) :
    Move.Matches fork early (system.onDispose inside)
      ((system.renumber fork waiters records).onDispose inside) := by
  have hsame : (system.renumber fork waiters records).waiters.all hasReturned =
      system.waiters.all hasReturned := hwaiters
  unfold onDispose
  rw [isOpen_renumber, windows_renumber, List.isEmpty_map, hsame, queue_renumber]
  split
  · exact .blocked
  · exact .of_eq hfork hagree rfl

theorem onDisposeRequest_matches :
    Move.Matches fork early system.onDisposeRequest
      (system.renumber fork waiters records).onDisposeRequest := by
  unfold onDisposeRequest
  rw [closing_renumber]
  cases hclosing : system.closing with
  | requesting inside =>
      have hrequest := @onRequest_matches _ _ _ _ records hfork hagree .graceful
      simp only
      generalize system.onRequest .graceful = move,
        (system.renumber fork waiters records).onRequest .graceful = other at hrequest ⊢
      cases hrequest with
      | blocked => exact .blocked
      | broken => exact .broken
      | moved halike =>
          exact .of_eq halike.fork_le halike.agree
            (congrArg (fun next : System => { next with closing := .waiting inside .entering })
              halike.same)
  | _ => exact .blocked

theorem onDisposeLook_matches :
    Move.Matches fork early system.onDisposeLook
      (system.renumber fork waiters records).onDisposeLook := by
  unfold onDisposeLook
  rw [isFree_renumber, closing_renumber]
  split
  · exact .blocked
  cases hclosing : system.closing with
  | waiting inside phase =>
      cases phase
      case entering | woken => exact .of_eq hfork hagree rfl
      all_goals exact .blocked
  | _ => exact .blocked

theorem onDisposeClose_matches :
    Move.Matches fork early system.onDisposeClose
      (system.renumber fork waiters records).onDisposeClose := by
  unfold onDisposeClose
  rw [closing_renumber]
  cases hclosing : system.closing with
  | waiting inside phase =>
      cases phase
      case returned => exact .of_eq hfork hagree rfl
      all_goals exact .blocked
  | _ => exact .blocked

theorem act_matches (action : Action) (hlate : action.isEarly early = false)
    (hwaiters : ∀ inside, action = .dispose inside →
      waiters.all hasReturned = system.waiters.all hasReturned) :
    Move.Matches fork early (system.act action)
      ((system.renumber fork waiters records).act (action.renumber fork)) := by
  cases action with
  | start => exact onStart_matches hfork hagree
  | fail run => exact onFail_matches hfork hagree run
  | attach run handle => exact onAttach_matches hfork hagree run handle
  | watch refusal => exact onWatch_matches hfork hagree refusal
  | takePending => exact onTakePending_matches hfork hagree
  | request signal =>
      simp only [Action.renumber, act]
      rw [isOpen_renumber]
      split
      · exact onRequest_matches hfork hagree signal
      · exact .blocked
  | conclude outcome => exact onConclude_matches hfork hagree outcome
  | send run source message => exact onSend_matches hfork hagree run source message
  | read run source => exact onRead_matches hfork hagree run source
  | announce run => exact onAnnounce_matches hfork hagree run
  | report run exit => exact onReport_matches hfork hagree run exit
  | teardown run => exact onTeardown_matches hfork hagree run
  | deliver => exact onDeliver_matches hfork hagree
  | settle => exact onSettle_matches hfork hagree
  | await target => exact onAwait_matches hfork hagree target
  | look index => exact onLook_matches hfork hagree (by simpa [Action.isEarly] using hlate)
  | expire index => exact onExpire_matches hfork hagree (by simpa [Action.isEarly] using hlate)
  | dispose inside => exact onDispose_matches hfork hagree inside (hwaiters inside rfl)
  | disposeRequest => exact onDisposeRequest_matches hfork hagree
  | disposeLook => exact onDisposeLook_matches hfork hagree
  | disposeClose => exact onDisposeClose_matches hfork hagree

end Moves

end System

end Overseer.Supervisor
