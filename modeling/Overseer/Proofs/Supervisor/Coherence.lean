import Overseer.Proofs.Supervisor.History
import Overseer.Proofs.Supervisor.Preservation

namespace Overseer.Supervisor

-- What a caller may rely on when it takes the lock, and why no part of an
-- operation ever finds the work of another part undone.

structure System.Coherent (system : System) : Prop where
  stopped : system.core.state = .stopped ↔ system.core.run = none
  current : ∀ run, system.core.run = some run → run.id = system.core.lastRun
  -- A run without a process belongs to one start call, which is between its
  -- two parts.
  spawning : ∀ run, system.core.run = some run → run.handle = none →
    system.core.state = .starting ∧ run.exited = false ∧ run.readers = [] ∧
      system.readers = [] ∧ system.windows = [run.id]
  windows : ∀ id ∈ system.windows,
    ∃ run, system.core.run = some run ∧ run.handle = none ∧ run.id = id
  pending : ∀ run, system.core.run = some run → run.handle ≠ none → run.pending = none
  exited : ∀ run, system.core.run = some run → run.exited = true → run.handle ≠ none

namespace Consistent

variable {system : System}

theorem coherent (h : Consistent system) (hlock : system.lock = none) : system.Coherent where
  stopped := h.stopped_iff
  current := h.current
  spawning := by
    intro run hrun hhandle
    have hspawning := h.spawning run hrun hhandle
    exact ⟨hspawning.state, hspawning.exited, hspawning.joined, hspawning.readers,
      hspawning.windows⟩
  windows := fun _ hid => h.window hid
  pending := by
    intro run hrun hsome
    obtain ⟨handle, hhandle⟩ := Option.ne_none_iff_exists'.mp hsome
    have hheld := (h.attached run handle hrun hhandle).held
    simp only [Held, hlock] at hheld
    exact hheld.2
  exited := by
    intro run hrun hexited hhandle
    simp [(h.spawning run hrun hhandle).exited] at hexited

theorem onAttach_ne_broken (h : Consistent system) (id : Nat) (handle : Handle)
    (violation : Violation) : system.onAttach id handle ≠ .broken violation := by
  unfold System.onAttach
  split
  · simp
  rename_i hguard
  have hwindow : id ∈ system.windows := by
    simp only [Bool.or_eq_true, Bool.not_eq_true', not_or, Bool.not_eq_false,
      List.contains_iff_mem] at hguard
    exact hguard.2
  obtain ⟨run, hrun, hhandle, hid⟩ := h.window hwindow
  rw [Core.attach_of_starting hrun hid (h.spawning run hrun hhandle).state]
  simp

theorem onRequest_ne_broken (h : Consistent system) (signal : Signal) (violation : Violation) :
    system.onRequest signal ≠ .broken violation := by
  unfold System.onRequest
  split
  · simp
  by_cases hidle : system.core.state = .stopped ∨
      system.core.state = .stopping ∧ signal = .graceful
  · rw [Core.request_of_idle hidle]
    simp
  obtain ⟨hactive, hnew⟩ := not_or.mp hidle
  cases hrun : system.core.run with
  | none => exact absurd (h.stopped_iff.mpr hrun) hactive
  | some run =>
      cases hhandle : run.handle with
      | none =>
          rw [Core.request_of_spawning hrun hhandle hactive hnew]
          simp
      | some handle =>
          rw [Core.request_of_attached hrun hhandle hactive hnew]
          simp

theorem onConclude_ne_broken (h : Consistent system) (outcome : Except Fault Unit)
    (violation : Violation) : system.onConclude outcome ≠ .broken violation := by
  unfold System.onConclude
  split
  · rename_i id signal hlock
    obtain ⟨run, handle, hrun, hhandle, -⟩ := h.lock_owner (by simp [hlock])
    have hok : ∃ events, system.core.concluded outcome = .ok events := by
      cases outcome with
      | ok => exact ⟨[], by simp [Core.concluded, hrun, hhandle]⟩
      | error fault =>
          cases hexited : run.exited with
          | true => exact ⟨[], by simp [Core.concluded, hrun, hhandle, hexited]⟩
          | false =>
              exact ⟨[refusedLine fault], by simp [Core.concluded, hrun, hhandle, hexited]⟩
    obtain ⟨events, hevents⟩ := hok
    rw [hevents]
    simp
  · simp

theorem onAnnounce_ne_broken (h : Consistent system) (id : Nat) (violation : Violation) :
    system.onAnnounce id ≠ .broken violation := by
  unfold System.onAnnounce
  split
  · simp
  split
  · simp
  rename_i thread hfind
  split
  · simp
  rename_i htold
  obtain ⟨hmem, hid, -⟩ := System.findReader_eq_some hfind
  obtain ⟨run, handle, hrun, -, hattached⟩ := h.reader_owner hmem
  have howner : run.id = id := (hattached.fits thread hmem).owner.symm.trans hid
  have hready : ∃ next, system.core.ready id = .ok next := by
    cases hstate : system.core.state with
    | starting =>
        exact ⟨if run.exited then none else some { system.core with state := .running },
          by simp [Core.ready, hrun, howner, hstate]⟩
    | stopping => exact ⟨none, by simp [Core.ready, hrun, howner, hstate]⟩
    | running => simp [(hattached.settled hstate thread hmem).2] at htold
    | stopped => simp [h.stopped_iff.mp hstate] at hrun
  obtain ⟨next, hnext⟩ := hready
  simp only [hnext]
  cases next <;> simp

theorem onTeardown_ne_broken (h : Consistent system) (id : Nat) (violation : Violation) :
    system.onTeardown id ≠ .broken violation := by
  unfold System.onTeardown
  split
  · simp
  split
  · simp
  rename_i teardown hfind
  split
  · simp
  obtain ⟨run, -, hrun, -⟩ := h.teardown_owner (List.mem_of_find?_eq_some hfind)
  simp only [Core.finish, hrun]
  simp

theorem onDisposeRequest_ne_broken (h : Consistent system) (violation : Violation) :
    system.onDisposeRequest ≠ .broken violation := by
  unfold System.onDisposeRequest
  split
  · intro hbroken
    split at hbroken
    · cases hbroken
    · exact h.onRequest_ne_broken .graceful violation hbroken
  · simp

theorem act_ne_broken (h : Consistent system) (action : Action) (violation : Violation) :
    system.act action ≠ .broken violation := by
  cases action with
  | attach id handle => exact h.onAttach_ne_broken id handle violation
  | request signal =>
      simp only [System.act]
      split
      · exact h.onRequest_ne_broken signal violation
      · simp
  | conclude outcome => exact h.onConclude_ne_broken outcome violation
  | announce id => exact h.onAnnounce_ne_broken id violation
  | teardown id => exact h.onTeardown_ne_broken id violation
  | disposeRequest => exact h.onDisposeRequest_ne_broken violation
  | _ =>
      -- The other operations look for nothing that another one could have taken.
      simp only [System.act, System.onStart, System.onFail, System.onWatch,
        System.onTakePending, System.onSend, System.onRead, System.onReport, System.onDeliver,
        System.onSettle, System.onAwait, System.onLook, System.onExpire, System.onDispose,
        System.onDisposeLook, System.onDisposeClose]
      repeat' split
      all_goals simp

theorem fail_removes (h : Consistent system) {id : Nat} {after : System}
    (hact : system.act (.fail id) = .moved after) :
    ∃ run, system.core.run = some run ∧ run.id = id ∧ run.handle = none ∧
      after.core.run = none := by
  cases System.transition_of_act hact with
  | failed hlock hwindow =>
      obtain ⟨run, hrun, hhandle, hid⟩ := h.window hwindow
      exact ⟨run, hrun, hid, hhandle, rfl⟩

theorem teardown_removes (h : Consistent system) {id : Nat} {after : System}
    (hact : system.act (.teardown id) = .moved after) :
    ∃ run, system.core.run = some run ∧ run.id = id ∧ run.exited = true ∧
      after.core.run = none := by
  cases System.transition_of_act hact with
  | tornDown hlock hfind hjoined hrun =>
      obtain ⟨run, -, howner, -, hid, hexited, -⟩ := h.joined hfind hjoined
      exact ⟨run, howner, hid, hexited, rfl⟩

end Consistent

-- Whoever takes the lock finds a coherent core, no operation is ever broken off,
-- and the two operations that close a run without asking for its number close
-- the run that they were called for.
theorem coherent_and_unbroken {config : Config} {actions : List Action} {system : System}
    (h : Execution config actions system) :
    (system.lock = none → system.Coherent) ∧
    (∀ action violation, system.act action ≠ .broken violation) ∧
    (∀ id after, system.act (.fail id) = .moved after →
      ∃ run, system.core.run = some run ∧ run.id = id ∧ run.handle = none ∧
        after.core.run = none) ∧
    (∀ id after, system.act (.teardown id) = .moved after →
      ∃ run, system.core.run = some run ∧ run.id = id ∧ run.exited = true ∧
        after.core.run = none) :=
  ⟨h.consistent.coherent, h.consistent.act_ne_broken, fun _ _ => h.consistent.fail_removes,
    fun _ _ => h.consistent.teardown_removes⟩

-- A request that comes while the process is spawned.
theorem coherent_and_unbroken_in_spawn :
    ∃ system, Execution .default [.start, .request .graceful] system ∧
      system.lock = none ∧ system.Coherent ∧
      (∀ action violation, system.act action ≠ .broken violation) ∧
      (∀ id after, system.act (.fail id) = .moved after →
        ∃ run, system.core.run = some run ∧ run.id = id ∧ run.handle = none ∧
          after.core.run = none) ∧
      (∀ id after, system.act (.teardown id) = .moved after →
        ∃ run, system.core.run = some run ∧ run.id = id ∧ run.exited = true ∧
          after.core.run = none) := by
  have hexecution : Execution .default [.start, .request .graceful] _ := .of_actAll rfl
  obtain ⟨hcoherent, hrest⟩ := coherent_and_unbroken hexecution
  exact ⟨_, hexecution, rfl, hcoherent rfl, hrest⟩

end Overseer.Supervisor
