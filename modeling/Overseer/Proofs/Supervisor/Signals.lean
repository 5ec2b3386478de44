import Overseer.Proofs.Supervisor.Grammar

namespace Overseer.Supervisor

-- Which signals a run's process is sent, given what was requested while it was
-- spawned and what was requested after that.

def System.signalsTo (system : System) (id : Nat) : List Signal :=
  (system.signals.toList.filter fun sent => sent.1 = id).map Prod.snd

-- The process was installed and what was requested before is not yet looked at.
def System.isAttaching (system : System) (id : Nat) : Bool :=
  match system.lock with
  | some (.attaching run _) => run = id
  | _ => false

-- One signal stands for all requests that find no process.
def strongest (early : List Signal) : Option Signal :=
  if early = [] then none else if .force ∈ early then some .force else some .graceful

-- The first signal brings the process down on its own terms; after it only
-- force makes a difference.
def due (early late : List Signal) : List Signal :=
  match strongest early, late with
  | some signal, late => signal :: late.filter (· = .force)
  | none, [] => []
  | none, first :: later => first :: later.filter (· = .force)

theorem strongest_eq_none {early : List Signal} : strongest early = none ↔ early = [] := by
  unfold strongest
  split
  · simp_all
  · split <;> simp_all

theorem strongest_concat (early : List Signal) (signal : Signal) :
    strongest (early ++ [signal]) = some (Core.strengthen (strongest early) signal) := by
  unfold strongest
  cases signal with
  | force => simp [Core.strengthen]
  | graceful =>
      by_cases hnone : early = []
      · simp [hnone, Core.strengthen]
      · by_cases hforce : Signal.force ∈ early <;> simp [hnone, hforce, Core.strengthen]

theorem due_nil : due [] [] = [] := rfl

theorem due_early {early : List Signal} {signal : Signal} (h : strongest early = some signal) :
    due early [] = [signal] := by
  simp [due, h]

-- The first request is passed on as it is. After it only force adds a signal.
theorem due_concat (early late : List Signal) (signal : Signal) :
    due early (late ++ [signal]) = due early late ++
      if early ≠ [] ∨ late ≠ [] then [signal].filter (· = .force) else [signal] := by
  unfold due
  cases hearly : strongest early with
  | some first =>
      have hsome : early ≠ [] := by
        rw [Ne, ← strongest_eq_none, hearly]
        simp
      rw [if_pos (.inl hsome)]
      simp only [List.filter_append, List.cons_append]
  | none =>
      have hnone : early = [] := strongest_eq_none.mp hearly
      cases late with
      | nil => simp [hnone]
      | cons first later => simp [hnone]

example : due [] [.graceful, .graceful, .force] = [.graceful, .force] := rfl

theorem filter_force (signals : List Signal) :
    signals.filter (· = .force) = List.replicate (signals.count .force) .force := by
  rw [List.filter_eq]

-- At most one polite signal, and before all others.
theorem due_form (early late : List Signal) :
    ∃ polite forced, due early late = polite ++ List.replicate forced .force ∧
      (polite = [] ∨ polite = [.graceful]) := by
  have hcons : ∀ (signal : Signal) (count : Nat), ∃ polite forced,
      signal :: List.replicate count .force = polite ++ List.replicate forced .force ∧
        (polite = [] ∨ polite = [.graceful]) := by
    intro signal count
    cases signal with
    | graceful => exact ⟨[.graceful], count, rfl, .inr rfl⟩
    | force => exact ⟨[], count + 1, rfl, .inl rfl⟩
  unfold due
  split
  · rw [filter_force]
    exact hcons _ _
  · exact ⟨[], 0, rfl, .inl rfl⟩
  · rw [filter_force]
    exact hcons _ _

theorem signalsTo_sendSignal (system : System) (run id : Nat) (signal : Signal) :
    (system.sendSignal run signal).signalsTo id =
      system.signalsTo id ++ if run = id then [signal] else [] := by
  by_cases hrun : run = id <;> simp [System.signalsTo, System.sendSignal, hrun]

variable {config : Config} {actions : List Action} {steps : List Step} {system after : System}
  {action : Action} {id : Nat} {run : Run} {handle : Handle} {signal : Signal}

-- What holds of the requests for a run and the signals it was sent, from before
-- it is started until after it is over.
structure Served (id : Nat) (actions : List Action) (steps : List Step) (system : System) :
    Prop where
  unknown : system.core.lastRun < id →
    earlyRequests id steps = [] ∧ lateRequests id steps = [] ∧ system.signalsTo id = []
  -- Requests pile up until they are looked at.
  waiting : ∀ run, system.core.run = some run → run.id = id →
    run.handle = none ∨ system.isAttaching id = true →
    run.pending = strongest (earlyRequests id steps) ∧ lateRequests id steps = [] ∧
      system.signalsTo id = []
  served : (∃ handle, .attach id handle ∈ actions) → system.isAttaching id = false →
    system.signalsTo id = due (earlyRequests id steps) (lateRequests id steps)
  stopping : system.core.isAttached id = true → system.isAttaching id = false →
    (system.core.state = .stopping ↔ earlyRequests id steps ≠ [] ∨ lateRequests id steps ≠ [])

theorem Core.isAttached_iff {core : Core} :
    core.isAttached id = true ↔
      ∃ run, core.run = some run ∧ run.id = id ∧ ∃ handle, run.handle = some handle := by
  simp [isAttached, Option.any_eq_true, Option.isSome_iff_exists]

namespace Served

theorem initial (config : Config) (id : Nat) : Served id [] [] (System.new config) where
  unknown := fun _ => ⟨rfl, rfl, rfl⟩
  waiting := by simp [System.new, Core.initial]
  served := fun _ _ => rfl
  stopping := by simp [System.new, Core.initial, Core.isAttached]

-- A step that requests nothing of the run, sends it nothing and leaves it what
-- it waits for.
theorem keep (h : Served id actions steps system)
    (hrequests : earlyRequests id [⟨system, action, after⟩] = [] ∧
      lateRequests id [⟨system, action, after⟩] = [])
    (hattach : ∀ handle, action ≠ .attach id handle)
    (hlast : system.core.lastRun ≤ after.core.lastRun)
    (hrun : ∀ run, after.core.run = some run → run.id = id →
      ∃ old, system.core.run = some old ∧ old.id = id ∧ old.handle = run.handle ∧
        old.pending = run.pending ∧
        (after.core.state = .stopping ↔ system.core.state = .stopping))
    (hlock : after.isAttaching id = system.isAttaching id)
    (hsignals : after.signalsTo id = system.signalsTo id) :
    Served id (actions ++ [action]) (steps ++ [⟨system, action, after⟩]) after := by
  obtain ⟨hearly, hlate⟩ := hrequests
  have hearly : earlyRequests id (steps ++ [⟨system, action, after⟩]) = earlyRequests id steps := by
    rw [earlyRequests_concat, hearly, List.append_nil]
  have hlate : lateRequests id (steps ++ [⟨system, action, after⟩]) = lateRequests id steps := by
    rw [lateRequests_concat, hlate, List.append_nil]
  refine ⟨?_, ?_, ?_, ?_⟩
  · intro hid
    rw [hearly, hlate, hsignals]
    exact h.unknown (by omega)
  · intro run hafter hid hwaits
    obtain ⟨old, hsystem, hold, hhandle, hpending, -⟩ := hrun run hafter hid
    rw [hearly, hlate, hsignals, ← hpending]
    rw [hlock, ← hhandle] at hwaits
    exact h.waiting old hsystem hold hwaits
  · rintro ⟨handle, hmem⟩ hfree
    rw [hearly, hlate, hsignals]
    rw [hlock] at hfree
    refine h.served ⟨handle, ?_⟩ hfree
    rcases List.mem_append.mp hmem with hmem | hmem
    · exact hmem
    · exact absurd (List.mem_singleton.mp hmem).symm (hattach handle)
  · intro hattached hfree
    rw [hlock] at hfree
    obtain ⟨run, hafter, hid, handle, hhandle⟩ := Core.isAttached_iff.mp hattached
    obtain ⟨old, hsystem, hold, hsame, -, hstate⟩ := hrun run hafter hid
    rw [hearly, hlate, hstate]
    exact h.stopping (Core.isAttached_iff.mpr ⟨old, hsystem, hold, handle, hsame.trans hhandle⟩)
      hfree

-- A step that leaves the core, the lock and the signals alone.
theorem aside (h : Served id actions steps system)
    (hquiet : (Step.mk system action after).request? = none)
    (hattach : ∀ handle, action ≠ .attach id handle) (hcore : after.core = system.core)
    (hlock : after.lock = system.lock) (hsignals : after.signals = system.signals) :
    Served id (actions ++ [action]) (steps ++ [⟨system, action, after⟩]) after := by
  refine h.keep (requests_of_quiet hquiet) hattach (Nat.le_of_eq (by rw [hcore])) ?_ ?_ ?_
  · intro run hrun hid
    rw [hcore] at hrun
    exact ⟨run, hrun, hid, rfl, rfl, by rw [hcore]⟩
  · simp only [System.isAttaching, hlock]
  · simp only [System.signalsTo, hsignals]

theorem elsewhere (h : Served id actions steps system)
    (hattach : ∀ handle, action ≠ .attach id handle)
    (hlast : system.core.lastRun ≤ after.core.lastRun)
    (hbefore : ∀ run, system.core.run = some run → run.id ≠ id)
    (hafter : ∀ run, after.core.run = some run → run.id ≠ id)
    (hlock : after.isAttaching id = system.isAttaching id)
    (hsignals : after.signalsTo id = system.signalsTo id) :
    Served id (actions ++ [action]) (steps ++ [⟨system, action, after⟩]) after :=
  h.keep (requests_of_elsewhere hbefore) hattach hlast
    (fun run hrun hid => absurd hid (hafter run hrun)) hlock hsignals

end Served

end Overseer.Supervisor
