import Overseer.Proofs.Supervisor.Signals

namespace Overseer.Supervisor

-- Every request for a run is answered with the signals that are due for it.

variable {config : Config} {actions : List Action} {steps : List Step} {system next after : System}
  {action : Action} {id : Nat} {run : Run} {handle : Handle} {signal : Signal}

theorem System.isAttaching_of_none (h : system.lock = none) (id : Nat) :
    system.isAttaching id = false := by
  simp [isAttaching, h]

theorem System.lock_of_isAttaching (h : system.isAttaching id = true) :
    ∃ unread, system.lock = some (.attaching id unread) := by
  unfold isAttaching at h
  split at h
  · rename_i owner unread hlock
    obtain rfl : owner = id := by simpa using h
    exact ⟨unread, hlock⟩
  · cases h

theorem System.isAttaching_of_signalling {other : Nat}
    (h : system.lock = some (.signalling other signal)) : system.isAttaching id = false := by
  simp [isAttaching, h]

-- The run that is there keeps its number and process through a request.
theorem Requesting.run_id (hstep : Requesting system signal after)
    (h : ∀ run, system.core.run = some run → run.id ≠ id) :
    ∀ run, after.core.run = some run → run.id ≠ id := by
  intro run hrun
  have hstanding := hstep.standing.1
  simp only [Core.standing, hrun, Option.map_some] at hstanding
  obtain ⟨old, hold, hpair⟩ := Option.map_eq_some_iff.mp hstanding.symm
  rw [← (Prod.mk.inj hpair).1]
  exact h old hold

theorem Requesting.lock_free (hstep : Requesting system signal after) (id : Nat) :
    system.lock = none ∧ after.isAttaching id = false := by
  cases hstep with
  | ignored hlock => exact ⟨hlock, System.isAttaching_of_none hlock id⟩
  | recorded hlock => exact ⟨hlock, System.isAttaching_of_none hlock id⟩
  | entered hlock => exact ⟨hlock, rfl⟩
  | repeated hlock => exact ⟨hlock, rfl⟩

theorem Requesting.signalsTo (hstep : Requesting system signal after)
    (h : ∀ run, system.core.run = some run → run.id ≠ id) :
    after.signalsTo id = system.signalsTo id := by
  cases hstep with
  | ignored => rfl
  | recorded => rfl
  | entered hlock hrun =>
      rw [signalsTo_sendSignal, if_neg (h _ hrun), List.append_nil]
      rfl
  | repeated hlock hrun => rw [signalsTo_sendSignal, if_neg (h _ hrun), List.append_nil]

-- A run that has its process is stopping after a request, and the first request
-- is passed on to the process as it is.
theorem Requesting.attached (hstep : Requesting system signal after)
    (hconsistent : Consistent system) (hrun : system.core.run = some run)
    (hhandle : run.handle = some handle) :
    after.core.state = .stopping ∧
      after.signalsTo run.id = system.signalsTo run.id ++
        if system.core.state = .stopping then [signal].filter (· = .force) else [signal] := by
  cases hstep with
  | ignored _ hidle =>
      obtain ⟨hstate, rfl⟩ : system.core.state = .stopping ∧ signal = .graceful := by
        refine hidle.resolve_left fun hstopped => ?_
        simp [hconsistent.stopped_iff.mp hstopped] at hrun
      exact ⟨hstate, by simp [hstate]⟩
  | recorded _ hrun' hnone =>
      obtain rfl := Option.some.inj (hrun.symm.trans hrun')
      simp [hhandle] at hnone
  | entered _ hrun' _ hstate =>
      obtain rfl := Option.some.inj (hrun.symm.trans hrun')
      have hnew : system.core.state ≠ .stopping := by
        rcases hstate with hstate | hstate <;> simp [hstate]
      refine ⟨rfl, ?_⟩
      rw [signalsTo_sendSignal, if_pos rfl, if_neg hnew]
      rfl
  | repeated _ hrun' _ hstate hforce =>
      obtain rfl := Option.some.inj (hrun.symm.trans hrun')
      subst hforce
      refine ⟨hstate, ?_⟩
      rw [signalsTo_sendSignal, if_pos rfl, if_pos hstate]
      rfl

namespace Served

-- A run whose process is there and was given what waited for it.
theorem of_attached (run : Run) (hlast : id ≤ system.core.lastRun)
    (hrun : system.core.run = some run)
    (hhandle : run.handle = some handle) (hfree : system.isAttaching id = false)
    (hserved : (∃ handle, .attach id handle ∈ actions) →
      system.signalsTo id = due (earlyRequests id steps) (lateRequests id steps))
    (hstate : system.core.state = .stopping ↔
      earlyRequests id steps ≠ [] ∨ lateRequests id steps ≠ []) :
    Served id actions steps system where
  unknown := fun hlt => absurd hlt (Nat.not_lt.mpr hlast)
  waiting := by
    intro other hother _ hwaits
    obtain rfl := Option.some.inj (hrun.symm.trans hother)
    simp [hhandle, hfree] at hwaits
  served := fun hattached _ => hserved hattached
  stopping := fun _ _ => hstate

theorem early (h : Served id actions steps system) (hconsistent : Consistent system)
    (hrun : system.core.run = some run) (hid : run.id = id) (hhandle : run.handle = none)
    (hunattached : ∀ handle, .attach id handle ∉ actions ++ [action])
    (hstep : Requesting system signal after)
    (hrequest : (Step.mk system action after).request? = some signal) :
    Served id (actions ++ [action]) (steps ++ [⟨system, action, after⟩]) after := by
  have hspawning := hconsistent.spawning run hrun hhandle
  obtain ⟨hearly, hlate⟩ := requests_of_spawning ⟨system, action, after⟩ hrun hid hhandle
    hrequest
  obtain ⟨hpending, hnone, hsent⟩ := h.waiting run hrun hid (.inl hhandle)
  cases hstep with
  | ignored _ hidle => simp [hspawning.state] at hidle
  | entered _ hrun' hsome =>
      obtain rfl := Option.some.inj (hrun.symm.trans hrun')
      simp [hhandle] at hsome
  | repeated _ hrun' hsome =>
      obtain rfl := Option.some.inj (hrun.symm.trans hrun')
      simp [hhandle] at hsome
  | recorded hlock hrun' =>
      obtain rfl := Option.some.inj (hrun.symm.trans hrun')
      refine ⟨?_, ?_, ?_, ?_⟩
      · intro hlt
        have hcurrent := hconsistent.current run hrun
        have hlt : system.core.lastRun < id := hlt
        omega
      · intro changed hchanged _ _
        cases hchanged
        rw [earlyRequests_concat, lateRequests_concat, hearly, hlate, hnone, strongest_concat,
          hpending]
        exact ⟨rfl, rfl, hsent⟩
      · rintro ⟨handle, hmem⟩
        exact absurd hmem (hunattached handle)
      · intro hattached
        simp [Core.isAttached, hhandle] at hattached

theorem late (h : Served id actions steps system) (hconsistent : Consistent system)
    (hrun : system.core.run = some run) (hid : run.id = id) (hhandle : run.handle = some handle)
    (hattach : ∀ handle, action ≠ .attach id handle) (hstep : Requesting system signal after)
    (hrequest : (Step.mk system action after).request? = some signal) :
    Served id (actions ++ [action]) (steps ++ [⟨system, action, after⟩]) after := by
  obtain ⟨hearly, hlate⟩ := requests_of_attached ⟨system, action, after⟩ hrun hid hhandle
    hrequest
  have hearly : earlyRequests id (steps ++ [⟨system, action, after⟩]) = earlyRequests id steps := by
    rw [earlyRequests_concat, hearly, List.append_nil]
  have hlate : lateRequests id (steps ++ [⟨system, action, after⟩]) =
      lateRequests id steps ++ [signal] := by
    rw [lateRequests_concat, hlate]
  have hlock : system.lock = none := (hstep.lock_free id).1
  have hfree := System.isAttaching_of_none hlock id
  have hmem : (∃ handle, .attach id handle ∈ actions ++ [action]) →
      ∃ handle, .attach id handle ∈ actions := by
    rintro ⟨handle, hmem⟩
    rcases List.mem_append.mp hmem with hmem | hmem
    · exact ⟨handle, hmem⟩
    · exact absurd (List.mem_singleton.mp hmem).symm (hattach handle)
  -- The state tells whether this is the first request, which is what `due` goes by.
  have hstopping := h.stopping (Core.isAttached_iff.mpr ⟨run, hrun, hid, handle, hhandle⟩) hfree
  obtain ⟨hstate, hsignals⟩ := hstep.attached hconsistent hrun hhandle
  rw [hid] at hsignals
  have hsent : (∃ handle, .attach id handle ∈ actions ++ [action]) →
      after.signalsTo id = due (earlyRequests id steps) (lateRequests id steps ++ [signal]) := by
    intro hattached
    rw [hsignals, h.served (hmem hattached) hfree, due_concat]
    simp only [hstopping]
  have hstanding := hstep.standing.1
  rw [Core.standing_of_attached hrun hhandle] at hstanding
  obtain ⟨changed, hchanged, hpair⟩ := Option.map_eq_some_iff.mp hstanding
  have hcurrent := hconsistent.current run hrun
  refine of_attached changed ?_ hchanged (Prod.mk.inj hpair).2 (hstep.lock_free id).2 ?_ ?_
  · rw [hstep.standing.2]
    omega
  · rw [hearly, hlate]
    exact hsent
  · rw [hlate]
    simp [hstate]

theorem requesting (h : Served id actions steps system) (hconsistent : Consistent system)
    (hunattached : system.core.isSpawning id = true → ∀ handle, .attach id handle ∉ actions)
    (hattach : ∀ handle, action ≠ .attach id handle) (hstep : Requesting system signal after)
    (hrequest : (Step.mk system action after).request? = some signal) :
    Served id (actions ++ [action]) (steps ++ [⟨system, action, after⟩]) after := by
  by_cases hcurrent : ∃ run, system.core.run = some run ∧ run.id = id
  · obtain ⟨run, hrun, hid⟩ := hcurrent
    cases hhandle : run.handle with
    | none =>
        refine h.early hconsistent hrun hid hhandle (fun handle hmem => ?_) hstep hrequest
        rcases List.mem_append.mp hmem with hmem | hmem
        · exact hunattached (by simp [Core.isSpawning, hrun, hid, hhandle]) handle hmem
        · exact hattach handle (List.mem_singleton.mp hmem).symm
    | some handle => exact h.late hconsistent hrun hid hhandle hattach hstep hrequest
  · have hbefore : ∀ run, system.core.run = some run → run.id ≠ id :=
      fun run hrun hid => hcurrent ⟨run, hrun, hid⟩
    obtain ⟨hlock, hfree⟩ := hstep.lock_free id
    exact h.elsewhere hattach (Nat.le_of_eq hstep.standing.2.symm) hbefore (hstep.run_id hbefore)
      (hfree.trans (System.isAttaching_of_none hlock id).symm) (hstep.signalsTo hbefore)

-- What comes after a step only matters by the core, the lock and the signals.
theorem congr (h : Served id actions (steps ++ [⟨system, action, next⟩]) next)
    (hcore : after.core = next.core) (hlock : after.lock = next.lock)
    (hsignals : after.signals = next.signals) :
    Served id actions (steps ++ [⟨system, action, after⟩]) after := by
  have hearly : earlyRequests id (steps ++ [⟨system, action, after⟩]) =
      earlyRequests id (steps ++ [⟨system, action, next⟩]) := by
    rw [earlyRequests_concat, earlyRequests_concat]
    rfl
  have hlate : lateRequests id (steps ++ [⟨system, action, after⟩]) =
      lateRequests id (steps ++ [⟨system, action, next⟩]) := by
    rw [lateRequests_concat, lateRequests_concat]
    rfl
  have hfree : after.isAttaching id = next.isAttaching id := by
    simp only [System.isAttaching, hlock]
  have hsent : after.signalsTo id = next.signalsTo id := by
    simp only [System.signalsTo, hsignals]
  refine ⟨?_, ?_, ?_, ?_⟩ <;> rw [hearly, hlate]
  · rw [hcore, hsent]
    exact h.unknown
  · rw [hcore, hsent, hfree]
    exact h.waiting
  · rw [hsent, hfree]
    exact h.served
  · rw [hcore, hfree]
    exact h.stopping

-- A run is opened. Nobody has asked anything of it.
theorem begin (h : Served id actions steps system)
    (hnone : system.core.run = none)
    (hcore : after.core = ⟨.starting, some ⟨system.core.lastRun + 1, none, [], none, false⟩,
      system.core.lastRun + 1⟩)
    (hlock : after.isAttaching id = system.isAttaching id)
    (hsignals : after.signalsTo id = system.signalsTo id) :
    Served id (actions ++ [.start]) (steps ++ [⟨system, .start, after⟩]) after := by
  by_cases hid : system.core.lastRun + 1 = id
  · obtain ⟨hnoEarly, hnoLate, hnoSignal⟩ := h.unknown (by omega)
    obtain ⟨hearly, hlate⟩ :=
      requests_concat_of_quiet id steps ⟨system, .start, after⟩ rfl
    rw [hnoEarly] at hearly
    rw [hnoLate] at hlate
    rw [hnoSignal] at hsignals
    refine ⟨?_, ?_, ?_, ?_⟩
    · intro hlt
      simp only [hcore] at hlt
      omega
    · intro run hrun _ _
      simp only [hcore, Option.some.injEq] at hrun
      rw [hearly, hlate, hsignals, ← hrun]
      exact ⟨rfl, rfl, rfl⟩
    · intro _ _
      rw [hearly, hlate, hsignals, due_nil]
    · intro hattached
      simp [Core.isAttached, hcore] at hattached
  · refine h.elsewhere (by simp) ?_ (by simp [hnone]) ?_ hlock hsignals
    · rw [hcore]
      exact Nat.le_succ _
    · intro run hrun
      simp only [hcore, Option.some.injEq] at hrun
      rw [← hrun]
      exact hid

-- The process is installed. What was requested before still waits.
theorem attach (h : Served id actions steps system) {other : Nat} {unread : List Source}
    (hconsistent : Consistent system)
    (hrun : system.core.run = some run) (hid : run.id = other) (hhandle : run.handle = none)
    (hcore : after.core = { system.core with run := some { run with handle := some handle } })
    (hlock : after.lock = some (.attaching other unread))
    (hsignals : after.signalsTo id = system.signalsTo id) :
    Served id (actions ++ [.attach other handle])
      (steps ++ [⟨system, .attach other handle, after⟩]) after := by
  by_cases hsame : other = id
  · subst hsame
    obtain ⟨hearly, hlate⟩ := requests_concat_of_quiet other steps
      ⟨system, .attach other handle, after⟩ rfl
    have hbusy : after.isAttaching other = true := by simp [System.isAttaching, hlock]
    refine ⟨?_, ?_, ?_, ?_⟩
    · intro hlt
      have hcurrent := hconsistent.current run hrun
      simp only [hcore] at hlt
      omega
    · intro changed hchanged _ _
      simp only [hcore, Option.some.injEq] at hchanged
      rw [hearly, hlate, hsignals, ← hchanged]
      exact h.waiting run hrun hid (.inl hhandle)
    · intro _ hfree
      simp [hbusy] at hfree
    · intro _ hfree
      simp [hbusy] at hfree
  · refine h.elsewhere (fun handle' heq => ?_) (Nat.le_of_eq (by rw [hcore])) ?_ ?_ ?_ hsignals
    · cases heq
      exact hsame rfl
    · intro run' hrun'
      obtain rfl := Option.some.inj (hrun.symm.trans hrun')
      rwa [hid]
    · intro changed hchanged
      simp only [hcore, Option.some.injEq] at hchanged
      rw [← hchanged]
      simpa [hid] using hsame
    · rw [System.isAttaching_of_none (hconsistent.spawning run hrun hhandle).lock id]
      simp [System.isAttaching, hlock, hsame]

-- What was requested before is looked at, whether there is something or not.
theorem look (h : Served id actions steps system) (hconsistent : Consistent system)
    (hstep : Transition system .takePending after) :
    Served id (actions ++ [.takePending]) (steps ++ [⟨system, .takePending, after⟩]) after := by
  obtain ⟨other, hlock⟩ : ∃ other, system.lock = some (.attaching other []) := by
    cases hstep with
    | letGo hlock => exact ⟨_, hlock⟩
    | takenUp hlock => exact ⟨_, hlock⟩
  obtain ⟨run, handle, hrun, hhandle, hid, hstate, -⟩ := hconsistent.attaching hlock
  have hcurrent := hconsistent.current run hrun
  obtain ⟨hearly, hlate⟩ := requests_concat_of_quiet id steps
    ⟨system, .takePending, after⟩ rfl
  by_cases hsame : other = id
  · have hbusy : system.isAttaching id = true := by simp [System.isAttaching, hlock, hsame]
    obtain ⟨hpending, hnoLate, hnoSignal⟩ := h.waiting run hrun (hid.trans hsame) (.inr hbusy)
    rw [hnoLate] at hlate
    cases hstep with
    | letGo _ htake =>
        have hnoEarly : earlyRequests id steps = [] := by
          rw [← strongest_eq_none, ← hpending]
          cases hrunPending : run.pending with
          | none => rfl
          | some signal => simp [Core.takePending, hrun, hrunPending] at htake
        rw [hnoEarly] at hearly
        have hlast : id ≤ system.core.lastRun := by omega
        refine of_attached run hlast hrun hhandle rfl (fun _ => ?_) ?_
        · rw [hearly, hlate, due_nil]
          exact hnoSignal
        · rw [hearly, hlate]
          simp [hstate]
    | @takenUp owner run' signal hlock' hrun' hsignal =>
        obtain rfl := Option.some.inj (hrun.symm.trans hrun')
        have hother : other = owner := by simpa [hlock] using hlock'
        have hstrongest : strongest (earlyRequests id steps) = some signal :=
          hpending.symm.trans hsignal
        have hsome : earlyRequests id steps ≠ [] := by
          rw [Ne, ← strongest_eq_none, hstrongest]
          simp
        refine of_attached { run with pending := none } ?_ rfl hhandle rfl (fun _ => ?_) ?_
        · show id ≤ system.core.lastRun
          omega
        · rw [hearly, hlate, due_early hstrongest, signalsTo_sendSignal, if_pos (by omega)]
          exact congrArg (· ++ [signal]) hnoSignal
        · rw [hearly]
          simp [hsome, System.sendSignal, System.entered, System.put, System.notifyAll]
  · have hbefore : ∀ run, system.core.run = some run → run.id ≠ id := by
      intro run' hrun'
      obtain rfl := Option.some.inj (hrun.symm.trans hrun')
      rwa [hid]
    have hfree : system.isAttaching id = false := by simp [System.isAttaching, hlock, hsame]
    cases hstep with
    | letGo =>
        exact h.elsewhere (by simp) (Nat.le_refl _) hbefore hbefore hfree.symm rfl
    | @takenUp owner run' signal hlock' hrun' =>
        obtain rfl := Option.some.inj (hrun.symm.trans hrun')
        have hother : other = owner := by simpa [hlock] using hlock'
        refine h.elsewhere (by simp) (Nat.le_refl _) hbefore ?_ hfree.symm ?_
        · intro changed hchanged
          cases hchanged
          exact hbefore run hrun
        · rw [signalsTo_sendSignal, if_neg (by omega), List.append_nil]
          rfl

theorem transition (h : Served id actions steps system) (hconsistent : Consistent system)
    (hunattached : system.core.isSpawning id = true → ∀ handle, .attach id handle ∉ actions)
    (hread : ∀ reason, action ≠ .watch (some reason)) (hstep : Transition system action after) :
    Served id (actions ++ [action]) (steps ++ [⟨system, action, after⟩]) after := by
  cases hstep with
  | begun hlock hopen hstopped =>
      exact h.begin (hconsistent.stopped_iff.mp hstopped) rfl rfl rfl
  | failed hlock hwindow =>
      refine h.keep (requests_of_quiet rfl) (by simp) (Nat.le_refl _) ?_ rfl rfl
      intro run hrun
      cases hrun
  | attached hlock hwindow hrun hid hstate =>
      obtain ⟨run', hrun', hhandle, -⟩ := hconsistent.window hwindow
      obtain rfl := Option.some.inj (hrun.symm.trans hrun')
      exact h.attach hconsistent hrun hid hhandle rfl rfl rfl
  | watched hlock =>
      obtain ⟨run, handle, hrun, -⟩ := hconsistent.attaching hlock
      refine h.keep (requests_of_quiet rfl) (by simp) (Nat.le_refl _) ?_ ?_ rfl
      · intro changed hchanged hid
        obtain rfl : _ = changed := by simpa [Core.addReader, hrun] using hchanged
        exact ⟨run, hrun, hid, rfl, rfl, Iff.rfl⟩
      · simp [System.isAttaching, hlock]
  | unwatched => exact absurd rfl (hread _)
  | letGo hlock htake => exact h.look hconsistent (.letGo hlock htake)
  | takenUp hlock hrun hpending => exact h.look hconsistent (.takenUp hlock hrun hpending)
  | requested hopen hrequest => exact h.requesting hconsistent hunattached (by simp) hrequest rfl
  | disposeRequested hclosing hrequest =>
      have hnext : Served id (actions ++ [.disposeRequest])
          (steps ++ [⟨system, .disposeRequest, _⟩]) _ :=
        h.requesting hconsistent hunattached (by simp) hrequest rfl
      exact hnext.congr rfl rfl rfl
  | concluded hlock =>
      refine h.keep (requests_of_quiet rfl) (by simp) (Nat.le_refl _) ?_ ?_ rfl
      · exact fun run hrun hid => ⟨run, hrun, hid, rfl, rfl, Iff.rfl⟩
      · rw [System.isAttaching_of_signalling hlock]
        rfl
  | announced hlock hfind hannouncing hrun hid hexited hstate =>
      refine h.keep (requests_of_quiet rfl) (by simp) (Nat.le_refl _) ?_ rfl rfl
      intro run hafter hid
      refine ⟨run, hafter, hid, rfl, rfl, ?_⟩
      simp [hstate, System.entered, System.put, System.notifyAll]
  | reported hlock hreport hrun hid hexited =>
      refine h.keep (requests_of_quiet rfl) (by simp) (Nat.le_refl _) ?_ rfl rfl
      intro changed hchanged hid
      cases hchanged
      exact ⟨_, hrun, hid, rfl, rfl, Iff.rfl⟩
  | tornDown =>
      refine h.keep (requests_of_quiet rfl) (by simp) (Nat.le_refl _) ?_ rfl rfl
      intro run hrun
      cases hrun
  | _ => exact h.aside rfl (by simp) rfl rfl rfl

end Served

theorem Execution.serves (h : Execution config actions system)
    (hread : ∀ reason, .watch (some reason) ∉ actions) (id : Nat) :
    Served id actions (history config actions) system := by
  induction h with
  | initial => exact .initial config id
  | @step actions before after action hbefore hact ih =>
      have hserved := ih fun reason hmem => hread reason (List.mem_append_left _ hmem)
      rw [hbefore.history_concat hact]
      refine hserved.transition hbefore.consistent
        (fun hspawning => hbefore.unattached (Core.standing_of_isSpawning hspawning))
        (fun reason heq => hread reason ?_) (System.transition_of_act hact)
      rw [← heq]
      simp

-- The state comes before the signal.

theorem Requesting.signalled (hstep : Requesting system signal after)
    (hchanged : after.signalsTo id ≠ system.signalsTo id) :
    after.core.state = .stopping ∧ ∃ handle, after.core.standing = some (id, some handle) := by
  cases hstep with
  | ignored => exact absurd rfl hchanged
  | recorded => exact absurd rfl hchanged
  | @entered run handle hlock hrun hhandle =>
      refine ⟨rfl, handle, ?_⟩
      have hid : run.id = id := by
        refine Decidable.byContradiction fun hne => hchanged ?_
        rw [signalsTo_sendSignal, if_neg hne, List.append_nil]
        rfl
      rw [← hid]
      exact Core.standing_of_attached hrun hhandle
  | @repeated run handle hlock hrun hhandle hstate =>
      refine ⟨hstate, handle, ?_⟩
      have hid : run.id = id := by
        refine Decidable.byContradiction fun hne => hchanged ?_
        rw [signalsTo_sendSignal, if_neg hne, List.append_nil]
      rw [← hid]
      exact Core.standing_of_attached hrun hhandle

theorem Consistent.signalled (h : Consistent system) (hstep : Transition system action after)
    (hchanged : after.signalsTo id ≠ system.signalsTo id) :
    after.core.state = .stopping ∧ ∃ handle, after.core.standing = some (id, some handle) := by
  cases hstep with
  | requested hopen hrequest => exact hrequest.signalled hchanged
  | disposeRequested hclosing hrequest => exact hrequest.signalled hchanged
  | @takenUp owner run signal hlock hrun hpending =>
      obtain ⟨run', handle, hrun', hhandle, hid, -⟩ := h.attaching hlock
      obtain rfl := Option.some.inj (hrun.symm.trans hrun')
      have howner : owner = id := by
        refine Decidable.byContradiction fun hne => hchanged ?_
        rw [signalsTo_sendSignal, if_neg hne, List.append_nil]
        rfl
      refine ⟨rfl, handle, ?_⟩
      rw [← howner, ← hid]
      simp [Core.standing, System.sendSignal, System.entered, System.put, System.notifyAll, hhandle]
  | _ => exact absurd rfl hchanged

theorem Execution.told_to_stop (h : Execution config actions system)
    (hstanding : system.core.standing = some (id, some handle))
    (hstate : system.core.state = .stopping) :
    ⟨some id, .supervisor, .stateChanged .stopping⟩ ∈ notices (history config actions) := by
  obtain ⟨closed, body, hchronicle⟩ := h.chronicle
  have hbody := hchronicle.current id handle hstanding
  have hmem : .stateChanged .stopping ∈ body := by
    rcases hbody.split with ⟨hne, -⟩ | ⟨-, early, rest, earlier, rfl, -⟩
    · exact absurd hstate hne
    · simp
  rw [hchronicle.told, Core.openChapter_of_attached hstanding]
  refine List.mem_flatMap.mpr ⟨⟨id, handle, body, none⟩, by simp, ?_⟩
  refine List.mem_map.mpr ⟨.stateChanged .stopping, ?_, rfl⟩
  simp [Chapter.events, hmem]

-- No signal goes out before the observer is told that the run is stopping.
theorem Execution.told_before_signalled (h : Execution config actions system)
    (hsignals : system.signalsTo id ≠ []) :
    ⟨some id, .supervisor, .stateChanged .stopping⟩ ∈ notices (history config actions) := by
  induction h with
  | initial => exact absurd rfl hsignals
  | @step actions before after action hbefore hact ih =>
      -- A step that sends something new leaves the run stopping, so what was told of that state
      -- is there already.
      by_cases hsame : after.signalsTo id = before.signalsTo id
      · rw [hsame] at hsignals
        rw [hbefore.history_concat hact, notices_concat]
        exact List.mem_append_left _ (ih hsignals)
      · obtain ⟨hstate, handle, hstanding⟩ :=
          hbefore.consistent.signalled (System.transition_of_act hact) hsame
        exact Execution.told_to_stop (.step hbefore hact) hstanding hstate

-- No request is lost and no signal is made up. What a run's process is sent is
-- what its requests make due: one signal for all that came before the process
-- did or else the first that came after, and then one for every later force.
-- It is sent after the observer was told, and the run is stopping from its
-- first request on.
theorem requests_are_served (h : Execution config actions system)
    (hread : ∀ reason, .watch (some reason) ∉ actions)
    (hattached : .attach id handle ∈ actions) :
    (system.signalsTo id =
      if system.isAttaching id then []
      else due (earlyRequests id (history config actions))
        (lateRequests id (history config actions))) ∧
    (∃ polite forced, system.signalsTo id = polite ++ List.replicate forced .force ∧
      (polite = [] ∨ polite = [.graceful])) ∧
    (system.signalsTo id ≠ [] →
      ⟨some id, .supervisor, .stateChanged .stopping⟩ ∈ notices (history config actions)) ∧
    (system.core.isAttached id = true → system.isAttaching id = false →
      (system.core.state = .stopping ↔
        earlyRequests id (history config actions) ≠ [] ∨
          lateRequests id (history config actions) ≠ [])) := by
  have hserves := h.serves hread id
  have hsignals : system.signalsTo id =
      if system.isAttaching id then []
      else due (earlyRequests id (history config actions))
        (lateRequests id (history config actions)) := by
    cases hattaching : system.isAttaching id with
    | false => exact hserves.served ⟨handle, hattached⟩ hattaching
    | true =>
        obtain ⟨unread, hlock⟩ := System.lock_of_isAttaching hattaching
        obtain ⟨run, -, hrun, -, hid, -⟩ := h.consistent.attaching hlock
        exact (hserves.waiting run hrun hid (.inr hattaching)).2.2
  refine ⟨hsignals, ?_, h.told_before_signalled, hserves.stopping⟩
  rw [hsignals]
  split
  · exact ⟨[], 0, rfl, .inl rfl⟩
  · exact due_form _ _

-- A run that is asked to stop while its process is spawned and is forced to
-- later on.
def stubbornRun : List Action :=
  [.start, .request .graceful] ++ installing 1 ⟨7, true, true⟩ ++
    [.conclude (.ok ()), .request .graceful, .request .force]

theorem requests_are_served_of_stubborn :
    ∃ system, Execution .default stubbornRun system ∧
      (system.signalsTo 1 =
        if system.isAttaching 1 then []
        else due (earlyRequests 1 (history .default stubbornRun))
          (lateRequests 1 (history .default stubbornRun))) := by
  have hall : ∃ system, (System.new .default).actAll stubbornRun = some system :=
    Option.isSome_iff_exists.mp (by decide)
  obtain ⟨system, hall⟩ := hall
  have hread : ∀ reason, .watch (some reason) ∉ stubbornRun := by
    simp [stubbornRun, installing, Handle.streams]
  have hattached : .attach 1 ⟨7, true, true⟩ ∈ stubbornRun := by
    simp [stubbornRun, installing]
  exact ⟨system, .of_actAll hall, (requests_are_served (.of_actAll hall) hread hattached).1⟩

end Overseer.Supervisor
