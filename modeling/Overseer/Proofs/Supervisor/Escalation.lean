import Overseer.Proofs.Supervisor.Service

namespace Overseer.Supervisor

-- The order of the signals that a process is sent, whatever was requested, and
-- also when the supervisor wants the run to end because a stream stays unread.

variable {config : Config} {actions : List Action} {system after : System} {action : Action}
  {id : Nat} {signal : Signal}

-- At most one polite signal, and before all others.
def Escalates (signals : List Signal) : Prop :=
  ∃ polite forced, signals = polite ++ List.replicate forced .force ∧
    (polite = [] ∨ polite = [.graceful])

theorem Escalates.nil : Escalates [] := ⟨[], 0, rfl, .inl rfl⟩

theorem Escalates.single (signal : Signal) : Escalates [signal] := by
  cases signal with
  | graceful => exact ⟨[.graceful], 0, rfl, .inr rfl⟩
  | force => exact ⟨[], 1, rfl, .inl rfl⟩

theorem Escalates.force {signals : List Signal} (h : Escalates signals) :
    Escalates (signals ++ [.force]) := by
  obtain ⟨polite, forced, rfl, hpolite⟩ := h
  exact ⟨polite, forced + 1, by rw [List.append_assoc, List.replicate_succ'], hpolite⟩

-- A run is sent nothing before it is stopping, so the first signal that it is
-- sent finds none before it. Only force finds it stopping.
structure Escalating (id : Nat) (system : System) : Prop where
  unknown : system.core.lastRun < id → system.signalsTo id = []
  spared : ∀ run, system.core.run = some run → run.id = id → system.core.state ≠ .stopping →
    system.signalsTo id = []
  ordered : Escalates (system.signalsTo id)

namespace Escalating

theorem initial (config : Config) (id : Nat) : Escalating id (System.new config) where
  unknown := fun _ => rfl
  spared := fun _ _ _ _ => rfl
  ordered := .nil

theorem keep (h : Escalating id system) (hlast : system.core.lastRun ≤ after.core.lastRun)
    (hrun : ∀ run, after.core.run = some run → run.id = id → after.core.state ≠ .stopping →
      ∃ old, system.core.run = some old ∧ old.id = id ∧ system.core.state ≠ .stopping)
    (hsignals : after.signalsTo id = system.signalsTo id) : Escalating id after where
  unknown := by
    intro hid
    rw [hsignals]
    exact h.unknown (by omega)
  spared := by
    intro run hafter hid hstate
    obtain ⟨old, hold, holdId, holdState⟩ := hrun run hafter hid hstate
    rw [hsignals]
    exact h.spared old hold holdId holdState
  ordered := by
    rw [hsignals]
    exact h.ordered

theorem aside (h : Escalating id system) (hcore : after.core = system.core)
    (hsignals : after.signals = system.signals) : Escalating id after := by
  refine h.keep (Nat.le_of_eq (by rw [hcore])) ?_ (by simp only [System.signalsTo, hsignals])
  intro run hrun hid hstate
  rw [hcore] at hrun hstate
  exact ⟨run, hrun, hid, hstate⟩

-- A signal goes out to the run that there is, and leaves it stopping.
theorem send {run : Run} (h : Escalating id system) (hcurrent : run.id = system.core.lastRun)
    (hlast : after.core.lastRun = system.core.lastRun) (hstate : after.core.state = .stopping)
    (hordered : run.id = id → Escalates (system.signalsTo id ++ [signal]))
    (hsignals : after.signalsTo id =
      system.signalsTo id ++ if run.id = id then [signal] else []) : Escalating id after := by
  refine ⟨fun hid => ?_, fun _ _ _ hnot => absurd hstate hnot, ?_⟩
  · rw [hsignals, if_neg (by omega), List.append_nil]
    exact h.unknown (by omega)
  · rw [hsignals]
    split
    · rename_i hid
      exact hordered hid
    · rw [List.append_nil]
      exact h.ordered

theorem requesting (h : Escalating id system) (hconsistent : Consistent system)
    (hstep : Requesting system signal after) : Escalating id after := by
  cases hstep with
  | ignored => exact h
  | @recorded run _ hrun =>
      refine h.keep (Nat.le_refl _) ?_ rfl
      intro changed hchanged hid hstate
      cases hchanged
      exact ⟨run, hrun, hid, hstate⟩
  | @entered run _ _ hrun _ hstate =>
      refine h.send (hconsistent.current run hrun) rfl rfl (fun hid => ?_)
        (signalsTo_sendSignal _ _ _ _)
      have hnew : system.core.state ≠ .stopping := by
        rcases hstate with hstate | hstate <;> simp [hstate]
      rw [h.spared run hrun hid hnew]
      exact .single signal
  | @repeated run _ _ hrun _ hstate hforce =>
      refine h.send (hconsistent.current run hrun) rfl hstate (fun _ => ?_)
        (signalsTo_sendSignal _ _ _ _)
      rw [hforce]
      exact h.ordered.force

theorem transition (h : Escalating id system) (hconsistent : Consistent system)
    (hstep : Transition system action after) : Escalating id after := by
  cases hstep with
  | begun =>
      refine ⟨fun hid => h.unknown (Nat.lt_of_succ_lt hid), ?_, h.ordered⟩
      intro run hrun hid _
      obtain rfl := Option.some.inj hrun
      exact h.unknown (by rw [← hid]; exact Nat.lt_succ_self _)
  | failed | tornDown =>
      refine h.keep (Nat.le_refl _) ?_ rfl
      intro run hrun
      cases hrun
  | attached _ _ hrun hid hstate =>
      refine h.keep (Nat.le_refl _) ?_ rfl
      intro changed hchanged howner hnot
      cases hchanged
      exact ⟨_, hrun, howner, hnot⟩
  | watched | unwatched =>
      refine h.keep (Nat.le_refl _) ?_ rfl
      intro changed hchanged howner hnot
      obtain ⟨run, hrun, rfl⟩ := Option.map_eq_some_iff.mp hchanged
      exact ⟨run, hrun, howner, hnot⟩
  | @takenUp owner run signal hlock hrun hpending =>
      obtain ⟨run', -, hrun', -, hid, hstate, -⟩ := hconsistent.attaching hlock
      obtain rfl := Option.some.inj (hrun.symm.trans hrun')
      subst hid
      refine h.send (hconsistent.current run hrun) rfl rfl (fun hid => ?_)
        (signalsTo_sendSignal _ _ _ _)
      rw [h.spared run hrun hid (by simp [hstate])]
      exact .single signal
  | requested _ hrequest => exact h.requesting hconsistent hrequest
  | disposeRequested _ hrequest => exact (h.requesting hconsistent hrequest).aside rfl rfl
  | announced _ _ _ hrun hid _ hstate =>
      refine h.keep (Nat.le_refl _) ?_ rfl
      intro run hafter howner _
      exact ⟨run, hafter, howner, by simp [hstate]⟩
  | reported _ _ hrun =>
      refine h.keep (Nat.le_refl _) ?_ rfl
      intro changed hchanged howner hnot
      cases hchanged
      exact ⟨_, hrun, howner, hnot⟩
  | _ => exact h.aside rfl rfl

end Escalating

theorem Execution.escalating (h : Execution config actions system) (id : Nat) :
    Escalating id system := by
  induction h with
  | initial => exact .initial config id
  | step hbefore hact ih =>
      exact ih.transition hbefore.consistent (System.transition_of_act hact)

end Overseer.Supervisor
