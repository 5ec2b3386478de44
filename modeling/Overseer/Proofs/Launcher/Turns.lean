import Overseer.Launcher.Program
import Overseer.Proofs.Supervisor.Story

namespace Overseer.Launcher

open Overseer.Supervisor

-- What a step of the launcher can be. Its main thread acts on an interrupt and on
-- a notification, and everything else happens beside it.

variable {program next : Program} {action : ProgramAction}

-- One step of the program, one case for each way in which it can go.
inductive ProgramStep (program : Program) : ProgramAction → Program → Prop
  | inner {action : Action} {system : System} :
      belongsToMain action = false → (belongsToReturn action = true → program.phase = .over) →
      program.system.act action = .moved system →
      ProgramStep program (.inner action) { program with system }
  | stopped {system : System} :
      program.phase = .serving → program.system.act (.request .graceful) = .moved system →
      ProgramStep program .interrupt
        { program with
          system, phase := .stopping, requests := program.requests ++ [.graceful] }
  | killed {system : System} :
      program.phase = .stopping → program.system.act (.request .force) = .moved system →
      ProgramStep program .interrupt
        { program with
          system, phase := .stopping, requests := program.requests ++ [.force] }
  | left :
      program.phase ≠ .over → program.notifications[program.received]? = some .stopped →
      ProgramStep program .receive
        { program with phase := .over, received := program.received + 1 }
  | stayed {state : State} :
      program.phase ≠ .over → program.notifications[program.received]? = some state →
      state ≠ .stopped →
      ProgramStep program .receive { program with received := program.received + 1 }
  | abandoned :
      program.phase ≠ .over → program.system.queue.ended = true →
      ProgramStep program .receive { program with phase := .over }

theorem Phase.turn_heard {phase : Phase} (hphase : phase ≠ .over) (state : State) :
    (phase.turn (.heard state)).request = none ∧
      (phase.turn (.heard state)).phase = if state = .stopped then .over else phase := by
  cases phase <;> cases state <;> simp_all [turn]

theorem Phase.turn_abandoned {phase : Phase} (hphase : phase ≠ .over) :
    (phase.turn .abandoned).request = none ∧ (phase.turn .abandoned).phase = .over := by
  cases phase <;> simp_all [turn]

namespace Program

theorem wake_asking {wake : Wake} (signal : Signal)
    (hrequest : (program.phase.turn wake).request = some signal)
    (h : program.wake wake = some next) :
    ∃ system, program.system.act (.request signal) = .moved system ∧
      next = { program with
        system, phase := (program.phase.turn wake).phase
        requests := program.requests ++ [signal] } := by
  simp only [Program.wake, hrequest] at h
  split at h
  · rename_i system hact
    exact ⟨system, hact, (Option.some.inj h).symm⟩
  · cases h
  · cases h

theorem wake_silent {wake : Wake} (hrequest : (program.phase.turn wake).request = none) :
    program.wake wake = some { program with phase := (program.phase.turn wake).phase } := by
  simp only [Program.wake, hrequest]

theorem step_of_inner {action : Action} (h : program.act (.inner action) = some next) :
    ProgramStep program (.inner action) next := by
  simp only [act] at h
  split at h
  · cases h
  rename_i hguard
  simp only [Bool.or_eq_true, not_or, Bool.not_eq_true, Bool.and_eq_true, decide_eq_true_eq,
    not_and, Decidable.not_not] at hguard
  obtain ⟨⟨hmain, hreturn⟩, -⟩ := hguard
  split at h
  · rename_i system hact
    cases h
    exact .inner hmain hreturn hact
  · cases h
  · cases h

theorem step_of_interrupt (h : program.act .interrupt = some next) :
    ProgramStep program .interrupt next := by
  simp only [act] at h
  split at h
  · cases h
  cases hphase : program.phase with
  | serving =>
      obtain ⟨system, hact, rfl⟩ := wake_asking .graceful (by rw [hphase]; rfl) h
      rw [hphase]
      exact .stopped hphase hact
  | stopping =>
      obtain ⟨system, hact, rfl⟩ := wake_asking .force (by rw [hphase]; rfl) h
      rw [hphase]
      exact .killed hphase hact
  | _ => simp_all

theorem step_of_receive (h : program.act .receive = some next) :
    ProgramStep program .receive next := by
  simp only [act] at h
  split at h
  · cases h
  rename_i hguard
  have hphase : program.phase ≠ .over := by
    intro hover
    simp [hover] at hguard
  split at h
  · rename_i state hstate
    obtain ⟨hsilent, hturn⟩ := Phase.turn_heard hphase state
    rw [wake_silent hsilent, hturn] at h
    cases h
    by_cases hstopped : state = .stopped
    · rw [if_pos hstopped]
      exact .left hphase (hstopped ▸ hstate)
    · rw [if_neg hstopped]
      exact .stayed hphase hstate hstopped
  · split at h
    · rename_i hended
      obtain ⟨hsilent, hturn⟩ := Phase.turn_abandoned hphase
      rw [wake_silent hsilent, hturn] at h
      cases h
      exact .abandoned hphase hended
    · cases h

theorem step_of_act (h : program.act action = some next) : ProgramStep program action next := by
  cases action with
  | inner action => exact step_of_inner h
  | interrupt => exact step_of_interrupt h
  | receive => exact step_of_receive h

end Program

end Overseer.Launcher
