import Overseer.Proofs.Supervisor.Preservation

namespace Overseer.Supervisor

-- How runs come and go. Of all that a step can do to the core this is what a
-- run's history depends on, and only four kinds of step do any of it.

-- Which run there is, and the process it has.
def Core.standing (core : Core) : Option (Nat × Option Handle) :=
  core.run.map fun run => (run.id, run.handle)

def Action.isTurn : Action → Bool
  | fail _ | attach _ _ | teardown _ => true
  | _ => false

inductive Turn (before after : Core) : Action → Prop
  | begun :
      before.standing = none → after.standing = some (before.lastRun + 1, none) →
      after.lastRun = before.lastRun + 1 →
      Turn before after .start
  | failed {id : Nat} :
      before.standing = some (id, none) → after.standing = none →
      after.lastRun = before.lastRun →
      Turn before after (.fail id)
  | attached {id : Nat} {handle : Handle} :
      before.standing = some (id, none) → after.standing = some (id, some handle) →
      after.lastRun = before.lastRun →
      Turn before after (.attach id handle)
  | ended {id : Nat} {handle : Handle} :
      before.standing = some (id, some handle) → after.standing = none →
      after.lastRun = before.lastRun →
      Turn before after (.teardown id)
  | same {action : Action} :
      after.standing = before.standing → after.lastRun = before.lastRun →
      action.isTurn = false →
      Turn before after action

variable {system after : System}

theorem Turn.lastRun_le {before after : Core} {action : Action} (h : Turn before after action) :
    before.lastRun ≤ after.lastRun := by
  cases h <;> omega

theorem Requesting.standing {signal : Signal} (hstep : Requesting system signal after) :
    after.core.standing = system.core.standing ∧ after.core.lastRun = system.core.lastRun := by
  cases hstep with
  | ignored => exact ⟨rfl, rfl⟩
  | recorded _ hrun hhandle => exact ⟨by simp [Core.standing, hrun, hhandle], rfl⟩
  | entered => exact ⟨rfl, rfl⟩
  | repeated => exact ⟨rfl, rfl⟩

namespace Consistent

theorem turn (h : Consistent system) {action : Action} (hstep : Transition system action after) :
    Turn system.core after.core action := by
  cases hstep with
  | begun hlock hopen hstopped =>
      have hnone := h.stopped_iff.mp hstopped
      exact .begun (by simp [Core.standing, hnone]) rfl rfl
  | failed hlock hwindow =>
      obtain ⟨run, hrun, hhandle, rfl⟩ := h.window hwindow
      exact .failed (by simp [Core.standing, hrun, hhandle]) rfl rfl
  | attached hlock hwindow hrun hid hstate =>
      subst hid
      obtain ⟨other, hother, hhandle, -⟩ := h.window hwindow
      obtain rfl := Option.some.inj (hrun.symm.trans hother)
      exact .attached (by simp [Core.standing, hrun, hhandle]) rfl rfl
  | tornDown hlock hfind hjoined hrun =>
      obtain ⟨run, handle, hrun, hhandle, rfl, -⟩ := h.joined hfind hjoined
      have hstanding : system.core.standing = some (run.id, some handle) := by
        simp [Core.standing, hrun, hhandle]
      exact .ended hstanding rfl rfl
  | watched => exact .same (by simp [Core.standing, Core.addReader, Function.comp_def]) rfl rfl
  | unwatched =>
      exact .same (by simp [Core.standing, Core.missReader, System.put, Function.comp_def]) rfl rfl
  | takenUp hlock hrun =>
      exact .same (by simp [Core.standing, hrun, System.sendSignal, System.entered, System.put,
        System.notifyAll]) rfl rfl
  | reported hlock hreport hrun =>
      exact .same (by simp [Core.standing, hrun, System.record]) rfl rfl
  | requested hopen hrequest =>
      obtain ⟨hstanding, hlast⟩ := hrequest.standing
      exact .same hstanding hlast rfl
  | disposeRequested hclosing hrequest =>
      obtain ⟨hstanding, hlast⟩ := hrequest.standing
      exact .same hstanding hlast rfl
  | _ => exact .same rfl rfl rfl

end Consistent

end Overseer.Supervisor
