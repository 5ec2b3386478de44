import Overseer.Proofs.Supervisor.Transition
import Overseer.Supervisor.Starting

namespace Overseer.Supervisor

-- Which start calls open a run, and what each of them comes to.

variable {σ α : Type} {host : Host σ} {launch : σ → Except Fault α × σ}
  {install : Nat → α → σ → σ} {state next : σ} {run : Nat} {fault : Fault} {made : α}

namespace System

variable {system after : System} {action : Action} {actions : List Action}

theorem opening?_eq_some_iff : system.opening? = some run ↔
    system.lock = none ∧ system.closing = .open ∧ system.core.state = .stopped ∧
      system.core.lastRun + 1 = run := by
  by_cases hstopped : system.core.state = .stopped
  · simp [opening?, isFree, isOpen, Core.begin?, hstopped, and_assoc]
  · simp [opening?, Core.begin?, hstopped]

theorem opening?_of_active (hactive : system.core.state ≠ .stopped) : system.opening? = none := by
  simp [opening?, Core.begin?, hactive]

-- A start call that comes second has nothing to do.
theorem act_start_of_active (hactive : system.core.state ≠ .stopped)
    (hact : system.act .start = .moved after) : after = system := by
  cases transition_of_act hact with
  | startIgnored => rfl
  | begun hlock hopen hstopped => exact absurd hstopped hactive

theorem take_start_of_active (hactive : system.core.state ≠ .stopped) :
    system.take .start = system := by
  unfold take
  split
  · rename_i after hact
    exact act_start_of_active hactive hact
  · rfl
  · rfl

theorem state_take_start (hopening : system.opening? = some run) :
    (system.take .start).core.state = .starting := by
  obtain ⟨hlock, hopen, hstopped, -⟩ := opening?_eq_some_iff.mp hopening
  simp [take, act, onStart, isFree, isOpen, Core.begin?, notifyAll, hlock, hopen, hstopped]

theorem takeAll_append (system : System) (first second : List Action) :
    system.takeAll (first ++ second) = (system.takeAll first).takeAll second :=
  List.foldl_append

end System

theorem Requesting.state_ne {system after : System} {signal : Signal}
    (hstep : Requesting system signal after) (hactive : system.core.state ≠ .stopped) :
    after.core.state ≠ .stopped := by
  cases hstep with
  | entered => simp [System.sendSignal, System.entered, System.put, System.notifyAll]
  | _ => exact hactive

-- A request leaves a run that there is in place, and so does another start call.
theorem System.takeAll_active {system : System} {actions : List Action}
    (hcalls : ∀ action ∈ actions, action = .start ∨ ∃ signal, action = .request signal)
    (hactive : system.core.state ≠ .stopped) :
    (system.takeAll actions).core.state ≠ .stopped := by
  induction actions generalizing system with
  | nil => exact hactive
  | cons action actions ih =>
      refine ih (fun action hmem => hcalls action (List.mem_cons_of_mem _ hmem)) ?_
      rcases hcalls action List.mem_cons_self with rfl | ⟨signal, rfl⟩
      · rwa [take_start_of_active hactive]
      · unfold take
        split
        · rename_i after hact
          cases transition_of_act hact with
          | requested hopen hrequest => exact hrequest.state_ne hactive
        · exact hactive
        · exact hactive

namespace Host

-- A call that finds a run changes nothing and never comes to its second part.
theorem start_of_active (hactive : (host.system state).core.state ≠ .stopped) :
    host.start launch install state = (.ok (), state) := by
  simp only [start, System.opening?_of_active hactive]

theorem start_of_error (hopening : (host.system state).opening? = some run)
    (hlaunch : launch (host.take state .start) = (.error fault, next)) :
    host.start launch install state = (.error fault, host.take next (.fail run)) := by
  simp only [start, hopening, hlaunch]

theorem start_of_ok (hopening : (host.system state).opening? = some run)
    (hlaunch : launch (host.take state .start) = (.ok made, next)) :
    host.start launch install state = (.ok (), install run made next) := by
  simp only [start, hopening, hlaunch]

end Host

-- A system beside what its start calls get processes from.
def Host.beside (τ : Type) : Host (System × τ) :=
  ⟨Prod.fst, fun (system, means) action => (system.take action, means), fun _ _ => rfl⟩

def launchAmid {τ : Type} (launch : τ → Except Fault Handle × τ) (inside : List Action) :
    System × τ → Except Fault Handle × System × τ :=
  fun (system, means) => ((launch means).1, system.takeAll inside, (launch means).2)

def installBeside {τ : Type} (run : Nat) (handle : Handle) : System × τ → System × τ :=
  fun (system, means) => (system.takeAll (installing run handle), means)

-- A start call between whose parts these actions are taken.
def System.startAmid {τ : Type} (system : System) (launch : τ → Except Fault Handle × τ)
    (inside : List Action) (means : τ) : Except Fault Unit × System × τ :=
  (Host.beside τ).start (launchAmid launch inside) installBeside (system, means)

theorem System.startAmid_of_error {τ : Type} {system : System}
    {launch : τ → Except Fault Handle × τ} {means next : τ} (inside : List Action)
    (hopening : system.opening? = some run) (hlaunch : launch means = (.error fault, next)) :
    system.startAmid launch inside means =
      (.error fault, ((system.take .start).takeAll inside).take (.fail run), next) := by
  have hamid : launchAmid launch inside (system.take .start, means) =
      (.error fault, (system.take .start).takeAll inside, next) := by
    simp only [launchAmid, hlaunch]
  exact @Host.start_of_error _ _ (Host.beside τ) _ installBeside (system, means) _ _ _ hopening hamid

end Overseer.Supervisor
