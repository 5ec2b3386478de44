import Overseer.Proofs.Supervisor.Failure
import Overseer.Proofs.Supervisor.Launching

namespace Overseer.Supervisor

-- The second part of a start call.
def Action.second (id : Nat) : Except Fault Handle → Action
  | .error _ => .fail id
  | .ok handle => .attach id handle

-- What is neither part of a start call.
def Action.isApart : Action → Bool
  | .start => false
  | action => !action.isSecond

end Overseer.Supervisor

namespace Overseer.Rehearsal

open Overseer.Supervisor

-- Start calls in a rehearsal with a loader: the check and the spawner answer as
-- they would on their own, whatever is asked on the way.

-- The spawner that a script describes. It knows how many processes there have
-- been and what it was asked.
def spawner (script : List Spawning) : Spawner (Nat × Array (List String)) :=
  fun (spawned, asked) arguments =>
    let spawning := answer script .plain asked.size
    match spawning.failure with
    | some failure =>
        (.error (failure.fault (arguments.headD "")), spawned, asked.push arguments)
    | none =>
        (.ok ⟨spawning.pid.getD (nextPid spawned), spawning.streams.contains .stdout,
            spawning.streams.contains .stderr⟩,
          spawned + 1, asked.push arguments)

def Reply.ofLaunch : Except Fault Handle → Reply
  | .error fault => .failed fault
  | .ok _ => .done

namespace Stage

variable {stage : Stage} {trial : LoaderTrial} {options : Options}

def means (stage : Stage) (trial : LoaderTrial) : Means Attempts (Nat × Array (List String)) :=
  ⟨trial.loader, trial.attempts, (stage.processes.length, stage.arguments)⟩

section Inside

variable {start : Stage → Options → Reply × Stage} (hignored : Ignored start)
  (hactive : stage.system.core.state ≠ .stopped)

include hignored hactive

theorem preflight_of_loader (hloader : stage.loader = some trial) (options : Options) :
    ∃ (calls : List Call) (notes : Array Note),
      stage.preflight start options =
        ((trial.preflight (Path.ofText options.runtimeHome)).1.map fun _ => (),
          { stage with
            loader := some (trial.preflight (Path.ofText options.runtimeHome)).2
            notes := notes
            system := stage.system.takeAll (calls.flatMap Call.actions) }) := by
  obtain ⟨calls, notes, hpreflight⟩ := preflight_eq hignored hactive options
  refine ⟨calls, notes, ?_⟩
  rw [hpreflight, loadFault, hloader]
  simp only [Option.bind_eq_bind, Option.bind_some, Option.map_some]
  cases (trial.preflight (Path.ofText options.runtimeHome)).1 <;> rfl

theorem spawn_eq (options : Options) :
    let spawned :=
      spawner stage.spawns (stage.processes.length, stage.arguments) options.arguments
    ∃ (calls : List Call) (notes : Array Note) (process : Nat → ScriptedProcess),
      stage.spawn start options =
        (spawned.1.map fun handle run => (process run, handle),
          { stage with
            system := stage.system.takeAll (calls.flatMap Call.actions)
            arguments := spawned.2.2
            notes := notes }) ∧
      spawned.2.1 = stage.processes.length + if spawned.1.isOk then 1 else 0 := by
  have hspawning : ({ stage with
      arguments := stage.arguments.push options.arguments } : Stage).system.core.state ≠
      .stopped := hactive
  obtain ⟨notes, hasked⟩ := foldl_askInside_eq hignored hspawning
    (answer stage.spawns .plain stage.arguments.size).during
  cases hfailure : (answer stage.spawns .plain stage.arguments.size).failure with
  | some failure =>
      simp only [spawn, spawner, hfailure, hasked]
      exact ⟨_, notes, fun run => ⟨run, 0, false, [], #[]⟩, rfl, rfl⟩
  | none =>
      simp only [spawn, spawner, hfailure, hasked]
      exact ⟨_, notes, fun run => ⟨run, _, _, _, _⟩, rfl, rfl⟩

theorem launch_of_loader (hloader : stage.loader = some trial) (options : Options) :
    let launched := (stage.means trial).launch opener (spawner stage.spawns) options
    ∃ (calls : List Call) (notes : Array Note) (process : Nat → ScriptedProcess),
      launch start options stage =
        (launched.1.map fun handle run => (process run, handle),
          { stage with
            system := stage.system.takeAll (calls.flatMap Call.actions)
            loader := some ⟨launched.2.loader, launched.2.opening⟩
            arguments := launched.2.spawning.2
            notes := notes }) ∧
      launched.2.spawning.1 = stage.processes.length + if launched.1.isOk then 1 else 0 := by
  intro launched
  obtain ⟨calls, notes, hpreflight⟩ := preflight_of_loader hignored hactive hloader options
  rcases hcheck : Loader.preflight opener trial.attempts trial.loader
    (Path.ofText options.runtimeHome) with ⟨checked, loader, attempts⟩
  have htrial : trial.preflight (Path.ofText options.runtimeHome) =
      (checked, ⟨loader, attempts⟩) := by
    simp only [LoaderTrial.preflight, hcheck]
  rw [htrial] at hpreflight
  cases checked with
  | error fault =>
      have hlaunched : launched =
          (.error (.runtime fault), ⟨loader, attempts, (stage.means trial).spawning⟩) := by
        simp only [launched, Means.launch, means, hcheck]
      refine ⟨calls, notes, fun run => ⟨run, 0, false, [], #[]⟩, ?_⟩
      rw [hlaunched]
      simp only [launch, hpreflight]
      exact ⟨rfl, rfl⟩
  | ok runtime =>
      have hlaunched : launched =
          ((spawner stage.spawns (stage.means trial).spawning options.arguments).1,
            ⟨loader, attempts,
              (spawner stage.spawns (stage.means trial).spawning options.arguments).2⟩) := by
        simp only [launched, Means.launch, means, hcheck]
      rw [hlaunched]
      simp only [launch, hpreflight]
      have hchecked : ({ stage with
          loader := some ⟨loader, attempts⟩
          notes := notes
          system := stage.system.takeAll (calls.flatMap Call.actions) } : Stage).system.core.state ≠
          .stopped := System.takeAll_active (fun _ => Call.mem_flatMap_actions) hactive
      obtain ⟨calls', notes', process, hspawn, hcount⟩ := spawn_eq hignored hchecked options
      refine ⟨calls ++ calls', notes', process, ?_⟩
      rw [List.flatMap_append, System.takeAll_append]
      exact ⟨hspawn, hcount⟩

end Inside

theorem conclude_eq (stage : Stage) :
    ∃ (actions : List Action) (processes : List ScriptedProcess) (departing : List (Nat × Signal)),
      stage.conclude =
        { stage with
          system := stage.system.takeAll actions
          processes := processes
          departing := departing } ∧
      processes.length = stage.processes.length ∧ ∀ action ∈ actions, action.isApart = true := by
  have hapart : ∀ (outcome : Except Fault Unit), ∀ action ∈ [Action.conclude outcome],
      action.isApart = true := by
    intro outcome action hmem
    rw [List.mem_singleton.mp hmem]
    rfl
  unfold conclude
  split
  · rename_i run signal _
    split
    · exact ⟨[], stage.processes, stage.departing, rfl, rfl, by simp⟩
    · rename_i process _
      cases hcomply : process.comply with
      | error fault => exact ⟨_, _, stage.departing, rfl, List.length_map _, hapart (.error fault)⟩
      | ok =>
          dsimp only
          split
          · exact ⟨_, _, _, rfl, List.length_map _, hapart (.ok ())⟩
          · exact ⟨_, _, stage.departing, rfl, List.length_map _, hapart (.ok ())⟩
  · exact ⟨[], stage.processes, stage.departing, rfl, rfl, by simp⟩

-- A start call as a whole. The reply is the answer that the check and the
-- spawner come to, and what follows on the second part is not another one.
theorem start_of_loader (hloader : stage.loader = some trial) {run : Nat}
    (hopening : stage.system.opening? = some run) (options : Options) :
    let launched := (stage.means trial).launch opener (spawner stage.spawns) options
    ∃ (calls : List Call) (rest : List Action),
      (stage.start options).1 = .ofLaunch launched.1 ∧
      (stage.start options).2.system =
        ((stage.system.take .start).takeAll (calls.flatMap Call.actions)).takeAll
          (.second run launched.1 :: rest) ∧
      (∀ action ∈ rest, action.isApart = true) ∧
      (stage.start options).2.spawns = stage.spawns ∧
      (stage.start options).2.loader = some ⟨launched.2.loader, launched.2.opening⟩ ∧
      (stage.start options).2.means ⟨launched.2.loader, launched.2.opening⟩ = launched.2 := by
  rcases hlaunched : (stage.means trial).launch opener (spawner stage.spawns) options
    with ⟨outcome, loader, opening, spawned, asked⟩
  obtain ⟨calls, notes, process, hlaunch, hcount⟩ := launch_of_loader (ignored_startWithin 1)
    (active_take_start hopening) (show (stage.take .start).loader = some trial from hloader) options
  have hbegun : ((stage.take .start).means trial).launch opener
      (spawner (stage.take .start).spawns) options = _ := hlaunched
  rw [hbegun] at hlaunch hcount
  cases outcome with
  | error fault =>
      have hstart : stage.start options =
          (.failed fault, Stage.take { stage.take .start with
            system := (stage.take .start).system.takeAll (calls.flatMap Call.actions)
            loader := some ⟨loader, opening⟩
            arguments := asked
            notes := notes } (.fail run)) :=
        start_of_outcome (Host.start_of_error hopening hlaunch)
      have hspawned : spawned = stage.processes.length := hcount
      rw [hstart, hspawned]
      exact ⟨calls, [], rfl, rfl, by simp, rfl, rfl, rfl⟩
  | ok handle =>
      let installed : Stage := { stage.take .start with
        system := ((stage.take .start).system.takeAll (calls.flatMap Call.actions)).takeAll
          (installing run handle)
        loader := some ⟨loader, opening⟩
        arguments := asked
        notes := notes
        processes := stage.processes ++ [process run] }
      have hstart : stage.start options = (.done, installed.conclude) :=
        start_of_outcome (Host.start_of_ok hopening hlaunch)
      obtain ⟨actions, processes, departing, hconclude, hlength, hapart⟩ := installed.conclude_eq
      have hspawned : spawned = processes.length :=
        hcount.trans ((List.length_append ..).symm.trans hlength.symm)
      rw [hstart, hconclude, hspawned]
      refine ⟨calls, handle.streams.map (fun _ => .watch none) ++ [.takePending] ++ actions,
        rfl, ?_, ?_, rfl, rfl, rfl⟩
      · rw [← List.cons_append, System.takeAll_append]
        rfl
      · simp only [List.mem_append, List.mem_map, List.mem_singleton]
        rintro action ((⟨-, -, rfl⟩ | rfl) | hmem)
        · rfl
        · rfl
        · exact hapart action hmem

end Stage

end Overseer.Rehearsal
