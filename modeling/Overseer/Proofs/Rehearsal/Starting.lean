import Overseer.Proofs.Supervisor.Starting
import Overseer.Rehearsal.Scenario

namespace Overseer.Rehearsal

open Overseer.Supervisor

-- What a call comes to that is made while a start call is between its parts.
def Call.actions : Call → List Action
  | start _ | startMany _ _ => [.start]
  | stop => [.request .graceful]
  | kill => [.request .force]
  | look | await _ | describe | drop => []

theorem Call.mem_actions {call : Call} {action : Action} (h : action ∈ call.actions) :
    action = .start ∨ ∃ signal, action = .request signal := by
  cases call <;> simp_all [actions]

theorem Call.mem_flatMap_actions {calls : List Call} {action : Action}
    (h : action ∈ calls.flatMap actions) : action = .start ∨ ∃ signal, action = .request signal := by
  obtain ⟨call, -, haction⟩ := List.mem_flatMap.mp h
  exact call.mem_actions haction

namespace Stage

-- Start calls in a rehearsal: which of them come to the loader and the spawner,
-- and what they answer.

variable {stage : Stage} {options : Options} {fault : Fault}
  {start : Stage → Options → Reply × Stage}

-- While there is a run a start call does nothing and succeeds.
def Ignored (start : Stage → Options → Reply × Stage) : Prop :=
  ∀ (stage : Stage) (options : Options), stage.system.core.state ≠ .stopped →
    start stage options = (.done, stage)

theorem ignored_startWithin (depth : Nat) : Ignored (startWithin depth) := by
  intro stage options hactive
  cases depth with
  | zero => rfl
  | succ depth =>
      have hstart : host.start (launch (startWithin depth) options) install stage =
          (.ok (), stage) := Host.start_of_active hactive
      simp only [startWithin, hstart, Reply.ofOutcome]

section Inside

variable (hignored : Ignored start) (hactive : stage.system.core.state ≠ .stopped)

include hignored hactive

theorem startMany_of_active (options : Options) (count : Nat) :
    stage.startMany start options count = (count, stage) := by
  induction count with
  | zero => rfl
  | succ count ih =>
      unfold startMany at ih ⊢
      simp only [List.range_succ, List.foldl_append, ih, List.foldl_cons, List.foldl_nil,
        hignored stage options hactive]

theorem askInside_start (options : Options) :
    stage.askInside start (.start options) =
      stage.note (.start options) .done (some stage.seen) := by
  simp only [askInside, hignored stage options hactive]

theorem askInside_startMany (options : Options) (count : Nat) :
    stage.askInside start (.startMany options count) =
      stage.note (.startMany options count) (.succeeded count) (some stage.seen) := by
  simp only [askInside, startMany_of_active hignored hactive]

theorem askInside_eq (call : Call) :
    ∃ notes, stage.askInside start call =
      { stage with system := stage.system.takeAll call.actions, notes := notes } := by
  have hsame : stage.system.takeAll [.start] = stage.system :=
    System.take_start_of_active hactive
  cases call with
  | start options =>
      rw [askInside_start hignored hactive, Call.actions, hsame]
      exact ⟨_, rfl⟩
  | startMany options count =>
      rw [askInside_startMany hignored hactive, Call.actions, hsame]
      exact ⟨_, rfl⟩
  | _ => exact ⟨_, rfl⟩

theorem foldl_askInside_eq (calls : List Call) :
    ∃ notes, calls.foldl (askInside start) stage =
      { stage with
        system := stage.system.takeAll (calls.flatMap Call.actions), notes := notes } := by
  induction calls generalizing stage with
  | nil => exact ⟨stage.notes, rfl⟩
  | cons call calls ih =>
      obtain ⟨notes, hcall⟩ := askInside_eq hignored hactive call
      have hnext : (stage.askInside start call).system.core.state ≠ .stopped := by
        rw [hcall]
        exact System.takeAll_active (fun _ => call.mem_actions) hactive
      obtain ⟨notes', hcalls⟩ := ih hnext
      refine ⟨notes', ?_⟩
      rw [List.foldl_cons, hcalls, hcall, List.flatMap_cons, System.takeAll_append]

end Inside

-- What the loader says against a start call.
def loadFault (stage : Stage) (options : Options) : Option LoadFault := do
  let trial ← stage.loader
  match (trial.preflight (Path.ofText options.runtimeHome)).1 with
  | .error fault => some fault
  | .ok _ => none

-- The error that keeps a start call from its process: the loader's, or else the
-- spawner's.
def refusal (stage : Stage) (options : Options) : Option Fault :=
  match stage.loadFault options with
  | some fault => some (.runtime fault)
  | none =>
      (answer stage.spawns .plain stage.arguments.size).failure.map fun failure =>
        failure.fault (options.arguments.headD "")

section Inside

variable (hignored : Ignored start) (hactive : stage.system.core.state ≠ .stopped)

include hignored hactive

theorem preflight_eq (options : Options) :
    ∃ (calls : List Call) (notes : Array Note),
      stage.preflight start options =
        ((stage.loadFault options).elim (.ok ()) .error,
          { stage with
            loader := stage.loader.map fun trial =>
              (trial.preflight (Path.ofText options.runtimeHome)).2
            notes := notes
            system := stage.system.takeAll (calls.flatMap Call.actions) }) := by
  obtain ⟨system, loader, duringOpen, spawns, processes, arguments, reactions, departing, notes⟩ :=
    stage
  cases loader with
  | none => exact ⟨[], notes, rfl⟩
  | some trial =>
      rcases hcheck : trial.preflight (Path.ofText options.runtimeHome) with ⟨outcome, checked⟩
      simp only [preflight, loadFault, Option.bind_eq_bind, Option.bind_some, Option.map_some,
        hcheck]
      split
      · have hopening : (Stage.mk system (some checked) duringOpen spawns processes arguments
            reactions departing notes).system.core.state ≠ .stopped := hactive
        obtain ⟨notes', hasked⟩ := foldl_askInside_eq hignored hopening duringOpen
        rw [hasked]
        exact ⟨duringOpen, notes', by cases outcome <;> rfl⟩
      · exact ⟨[], notes, by cases outcome <;> rfl⟩

theorem spawn_of_failure {failure : SpawnFailure} (options : Options)
    (hfailure : (answer stage.spawns .plain stage.arguments.size).failure = some failure) :
    ∃ (calls : List Call) (next : Stage),
      stage.spawn start options = (.error (failure.fault (options.arguments.headD "")), next) ∧
      next.system = stage.system.takeAll (calls.flatMap Call.actions) := by
  have hspawning : ({ stage with
      arguments := stage.arguments.push options.arguments } : Stage).system.core.state ≠
      .stopped := hactive
  obtain ⟨notes, hasked⟩ := foldl_askInside_eq hignored hspawning
    (answer stage.spawns .plain stage.arguments.size).during
  simp only [spawn, hfailure, hasked]
  exact ⟨_, _, rfl, rfl⟩

-- Where the loader has nothing against it the spawner is asked.
theorem launch_of_refusal (hrefusal : stage.refusal options = some fault) :
    ∃ (calls : List Call) (next : Stage), launch start options stage = (.error fault, next) ∧
      next.system = stage.system.takeAll (calls.flatMap Call.actions) := by
  obtain ⟨calls, notes, hpreflight⟩ := preflight_eq hignored hactive options
  unfold launch
  rw [hpreflight]
  unfold refusal at hrefusal
  cases hload : stage.loadFault options with
  | some loadFault =>
      rw [hload] at hrefusal
      cases hrefusal
      exact ⟨calls, _, rfl, rfl⟩
  | none =>
      rw [hload] at hrefusal
      obtain ⟨failure, hfailure, rfl⟩ := Option.map_eq_some_iff.mp hrefusal
      let checked : Stage := { stage with
        loader := stage.loader.map fun trial =>
          (trial.preflight (Path.ofText options.runtimeHome)).2
        notes := notes
        system := stage.system.takeAll (calls.flatMap Call.actions) }
      have hchecked : checked.system.core.state ≠ .stopped :=
        System.takeAll_active (fun _ => Call.mem_flatMap_actions) hactive
      obtain ⟨during, next, hspawn, hsystem⟩ :=
        spawn_of_failure hignored hchecked options hfailure
      refine ⟨calls ++ during, next, hspawn, ?_⟩
      rw [hsystem, List.flatMap_append, System.takeAll_append]

end Inside

theorem active_take_start {run : Nat} (hopening : stage.system.opening? = some run) :
    (stage.take .start).system.core.state ≠ .stopped := by
  simp [take, System.state_take_start hopening]

theorem start_of_outcome {outcome : Except Fault Unit} {next : Stage}
    (h : host.start (launch (startWithin 1) options) install stage = (outcome, next)) :
    stage.start options = (.ofOutcome outcome, next) :=
  congrArg (fun started => (Reply.ofOutcome started.1, started.2)) h

-- A start call that is refused gives that error back, and what was asked inside
-- only counts until then.
theorem start_of_refusal {run : Nat} (hrefusal : stage.refusal options = some fault)
    (hopening : stage.system.opening? = some run) :
    ∃ calls : List Call, (stage.start options).1 = .failed fault ∧
      (stage.start options).2.system =
        ((stage.system.take .start).takeAll (calls.flatMap Call.actions)).take (.fail run) := by
  obtain ⟨calls, next, hlaunch, hsystem⟩ := @launch_of_refusal (stage.take .start) options fault _
    (ignored_startWithin 1) (active_take_start hopening) hrefusal
  have hstart : stage.start options = (.failed fault, next.take (.fail run)) :=
    start_of_outcome (Host.start_of_error hopening hlaunch)
  rw [hstart]
  exact ⟨calls, rfl, congrArg (fun inside : System => inside.take (.fail run)) hsystem⟩

end Stage

end Overseer.Rehearsal
