import Overseer.Options
import Overseer.Proofs.Loader.Preflight
import Overseer.Supervisor.Core

namespace Overseer.Supervisor

open Overseer.Loader

-- What is done between the two parts of a start call: the runtime is checked and
-- then the spawner is called.

-- What brings processes up. Its answer may depend on the calls before it, which
-- the state remembers.
abbrev Spawner (τ : Type) := τ → List String → Except Fault Handle × τ

structure Order where
  arguments : List String
  answer : Except Fault Handle

-- The same spawner, which also remembers what it was asked.
def Spawner.recorded {τ : Type} (spawner : Spawner τ) : Spawner (τ × List Order) :=
  fun (state, orders) arguments =>
    let (answer, next) := spawner state arguments
    (answer, next, orders ++ [⟨arguments, answer⟩])

-- What start calls work with.
structure Means (σ τ : Type) where
  loader : Loader
  opening : σ
  spawning : τ

-- One start call, with what it asked for and the loader before and after.
structure Launch where
  options : Options
  before : Loader
  attempts : List Attempt
  orders : List Order
  outcome : Except Fault Handle
  after : Loader

namespace Launch

def home (launch : Launch) : Path := Path.ofText launch.options.runtimeHome

def Spawns (launch : Launch) : Prop := launch.orders ≠ []

-- The opener was asked and gave a library.
def Opens (launch : Launch) : Prop :=
  ∃ attempt ∈ launch.attempts, ∃ runtime, attempt.answer = .ok runtime

-- The check decides whether there is a process, and asks for a library only if
-- none is kept for the home.
structure Gated (layout : Layout) (launch : Launch) : Prop where
  spawns_iff : launch.Spawns ↔
    launch.options.runtimeHome ≠ "" ∧ (launch.before.CachedFor launch.home ∨ launch.Opens)
  -- The spawner is asked once and its answer is given back. Whatever it is, the
  -- library is kept.
  spawned : launch.Spawns →
    launch.orders = [⟨launch.options.arguments, launch.outcome⟩] ∧
      launch.after.CachedFor launch.home
  homeless : launch.options.runtimeHome = "" →
    launch.attempts = [] ∧ launch.outcome = .error (.runtime .homeNotSet) ∧
      launch.after = new layout
  refused : launch.options.runtimeHome ≠ "" → ¬ launch.Spawns →
    ∃ attempt fault, launch.attempts = [attempt] ∧ attempt.answer = .error fault ∧
      launch.outcome = .error (.runtime fault) ∧ launch.after.loaded = none
  reused : launch.options.runtimeHome ≠ "" → launch.before.CachedFor launch.home →
    launch.attempts = [] ∧ launch.after = launch.before
  asked : launch.options.runtimeHome ≠ "" → ¬ launch.before.CachedFor launch.home →
    ∃ stored answer, launch.after.home = some stored ∧
      stored.components = launch.home.components ∧
      (launch.before.home = some stored ∨ stored = launch.home) ∧
      launch.attempts = [⟨stored.join layout.library, layout.symbol, answer⟩] ∧
      launch.after.loaded = answer.toOption

end Launch

namespace Means

variable {σ τ : Type} {means : Means σ τ} {options : Options} {named : Path}

-- The check of the runtime, and then the spawner.
def launch (opener : Opener σ) (spawner : Spawner τ) (means : Means σ τ) (options : Options) :
    Except Fault Handle × Means σ τ :=
  match preflight opener means.opening means.loader (Path.ofText options.runtimeHome) with
  | (.error fault, loader, opening) => (.error (.runtime fault), { means with loader, opening })
  | (.ok _, loader, opening) =>
      let (answer, spawning) := spawner means.spawning options.arguments
      (answer, ⟨loader, opening, spawning⟩)

def launched (opener : Opener σ) (spawner : Spawner τ) (means : Means σ τ) (options : Options) :
    Launch :=
  let (outcome, next) := launch opener.recorded spawner.recorded
    ⟨means.loader, (means.opening, []), (means.spawning, [])⟩ options
  ⟨options, means.loader, next.opening.2, next.spawning.2, outcome, next.loader⟩

section Checked

variable {fault : LoadFault} {runtime : Runtime} {after : Loader} {next : σ}
  {attempts : List Attempt}

theorem launched_of_error (opener : Opener σ) (spawner : Spawner τ)
    (h : preflight opener.recorded (means.opening, []) means.loader
      (Path.ofText options.runtimeHome) = (.error fault, after, next, attempts)) :
    means.launched opener spawner options =
      ⟨options, means.loader, attempts, [], .error (.runtime fault), after⟩ := by
  simp only [launched, launch, h]

theorem launched_of_ok (opener : Opener σ) (spawner : Spawner τ)
    (h : preflight opener.recorded (means.opening, []) means.loader
      (Path.ofText options.runtimeHome) = (.ok runtime, after, next, attempts)) :
    means.launched opener spawner options =
      ⟨options, means.loader, attempts,
        [⟨options.arguments, (spawner means.spawning options.arguments).1⟩],
        (spawner means.spawning options.arguments).1, after⟩ := by
  simp only [launched, launch, h, Spawner.recorded, List.nil_append]

end Checked

theorem launch_eq (opener : Opener σ) (spawner : Spawner τ) (means : Means σ τ)
    (options : Options) :
    (means.launch opener spawner options).1 = (means.launched opener spawner options).outcome ∧
      (means.launch opener spawner options).2.loader =
        (means.launched opener spawner options).after := by
  rcases hplain : preflight opener means.opening means.loader (Path.ofText options.runtimeHome)
    with ⟨answer, after, next⟩
  obtain ⟨attempts, hrecorded⟩ := preflight_recorded hplain
  cases answer with
  | error fault =>
      rw [launched_of_error opener spawner hrecorded]
      simp only [launch, hplain, and_self]
  | ok runtime =>
      rw [launched_of_ok opener spawner hrecorded]
      simp only [launch, hplain, and_self]

-- What a start call can find is decided by the home that was named last.
theorem gated (opener : Opener σ) (spawner : Spawner τ) (hhome : means.loader.HomeIs named)
    (hset : means.loader.home = none → means.loader.loaded = none) (options : Options) :
    (means.launched opener spawner options).Gated means.loader.layout := by
  obtain ⟨answer, after, next, attempts, hpreflight, hchecked⟩ :=
    checked hhome hset opener means.opening (Path.ofText options.runtimeHome)
  cases hchecked with
  | homeless hempty =>
      have htext := (Path.bytes_ofText_eq_nil_iff _).mp hempty
      rw [launched_of_error opener spawner hpreflight]
      exact
        { spawns_iff := by simp [Launch.Spawns, htext]
          spawned := fun hspawns => absurd rfl hspawns
          homeless := fun _ => ⟨rfl, rfl, rfl⟩
          refused := fun hnonempty => absurd htext hnonempty
          reused := fun hnonempty => absurd htext hnonempty
          asked := fun hnonempty => absurd htext hnonempty }
  | reused hempty hcached hloaded =>
      have htext := mt (Path.bytes_ofText_eq_nil_iff _).mpr hempty
      rw [launched_of_ok opener spawner hpreflight]
      exact
        { spawns_iff := iff_of_true (List.cons_ne_nil _ _) ⟨htext, .inl hcached⟩
          spawned := fun _ => ⟨rfl, hcached⟩
          homeless := fun hhomeless => absurd hhomeless htext
          refused := fun _ hspawns => absurd (List.cons_ne_nil _ _) hspawns
          reused := fun _ _ => ⟨rfl, rfl⟩
          asked := fun _ hfresh => absurd hcached hfresh }
  | @asked stored answer hempty hfresh hcomponents hspelling =>
      have htext := mt (Path.bytes_ofText_eq_nil_iff _).mpr hempty
      cases answer with
      | error fault =>
          rw [launched_of_error opener spawner hpreflight]
          exact
            { spawns_iff := by
                simpa [Launch.Spawns, Launch.Opens, Launch.home] using fun _ => hfresh
              spawned := fun hspawns => absurd rfl hspawns
              homeless := fun hhomeless => absurd hhomeless htext
              refused := fun _ _ => ⟨_, fault, rfl, rfl, rfl, rfl⟩
              reused := fun _ hcached => absurd hcached hfresh
              asked := fun _ _ => ⟨stored, .error fault, rfl, hcomponents, hspelling, rfl, rfl⟩ }
      | ok runtime =>
          rw [launched_of_ok opener spawner hpreflight]
          exact
            { spawns_iff := by simp [Launch.Spawns, Launch.Opens, htext]
              spawned := fun _ => ⟨rfl, by simp [keep], stored, rfl, hcomponents⟩
              homeless := fun hhomeless => absurd hhomeless htext
              refused := fun _ hspawns => absurd (List.cons_ne_nil _ _) hspawns
              reused := fun _ hcached => absurd hcached hfresh
              asked := fun _ _ => ⟨stored, .ok runtime, rfl, hcomponents, hspelling, rfl, rfl⟩ }

end Means

end Overseer.Supervisor
