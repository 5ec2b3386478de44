import Mathlib.Data.List.Induction
import Overseer.Proofs.Rehearsal.Launching

namespace Overseer.Supervisor

open Overseer.Loader

-- Start calls one after the other, with a loader that nobody else uses: what each
-- of them asks for depends on what the ones before it have left in the loader.

variable {σ τ : Type} {opener : Opener σ} {spawner : Spawner τ} {config : Config}
  {origin means : Means σ τ} {launches earlier later : List Launch} {launch next : Launch}
  {system amid after : System} {options : Options} {layout : Layout}

-- Each start call finds everything stopped. Whatever others do, inside it or at
-- any other time, is nothing to the loader.
inductive Launching (opener : Opener σ) (spawner : Spawner τ) (config : Config)
    (origin : Means σ τ) : List Launch → System → Means σ τ → Prop
  | new : Launching opener spawner config origin [] (System.new config) origin
  | aside {launches : List Launch} {system after : System} {means : Means σ τ}
      {action : Action} :
      Launching opener spawner config origin launches system means → action.isSecond = false →
      (action = .start → system.core.state ≠ .stopped) → system.act action = .moved after →
      Launching opener spawner config origin launches after means
  | started {launches : List Launch} {system amid after : System} {means : Means σ τ}
      (inside : List Action) (options : Options) :
      Launching opener spawner config origin launches system means →
      system.core.state = .stopped → (∀ action ∈ inside, action.isSecond = false) →
      system.actAll (.start :: inside) = some amid →
      amid.act (.second (system.core.lastRun + 1) (means.launch opener spawner options).1) =
        .moved after →
      Launching opener spawner config origin
        (launches ++ [means.launched opener spawner options]) after
        (means.launch opener spawner options).2

-- The calls on the loader that a start call makes.
def Launch.calls (launch : Launch) : List Operation := [.ensureHome launch.home, .entryPoint]

theorem Means.launch_calls (opener : Opener σ) (spawner : Spawner τ) (means : Means σ τ)
    (options : Options) :
    ((means.launch opener spawner options).2.loader,
        (means.launch opener spawner options).2.opening) =
      (performAll opener means.opening means.loader
        (means.launched opener spawner options).calls).2 := by
  have hcalls : (means.launched opener spawner options).calls =
      [.ensureHome (Path.ofText options.runtimeHome), .entryPoint] := rfl
  have hperformed : (performAll opener means.opening means.loader
      [.ensureHome (Path.ofText options.runtimeHome), .entryPoint]).2 =
      (preflight opener means.opening means.loader (Path.ofText options.runtimeHome)).2 := rfl
  rw [hcalls, hperformed, launch]
  rcases preflight opener means.opening means.loader (Path.ofText options.runtimeHome)
    with ⟨answer, loader, opening⟩
  cases answer <;> rfl

namespace Launching

theorem execution (h : Launching opener spawner config origin launches system means) :
    ∃ actions, Execution config actions system := by
  induction h with
  | new => exact ⟨[], .initial⟩
  | aside _ _ _ hact ih =>
      obtain ⟨actions, hactions⟩ := ih
      exact ⟨_, hactions.step hact⟩
  | started _ _ _ _ _ hall hact ih =>
      obtain ⟨actions, hactions⟩ := ih
      exact ⟨_, (hactions.append hall).step hact⟩

-- The loader has had these calls and no others.
theorem loader_eq (h : Launching opener spawner config origin launches system means) :
    (means.loader, means.opening) =
      (performAll opener origin.opening origin.loader (launches.flatMap Launch.calls)).2 := by
  induction h with
  | new => rfl
  | aside _ _ _ _ ih => exact ih
  | started _ _ _ _ _ _ _ ih =>
      rw [Means.launch_calls, List.flatMap_append, performAll_append, ← ih, List.flatMap_singleton]

-- The last start call left the loader as it is, and found it as the ones before
-- it left it.
theorem last (h : Launching opener spawner config origin (launches ++ [launch]) system means) :
    means.loader = launch.after ∧
      ∃ before between, Launching opener spawner config origin launches before between ∧
        launch = between.launched opener spawner launch.options := by
  generalize hall : launches ++ [launch] = all at h
  induction h with
  | new => simp at hall
  | aside _ _ _ _ ih => exact ih hall
  | @started _ before _ _ between _ options hbefore =>
      obtain ⟨rfl, hlast⟩ := List.append_inj' hall rfl
      obtain rfl := (List.cons.inj hlast).1
      exact ⟨(Means.launch_eq opener spawner between options).2, before, between, hbefore, rfl⟩

theorem asideAll (h : Launching opener spawner config origin launches system means)
    (actions : List Action)
    (hapart : ∀ action ∈ actions, action.isApart = true)
    (hall : system.actAll actions = some after) :
    Launching opener spawner config origin launches after means := by
  induction actions generalizing system with
  | nil =>
      obtain rfl : system = after := by simpa [System.actAll] using hall
      exact h
  | cons action actions ih =>
      obtain ⟨next, hact, hrest⟩ := System.actAll_cons.mp hall
      have hfirst := hapart action List.mem_cons_self
      refine ih (h.aside ?_ ?_ hact)
        (fun action hmem => hapart action (List.mem_cons_of_mem _ hmem)) hrest
      · cases action <;> first | rfl | cases hfirst
      · rintro rfl
        cases hfirst

-- The beginning of a sequence is a sequence.
theorem front (h : Launching opener spawner config origin (earlier ++ later) system means) :
    ∃ before between, Launching opener spawner config origin earlier before between := by
  induction later using List.reverseRecOn generalizing system means with
  | nil => exact ⟨system, means, by simpa using h⟩
  | append_singleton later launch ih =>
      rw [← List.append_assoc] at h
      obtain ⟨-, before, between, hbefore, -⟩ := h.last
      exact ih hbefore

end Launching

-- A loader that others used before, with all that start calls need.
def Means.inherited (opener : Opener σ) (opening : σ) (spawning : τ) (layout : Layout)
    (past : List Operation) : Means σ τ :=
  ⟨(performAll opener opening (Loader.new layout) past).2.1,
    (performAll opener opening (Loader.new layout) past).2.2, spawning⟩

section Inherited

variable {opening : σ} {spawning : τ} {past : List Operation}

theorem Launching.performed
    (h : Launching opener spawner config (.inherited opener opening spawning layout past) launches
      system means) :
    means.loader =
      (performAll opener opening (Loader.new layout)
        (past ++ launches.flatMap Launch.calls)).2.1 := by
  rw [performAll_append]
  exact congrArg Prod.fst h.loader_eq

theorem Launching.kept
    (h : Launching opener spawner config (.inherited opener opening spawning layout past) launches
      system means) :
    Kept layout
      (exchanges opener opening (Loader.new layout) (past ++ launches.flatMap Launch.calls))
      means.loader := by
  rw [h.performed]
  exact (Kept.initial layout).exchanges opener opening (past ++ launches.flatMap Launch.calls)

theorem Launching.gated
    (h : Launching opener spawner config (.inherited opener opening spawning layout past) launches
      system means) (options : Options) :
    (means.launched opener spawner options).Gated layout := by
  have hhome := (homeIs_new layout).performAll opener opening
    (past ++ launches.flatMap Launch.calls)
  rw [← h.performed] at hhome
  have hset : means.loader.home = none → means.loader.loaded = none := by
    intro hunset
    cases hloaded : means.loader.loaded with
    | none => rfl
    | some runtime =>
        obtain ⟨home, hset, -⟩ := h.kept.opened runtime hloaded
        simp [hunset] at hset
  rw [← h.kept.ofLayout]
  exact Means.gated opener spawner hhome hset options

end Inherited

-- What is kept after a start call is the library of its home, if there was a
-- process to spawn for it.
theorem Launch.Gated.cachedFor_iff (h : launch.Gated layout) (home : Path) :
    launch.after.CachedFor home ↔
      launch.Spawns ∧ launch.home.components = home.components := by
  constructor
  · rintro ⟨hloaded, stored, hstored, hcomponents⟩
    have hspawns : launch.Spawns := by
      by_contra hspawns
      by_cases hempty : launch.options.runtimeHome = ""
      · rw [(h.homeless hempty).2.2] at hloaded
        exact hloaded rfl
      · obtain ⟨-, -, -, -, -, hnone⟩ := h.refused hempty hspawns
        exact hloaded hnone
    obtain ⟨-, -, other, hother, hsame⟩ := h.spawned hspawns
    obtain rfl : other = stored := Option.some.inj (hother.symm.trans hstored)
    exact ⟨hspawns, hsame.symm.trans hcomponents⟩
  · rintro ⟨hspawns, hcomponents⟩
    obtain ⟨-, hloaded, stored, hstored, hsame⟩ := h.spawned hspawns
    exact ⟨hloaded, stored, hstored, hsame.trans hcomponents⟩

theorem Amid.act_attach {asked : List Signal} {apart : System} (h : Amid asked apart amid)
    (handle : Handle) :
    ∃ after, amid.act (.attach (apart.core.lastRun + 1) handle) = .moved after := by
  obtain ⟨waiters, records, hidle, hopen, hlength⟩ := h
  simp [System.act, System.onAttach, System.isFree, System.inSpawn, Core.attach, hidle.lock]

theorem Execution.act_second {actions inside : List Action}
    (h : Execution config actions system) (hstopped : system.core.state = .stopped)
    (hopen : system.closing = .open) (hinside : ∀ action ∈ inside, action.isSecond = false)
    (hall : system.actAll (.start :: inside) = some amid) (outcome : Except Fault Handle) :
    ∃ after, amid.act (.second (system.core.lastRun + 1) outcome) = .moved after := by
  obtain ⟨apart, failed, hfoiled⟩ :=
    h.foiled (h.consistent.stopped_iff.mp hstopped) hopen hinside hall
  cases outcome with
  | error fault => exact ⟨failed, hfoiled.fails⟩
  | ok handle =>
      obtain ⟨hcore, -, -⟩ :=
        System.actAll_beside (fun action hmem => (List.mem_filter.mp hmem).2) hfoiled.beside
      rw [← hcore]
      exact hfoiled.within.act_attach handle

-- What a start call comes to that finds the supervisor in this state.
structure Answering (opener : Opener σ) (spawner : Spawner τ) (system : System)
    (means : Means σ τ) : Prop where
  begun : ∃ first, system.act .start = .moved first
  -- It comes to its end whatever goes on inside.
  finished : ∀ options inside amid, (∀ action ∈ inside, action.isSecond = false) →
    system.actAll (.start :: inside) = some amid →
    ∃ after, amid.act (.second (system.core.lastRun + 1)
      (means.launch opener spawner options).1) = .moved after
  -- In a rehearsal the reply, the loader and what is left of the scripts are
  -- those of the launch.
  rehearsed : ∀ (stage : Rehearsal.Stage) (trial : Rehearsal.LoaderTrial) (options : Options),
    stage.system = system → stage.loader = some trial →
    let launched := (stage.means trial).launch Rehearsal.opener
      (Rehearsal.spawner stage.spawns) options
    (stage.start options).1 = .ofLaunch launched.1 ∧
    (stage.start options).2.loader = some ⟨launched.2.loader, launched.2.opening⟩ ∧
    (stage.start options).2.means ⟨launched.2.loader, launched.2.opening⟩ = launched.2 ∧
    ∃ inside amid after rest, (∀ action ∈ inside, action.isSecond = false) ∧
      system.actAll (.start :: inside) = some amid ∧
      amid.act (.second (system.core.lastRun + 1) launched.1) = .moved after ∧
      (∀ action ∈ rest, action.isApart = true) ∧
      (stage.start options).2.system = after.takeAll rest

theorem Execution.answering {actions : List Action} (h : Execution config actions system)
    (hstopped : system.core.state = .stopped) (hopen : system.closing = .open)
    (opener : Opener σ) (spawner : Spawner τ) (means : Means σ τ) :
    Answering opener spawner system means := by
  have hidle := h.consistent.idle (h.consistent.stopped_iff.mp hstopped)
  obtain ⟨first, hstart, -⟩ := Amid.begin hidle hopen
  refine ⟨⟨first, hstart⟩, fun options inside amid hinside hall =>
    h.act_second hstopped hopen hinside hall _, ?_⟩
  rintro stage trial options rfl hloader
  obtain ⟨calls, rest, hreply, hsystem, hrest, -, hloader', hmeans⟩ :=
    Rehearsal.Stage.start_of_loader hloader (hidle.opening hopen) options
  have hall := hidle.actAll_start hopen calls
  have hinside : ∀ action ∈ calls.flatMap Rehearsal.Call.actions, action.isSecond = false :=
    fun action hmem => Action.isSecond_of_call (Rehearsal.Call.mem_flatMap_actions hmem)
  obtain ⟨after, hsecond⟩ := h.act_second hstopped hopen hinside hall
    ((stage.means trial).launch Rehearsal.opener (Rehearsal.spawner stage.spawns) options).1
  refine ⟨hreply, hloader', hmeans, _, _, after, rest, hinside, hall, hsecond, hrest, ?_⟩
  rw [hsystem, System.takeAll, List.foldl_cons, System.take, hsecond]
  rfl

-- A sequence of start calls on a loader that others used before.
structure Gatekept (opener : Opener σ) (spawner : Spawner τ) (opening : σ) (layout : Layout)
    (past : List Operation) (launches : List Launch) (system : System) (means : Means σ τ) :
    Prop where
  gated : ∀ launch ∈ launches, launch.Gated layout
  first : ∀ launch later, launches = launch :: later →
    launch.before = (performAll opener opening (Loader.new layout) past).2.1
  -- What is kept was opened under the home that is set.
  kept : ∀ earlier launch later, launches = earlier ++ launch :: later →
    ∀ runtime, launch.before.loaded = some runtime →
      ∃ home, launch.before.home = some home ∧ OpenedUnder layout home runtime
        (exchanges opener opening (Loader.new layout) (past ++ earlier.flatMap Launch.calls))
  -- And it is there for the next start call only if this one came to its
  -- spawner, which may have failed.
  followed : ∀ earlier launch next later, launches = earlier ++ launch :: next :: later →
    next.before = launch.after ∧
      (next.before.CachedFor next.home ↔
        launch.Spawns ∧ launch.home.components = next.home.components)
  answering : system.core.state = .stopped → system.closing = .open →
    Answering opener spawner system means

theorem preflight_gates_every_spawn {opening : σ} {spawning : τ} {past : List Operation}
    (h : Launching opener spawner config (.inherited opener opening spawning layout past) launches
      system means) :
    Gatekept opener spawner opening layout past launches system means := by
  have hfound : ∀ earlier launch later, launches = earlier ++ launch :: later →
      ∃ before between, Launching opener spawner config
        (.inherited opener opening spawning layout past) earlier before between ∧
        launch = between.launched opener spawner launch.options := by
    rintro earlier launch later rfl
    rw [← List.singleton_append, ← List.append_assoc] at h
    obtain ⟨system, means, hfront⟩ := h.front
    exact hfront.last.2
  have hgated : ∀ launch ∈ launches, launch.Gated layout := by
    intro launch hmem
    obtain ⟨earlier, later, hlaunches⟩ := List.append_of_mem hmem
    obtain ⟨before, between, hbefore, hlaunch⟩ := hfound earlier launch later hlaunches
    rw [hlaunch]
    exact hbefore.gated launch.options
  refine ⟨hgated, ?_, ?_, ?_, ?_⟩
  · intro launch later hlaunches
    obtain ⟨before, between, hbefore, hlaunch⟩ := hfound [] launch later hlaunches
    have hperformed := hbefore.performed
    rw [List.flatMap_nil, List.append_nil] at hperformed
    rw [hlaunch, ← hperformed]
    rfl
  · intro earlier launch later hlaunches
    obtain ⟨before, between, hbefore, hlaunch⟩ := hfound earlier launch later hlaunches
    rw [hlaunch]
    exact hbefore.kept.opened
  · intro earlier launch next later hlaunches
    obtain ⟨before, between, hbefore, hnext⟩ :=
      hfound (earlier ++ [launch]) next later (by simp [hlaunches])
    have hchain : next.before = launch.after := by
      rw [hnext]
      exact hbefore.last.1
    rw [hchain]
    exact ⟨rfl, (hgated launch (by simp [hlaunches])).cachedFor_iff next.home⟩
  · intro hstopped hopen
    obtain ⟨actions, hactions⟩ := h.execution
    exact hactions.answering hstopped hopen opener spawner means

-- There is one library, and the second process cannot be had.

def brittleOpener : Opener Unit := fun state path symbol =>
  if path = Path.ofText "/a/lib/server/libjvm.so" then (.ok ⟨path, false⟩, state)
  else (.error (.symbolMissing path symbol "not there"), state)

def scarceSpawner : Spawner Nat := fun count arguments =>
  if count = 1 then (.error (.spawnFailed (arguments.headD "") "denied"), count + 1)
  else (.ok ⟨UInt32.ofNat (100 + count), false, false⟩, count + 1)

-- The home in two spellings, none, and another one, with a run to its end and a
-- request inside the second start call.
theorem preflight_gates_every_spawn_of_varied :
    ∃ launches system means,
      Launching brittleOpener scarceSpawner .default
        (.inherited brittleOpener () 0 .standard [.setHome (Path.ofText "/x"), .entryPoint])
        launches system means ∧
      launches.map (fun launch => (launch.options.runtimeHome, launch.attempts.length,
        launch.orders.length, launch.after.loaded.isSome)) =
        [("/a", 1, 1, true), ("/a//.", 0, 1, true), ("", 0, 0, false), ("/b", 1, 0, false)] ∧
      Gatekept brittleOpener scarceSpawner () .standard
        [.setHome (Path.ofText "/x"), .entryPoint] launches system means := by
  have hnew : Launching brittleOpener scarceSpawner .default
    (.inherited brittleOpener () 0 .standard [.setHome (Path.ofText "/x"), .entryPoint])
    [] _ _ := .new
  have hrun := (hnew.started [] (.new "/a" "server.jar") rfl (by decide) rfl rfl).asideAll
    [.takePending, .report 1 (.ofCode 0), .teardown 1] (by decide) rfl
  have hspared := hrun.started [.start, .request .force] (.new "/a//." "server.jar")
    rfl (by decide) rfl rfl
  have hhomeless := hspared.started [] (.new "" "server.jar") rfl (by decide) rfl rfl
  have hmoved := hhomeless.started [] (.new "/b" "server.jar") rfl (by decide) rfl rfl
  exact ⟨_, _, _, hmoved, by decide, preflight_gates_every_spawn hmoved⟩

end Overseer.Supervisor
