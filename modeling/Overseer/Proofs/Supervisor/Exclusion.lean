import Overseer.Proofs.Rehearsal.Starting
import Overseer.Proofs.Supervisor.Grammar

namespace Overseer.Supervisor

-- One process at a time: what is over when a start call goes on to the spawner,
-- what becomes of the start calls that come second, and how a run is left.

variable {config : Config} {actions : List Action} {system after : System} {action : Action}
  {id : Nat}

-- A run whose process was installed and that is not there any more had its exit
-- reported, and the observer was told of its end.
structure Over (config : Config) (actions : List Action) (id : Nat) (exit : Exit) : Prop where
  reported : exitReports id actions = [exit]
  line : ⟨some id, .supervisor, stoppedLine exit⟩ ∈ notices (history config actions)
  told : ⟨some id, .supervisor, .stateChanged .stopped⟩ ∈ notices (history config actions)

theorem Execution.over (h : Execution config actions system) {handle : Handle}
    (hattached : .attach id handle ∈ actions) (hgone : system.core.isAttached id = false) :
    ∃ exit, Over config actions id exit := by
  obtain ⟨chapters, hbook, -⟩ := h.book
  have hpair := mem_attachments.mpr hattached
  rw [← hbook.runs] at hpair
  obtain ⟨chapter, hchapter, heq⟩ := List.mem_map.mp hpair
  obtain ⟨rfl, -⟩ := Prod.mk.inj heq
  have hclosed : chapter.exit ≠ none := by
    intro hopen
    simp [hbook.unfinished chapter hchapter hopen] at hgone
  obtain ⟨exit, hexit⟩ := Option.ne_none_iff_exists'.mp hclosed
  have hnotice : ∀ event ∈ Chapter.ending (some exit),
      ⟨some chapter.run, originOf event, event⟩ ∈ notices (history config actions) := by
    intro event hevent
    have hmem : event ∈ chapter.events := by
      rw [Chapter.events, hexit]
      exact List.mem_append_right _ hevent
    rw [hbook.origins]
    exact List.mem_flatMap.mpr ⟨chapter, hchapter, List.mem_map.mpr ⟨event, hmem, rfl⟩⟩
  exact ⟨exit, hbook.exits chapter hchapter exit hexit,
    hnotice (stoppedLine exit) (by simp [Chapter.ending]),
    hnotice (.stateChanged .stopped) (by simp [Chapter.ending])⟩

-- A run ends when its process could not be spawned, or when its exit was
-- reported and nobody reads its streams any more.
inductive Ending (actions : List Action) (system : System) : Action → Prop
  | failed {id : Nat} :
      id ∈ system.windows → (∀ handle, .attach id handle ∉ actions) →
      Ending actions system (.fail id)
  | tornDown {id : Nat} {exit : Exit} :
      exitReports id actions = [exit] → system.readers = [] →
      Ending actions system (.teardown id)

theorem Execution.ending (h : Execution config actions system)
    (hact : system.act action = .moved after) (hactive : system.core.state ≠ .stopped)
    (hstopped : after.core.state = .stopped) : Ending actions system action := by
  cases System.transition_of_act hact with
  | failed hlock hwindow =>
      obtain ⟨run, hrun, hhandle, rfl⟩ := h.consistent.window hwindow
      exact .failed hwindow (h.unattached (by simp [Core.standing, hrun, hhandle]))
  | @tornDown id teardown run hlock hfind hjoined hrun =>
      have hid : teardown.run = id := by simpa using List.find?_some hfind
      have hreported := h.reported.ending teardown (List.mem_of_find?_eq_some hfind)
      rw [hid] at hreported
      obtain ⟨-, -, -, -, -, -, -, hreaders, -⟩ := h.consistent.joined hfind hjoined
      exact .tornDown hreported hreaders
  | begun hlock hopen hbefore => exact absurd hbefore hactive
  | takenUp => simp [System.sendSignal, System.entered, System.put, System.notifyAll] at hstopped
  | announced => simp [System.entered, System.put, System.notifyAll] at hstopped
  | requested hopen hrequest => exact absurd hstopped (hrequest.state_ne hactive)
  | disposeRequested hclosing hrequest => exact absurd hstopped (hrequest.state_ne hactive)
  | _ => exact absurd hstopped hactive

structure Exclusive (config : Config) (actions : List Action) (system : System) : Prop where
  -- A process is only spawned for a start call that is between its parts.
  within : ∀ id handle after,
    system.act (.attach id handle) = .moved after ∨ system.act (.fail id) = .moved after →
    id ∈ system.windows
  -- There is no other such call then, and no process: nothing is read, no exit
  -- is waited for, and no run has a handle.
  alone : ∀ id ∈ system.windows, system.windows = [id] ∧ system.core.pid = none ∧
    system.readers = [] ∧ system.reportable = [] ∧ system.teardowns = []
  earlier : ∀ id ∈ system.windows, ∀ other handle, .attach other handle ∈ actions →
    other ≠ id ∧ ∃ exit, Over config actions other exit
  -- A start call that finds a run does nothing and succeeds, whatever it would
  -- have to get its process from, and so in a rehearsal, also inside another one.
  ignored : system.core.state ≠ .stopped → ∀ after, system.act .start = .moved after →
    after = system
  succeeded : system.core.state ≠ .stopped →
    ∀ {σ α : Type} (host : Host σ) (launch : σ → Except Fault α × σ) install state,
      host.system state = system → host.start launch install state = (.ok (), state)
  answered : system.core.state ≠ .stopped →
    ∀ (stage : Rehearsal.Stage) options depth count, stage.system = system →
      stage.start options = (.done, stage) ∧
      stage.askInside (Rehearsal.Stage.startWithin depth) (.start options) =
        stage.note (.start options) .done (some stage.seen) ∧
      stage.askInside (Rehearsal.Stage.startWithin depth) (.startMany options count) =
        stage.note (.startMany options count) (.succeeded count) (some stage.seen)
  ending : ∀ action after, system.act action = .moved after → system.core.state ≠ .stopped →
    after.core.state = .stopped → Ending actions system action

-- In every order of steps there is one process at a time.
theorem one_process_at_a_time (h : Execution config actions system) :
    Exclusive config actions system where
  within := by
    rintro id handle after (hact | hact)
    · cases System.transition_of_act hact with
      | attached hlock hwindow => exact hwindow
    · cases System.transition_of_act hact with
      | failed hlock hwindow => exact hwindow
  alone := by
    intro id hid
    obtain ⟨run, hrun, hhandle, rfl⟩ := h.consistent.window hid
    have hspawning := h.consistent.spawning run hrun hhandle
    exact ⟨hspawning.windows, by simp [Core.pid, hrun, hhandle], hspawning.readers,
      hspawning.reportable, hspawning.teardowns⟩
  earlier := by
    intro id hid other handle hattached
    obtain ⟨run, hrun, hhandle, rfl⟩ := h.consistent.window hid
    have hstanding : system.core.standing = some (run.id, none) := by
      simp [Core.standing, hrun, hhandle]
    refine ⟨fun heq => ?_, h.over hattached (by simp [Core.isAttached, hrun, hhandle])⟩
    rw [heq] at hattached
    exact h.unattached hstanding handle hattached
  ignored := fun hactive _ => System.act_start_of_active hactive
  succeeded := by
    rintro hactive σ α host launch install state rfl
    exact Host.start_of_active hactive
  answered := by
    rintro hactive stage options depth count rfl
    have hignored := Rehearsal.Stage.ignored_startWithin depth
    exact ⟨Rehearsal.Stage.ignored_startWithin 2 stage options hactive,
      Rehearsal.Stage.askInside_start hignored hactive options,
      Rehearsal.Stage.askInside_startMany hignored hactive options count⟩
  ending := fun _ _ => h.ending

-- A second run that is being started, after one whose exit was reported while it
-- was still read.
def restartedRun : List Action :=
  [.start] ++ installing 1 ⟨7, true, false⟩ ++
    [.report 1 (.ofCode 0), .send 1 .stdout .closed, .read 1 .stdout, .teardown 1, .start, .start]

theorem one_process_at_a_time_of_restarted :
    ∃ system, Execution .default restartedRun system ∧ system.windows = [2] ∧
      Exclusive .default restartedRun system := by
  have hall : ∃ system, (System.new .default).actAll restartedRun = some system ∧
      system.windows = [2] :=
    ⟨_, rfl, rfl⟩
  obtain ⟨system, hall, hwindows⟩ := hall
  exact ⟨system, .of_actAll hall, hwindows, one_process_at_a_time (.of_actAll hall)⟩

end Overseer.Supervisor
