import Overseer.Proofs.Supervisor.Attending
import Overseer.Proofs.Supervisor.Coherence
import Overseer.Proofs.Supervisor.Posting
import Overseer.Proofs.Supervisor.Signals

namespace Overseer.Supervisor

open Overseer.Output Overseer.Text

-- When the observer is told that a run is ready: once the line with the marker
-- was forwarded, unless the end of the run was sought or reported before.

variable {config : Config} {actions : List Action} {steps : List Step} {system after : System}
  {action : Action} {id : Nat} {run : Run}

-- A step that asks for the end of its run. Callers do, and so does the
-- supervisor for a stream that there is no thread to read.
def Step.seeksEnd (step : Step) : Bool :=
  match step.action with
  | .request _ | .disposeRequest | .watch (some _) => true
  | _ => false

def EndSought (id : Nat) (steps : List Step) : Prop :=
  ∃ step ∈ steps, step.run = some id ∧ step.seeksEnd = true

theorem Step.seeksEnd_of_request {step : Step} {signal : Signal}
    (h : step.request? = some signal) :
    step.seeksEnd = true ∧ step.run = step.before.core.run.map Run.id := by
  unfold request? at h
  unfold seeksEnd run
  split at h
  · rename_i haction
    simp [haction]
  · rename_i haction
    simp [haction]
  · cases h

theorem Step.request_of_seeksEnd {step : Step} (h : step.seeksEnd = true)
    (hread : ∀ reason, step.action ≠ .watch (some reason)) :
    ∃ signal, step.request? = some signal := by
  unfold seeksEnd at h
  unfold request?
  split at h
  · rename_i haction
    simp [haction]
  · rename_i haction
    simp [haction]
  · rename_i haction
    exact absurd haction (hread _)
  · cases h

-- If every stream has its thread then only callers ask for the end of a run.
theorem endSought_iff (hread : ∀ step ∈ steps, ∀ reason, step.action ≠ .watch (some reason)) :
    EndSought id steps ↔ earlyRequests id steps ≠ [] ∨ lateRequests id steps ≠ [] := by
  have hcalls : ∀ calls : Step → Bool,
      steps.filterMap (fun step => if calls step then step.request? else none) ≠ [] ↔
        ∃ step ∈ steps, calls step = true ∧ step.request?.isSome = true := by
    intro calls
    simp [List.filterMap_eq_nil_iff, Option.isSome_iff_ne_none]
  unfold earlyRequests lateRequests
  rw [hcalls, hcalls]
  constructor
  · rintro ⟨step, hstep, hrun, hseeks⟩
    obtain ⟨signal, hrequest⟩ := Step.request_of_seeksEnd hseeks (hread step hstep)
    rw [(Step.seeksEnd_of_request hrequest).2] at hrun
    obtain ⟨run, hcurrent, hid⟩ := Option.map_eq_some_iff.mp hrun
    cases hhandle : run.handle with
    | none => exact .inl ⟨step, hstep, by simp [Core.isSpawning, hcurrent, hid, hhandle, hrequest]⟩
    | some handle =>
        exact .inr ⟨step, hstep, by simp [Core.isAttached, hcurrent, hid, hhandle, hrequest]⟩
  · have howns : ∀ step ∈ steps, (∃ run, step.before.core.run = some run ∧ run.id = id) →
        step.request?.isSome = true → EndSought id steps := by
      rintro step hstep ⟨run, hrun, hid⟩ hsome
      obtain ⟨signal, hrequest⟩ := Option.isSome_iff_exists.mp hsome
      obtain ⟨hseeks, howner⟩ := Step.seeksEnd_of_request hrequest
      exact ⟨step, hstep, by simp [howner, hrun, hid], hseeks⟩
    rintro (⟨step, hstep, hcalled, hsome⟩ | ⟨step, hstep, hcalled, hsome⟩)
    · obtain ⟨run, hrun, hid, -⟩ : ∃ run, step.before.core.run = some run ∧ run.id = id ∧
          run.handle = none := by
        simpa [Core.isSpawning, Option.any_eq_true] using hcalled
      exact howns step hstep ⟨run, hrun, hid⟩ hsome
    · obtain ⟨run, hrun, hid, -⟩ := Core.isAttached_iff.mp hcalled
      exact howns step hstep ⟨run, hrun, hid⟩ hsome

-- The run is stopping, or is going to be as soon as its process is there.
def Core.isEnding (core : Core) : Bool :=
  core.state = .stopping || core.run.any fun run => run.pending.isSome

theorem endSought_concat {step : Step} :
    EndSought id (steps ++ [step]) ↔
      EndSought id steps ∨ step.run = some id ∧ step.seeksEnd = true := by
  simp [EndSought, or_and_right, exists_or]

theorem Requesting.isEnding {signal : Signal} (hstep : Requesting system signal after)
    (hconsistent : Consistent system) (hrun : system.core.run ≠ none) :
    after.core.isEnding = true := by
  cases hstep with
  | ignored hlock hidle =>
      have hstopping : system.core.state = .stopping :=
        (hidle.resolve_left fun hstopped => hrun (hconsistent.stopped_iff.mp hstopped)).1
      simp [Core.isEnding, hstopping]
  | recorded => simp [Core.isEnding]
  | entered => simp [Core.isEnding, System.sendSignal, System.entered, System.put, System.notifyAll]
  | repeated hlock hrun hhandle hstopping => simp [Core.isEnding, System.sendSignal, hstopping]

namespace Consistent

-- As long as the run is there it is ending from when that was first asked for.
theorem isEnding (h : Consistent system) (hstep : Transition system action after)
    (hbefore : system.core.run ≠ none) (hafter : after.core.run ≠ none) :
    after.core.isEnding = (system.core.isEnding || (Step.mk system action after).seeksEnd) := by
  cases hstep with
  | begun hlock hopen hstopped => exact absurd (h.stopped_iff.mp hstopped) hbefore
  | failed | tornDown => exact absurd rfl hafter
  | attached hlock hwindow hrun =>
      simp [Core.isEnding, Step.seeksEnd, System.record, System.put, hrun]
  | watched =>
      obtain ⟨run, hrun⟩ := Option.ne_none_iff_exists'.mp hbefore
      simp [Core.isEnding, Step.seeksEnd, Core.addReader, hrun]
  | unwatched =>
      obtain ⟨run, hrun⟩ := Option.ne_none_iff_exists'.mp hbefore
      simp [Core.isEnding, Step.seeksEnd, Core.missReader, System.put, hrun]
  | takenUp hlock hrun hpending =>
      simp [Core.isEnding, Step.seeksEnd, System.sendSignal, System.entered, System.put,
        System.notifyAll, hrun, hpending]
  | requested hopen hrequest =>
      rw [hrequest.isEnding h hbefore]
      simp [Step.seeksEnd]
  | disposeRequested hclosing hrequest =>
      have hending := hrequest.isEnding h hbefore
      simp [Step.seeksEnd, hending]
  | announced hlock hfind hannouncing hrun hid hexited hstarting =>
      simp [Core.isEnding, Step.seeksEnd, System.entered, System.put, System.notifyAll,
        System.setReader, hstarting]
  | reported hlock hreport hrun => simp [Core.isEnding, Step.seeksEnd, System.record, hrun]
  | _ => exact (Bool.or_false _).symm

-- The run that is there after a step was there before it, or was opened by it.
theorem old_or_new (h : Consistent system) (hstep : Transition system action after)
    (hrun : after.core.run = some run) :
    (∃ old, system.core.run = some old ∧ old.id = run.id) ∨
      action = .start ∧ run = ⟨system.core.lastRun + 1, none, [], none, false⟩ ∧
        after.core.state = .starting := by
  have hstanding : after.core.standing = some (run.id, run.handle) := by
    simp [Core.standing, hrun]
  have hold : ∀ handle, system.core.standing = some (run.id, handle) →
      ∃ old, system.core.run = some old ∧ old.id = run.id := by
    intro handle hbefore
    obtain ⟨old, hold, hpair⟩ := Option.map_eq_some_iff.mp hbefore
    exact ⟨old, hold, (Prod.mk.inj hpair).1⟩
  cases h.turn hstep with
  | begun hnone =>
      cases hstep with
      | startIgnored => simp [hnone] at hstanding
      | begun =>
          obtain rfl := Option.some.inj hrun
          exact .inr ⟨rfl, rfl, rfl⟩
  | failed _ hgone => simp [hgone] at hstanding
  | ended _ hgone => simp [hgone] at hstanding
  | @attached id handle hbefore hattached =>
      obtain ⟨rfl, -⟩ : id = run.id ∧ some handle = run.handle := by
        simpa [hstanding, eq_comm] using hattached
      exact .inl (hold _ hbefore)
  | same hsame => exact .inl (hold _ (hsame.symm.trans hstanding))

theorem run_of_seeksEnd (h : Consistent system) (hstep : Transition system action after)
    (hseeks : (Step.mk system action after).seeksEnd = true) :
    (Step.mk system action after).run = system.core.run.map Run.id := by
  cases hstep with
  | requested => rfl
  | disposeRequested => rfl
  | unwatched hlock =>
      obtain ⟨run, -, hrun, -, hid, -⟩ := h.attaching hlock
      simp [Step.run, hlock, Holder.run, hrun, hid]
  | _ => cases hseeks

end Consistent

-- What was asked of a run shows in the core while the run is there.
structure Sought (id : Nat) (steps : List Step) (system : System) : Prop where
  unknown : system.core.lastRun < id → ¬EndSought id steps
  current : ∀ run, system.core.run = some run → run.id = id →
    (EndSought id steps ↔ system.core.isEnding = true)

namespace Sought

theorem initial (config : Config) (id : Nat) : Sought id [] (System.new config) where
  unknown := by simp [EndSought]
  current := by simp [System.new, Core.initial]

theorem transition (h : Sought id steps system) (hconsistent : Consistent system)
    (hstep : Transition system action after) :
    Sought id (steps ++ [⟨system, action, after⟩]) after := by
  have hnew : (Step.mk system action after).seeksEnd = true →
      ((Step.mk system action after).run = some id ↔
        ∃ run, system.core.run = some run ∧ run.id = id) := fun hseeks => by
    rw [hconsistent.run_of_seeksEnd hstep hseeks, Option.map_eq_some_iff]
  refine ⟨fun hlt => ?_, fun run hrun hid => ?_⟩
  · have hlast : system.core.lastRun < id := by
      cases hconsistent.turn hstep <;> omega
    rw [endSought_concat]
    rintro (hsought | ⟨howner, hseeks⟩)
    · exact h.unknown hlast hsought
    · obtain ⟨run, hrun, hid⟩ := (hnew hseeks).mp howner
      have hcurrent := hconsistent.current run hrun
      omega
  · rcases hconsistent.old_or_new hstep hrun with ⟨old, hold, hsame⟩ | ⟨rfl, rfl, hstate⟩
    · rw [endSought_concat, h.current old hold (hsame.trans hid),
        hconsistent.isEnding hstep (by simp [hold]) (by simp [hrun]), Bool.or_eq_true]
      refine or_congr_right ⟨fun hseeks => hseeks.2, fun hseeks => ⟨?_, hseeks⟩⟩
      exact (hnew hseeks).mpr ⟨old, hold, hsame.trans hid⟩
    · -- A number that was never used before.
      have hfresh : ¬EndSought id steps := h.unknown (by rw [← hid]; exact Nat.lt_succ_self _)
      simp [endSought_concat, hfresh, Step.seeksEnd, Core.isEnding, hrun, hstate]

end Sought

theorem Execution.sought (h : Execution config actions system) (id : Nat) :
    Sought id (history config actions) system := by
  induction h with
  | initial => exact .initial config id
  | step hbefore hact ih =>
      rw [hbefore.history_concat hact]
      exact ih.transition hbefore.consistent (System.transition_of_act hact)

-- The exit of the run that is there is flagged if and only if it was reported.
theorem Execution.exited_iff (h : Execution config actions system)
    (hrun : system.core.run = some run) :
    run.exited = false ↔ exitReports run.id actions = [] := by
  have hreported := h.reported
  cases hhandle : run.handle with
  | none =>
      have hspawning := h.consistent.spawning run hrun hhandle
      have hnone := hreported.spawning run.id (by simp [hspawning.windows])
      simp [hspawning.exited, hnone]
  | some handle =>
      have hattached := h.consistent.attached run handle hrun hhandle
      have hreportable := hattached.reportable
      have hteardowns := hattached.teardowns
      cases hexited : run.exited with
      | false =>
          rw [hexited] at hreportable
          simp [hreported.reportable run.id (by simp [hreportable])]
      | true =>
          rw [hexited] at hteardowns
          obtain ⟨teardown, hmem, hid⟩ : ∃ teardown ∈ system.teardowns, teardown.run = run.id :=
            List.mem_map.mp (by simp [hteardowns])
          have hone := hreported.ending teardown hmem
          rw [hid] at hone
          simp [hone]

-- A reader that tells of the marker makes its run ready, or changes nothing
-- that anyone else can see.
theorem Execution.announce (h : Execution config actions system)
    (hact : system.act (.announce id) = .moved after) :
    (¬EndSought id (history config actions) ∧ exitReports id actions = [] ∧
      system.core.run ≠ none ∧ after.queue = system.queue.putAll [.stateChanged .running]) ∨
    ((EndSought id (history config actions) ∨ exitReports id actions ≠ []) ∧
      after.core = system.core ∧ after.queue = system.queue) := by
  have howner : ∀ {thread}, system.findReader id .stdout = some thread →
      ∃ run handle, system.core.run = some run ∧ run.id = id ∧ Attached system run handle := by
    intro thread hfind
    obtain ⟨hmem, hid, -⟩ := System.findReader_eq_some hfind
    obtain ⟨run, handle, hrun, -, hattached⟩ := h.consistent.reader_owner hmem
    exact ⟨run, handle, hrun, (hattached.fits thread hmem).owner.symm.trans hid, hattached⟩
  cases System.transition_of_act hact with
  | announcedInVain hlock hfind htold hready =>
      obtain ⟨run, handle, hrun, rfl, hattached⟩ := howner hfind
      refine .inr ⟨?_, rfl, rfl⟩
      rw [(h.sought run.id).current run hrun rfl]
      cases hstate : system.core.state with
      | starting =>
          have hexited : run.exited = true := by simpa [Core.ready, hrun, hstate] using hready
          exact .inr fun hnone => by simp [(h.exited_iff hrun).mpr hnone] at hexited
      | stopping => exact .inl (by simp [Core.isEnding, hstate])
      | running => simp [Core.ready, hrun, hstate] at hready
      | stopped => simp [Core.ready, hrun, hstate] at hready
  | announced hlock hfind htold hrun hid hexited hstarting =>
      obtain ⟨run, handle, hrun', rfl, hattached⟩ := howner hfind
      obtain rfl := Option.some.inj (hrun.symm.trans hrun')
      have hpending := hattached.held
      simp only [Held, hlock] at hpending
      refine .inl ⟨?_, (h.exited_iff hrun).mp hexited, by simp [hrun], rfl⟩
      rw [(h.sought _).current _ hrun rfl]
      simp [Core.isEnding, hstarting, hrun, hpending]

-- The observer is told at a reader's announcement and at no other step.
theorem Execution.tells_running_iff (h : Execution config actions system)
    (hact : system.act action = .moved after) :
    .stateChanged .running ∈ (Step.mk system action after).events ↔
      ∃ id, action = .announce id ∧ ¬EndSought id (history config actions) ∧
        exitReports id actions = [] := by
  constructor
  · intro hmem
    have hposting := h.consistent.posting (System.transition_of_act hact)
    obtain ⟨id, rfl, -⟩ := hposting.announce hmem
    rcases h.announce hact with ⟨hsought, hexit, -⟩ | ⟨-, -, hsame⟩
    · exact ⟨id, rfl, hsought, hexit⟩
    · rw [Step.events_of_same (congrArg Queue.events hsame)] at hmem
      cases hmem
  · rintro ⟨id, rfl, hsought, hexit⟩
    rcases h.announce hact with ⟨-, -, hrun, hqueue⟩ | ⟨hended, -⟩
    · rw [h.consistent.events_of_posted hqueue hrun]
      exact List.mem_singleton.mpr rfl
    · exact absurd hended (not_or.mpr ⟨hsought, fun hsome => hsome hexit⟩)

-- What was read from standard output has a line with the marker, complete.
def MarkerRead (config : Config) (id : Nat) (steps : List Step) : Prop :=
  HasMarkedLine (Utf8.encode config.marker) (bytesRead id .stdout steps)

theorem MarkerRead.concat {step : Step} (h : MarkerRead config id steps) :
    MarkerRead config id (steps ++ [step]) := by
  unfold MarkerRead bytesRead at h ⊢
  rw [pieces_concat, List.flatten_append]
  exact h.append _

-- A reader that has something to tell goes on by telling it.
theorem Execution.announcing_iff (h : Execution config actions system) :
    (∃ after, system.act (.announce id) = .moved after) ↔
      system.lock = none ∧ system.isAnnouncing id = true := by
  constructor
  · rintro ⟨after, hact⟩
    cases System.transition_of_act hact with
    | announcedInVain hlock hfind htold =>
        exact ⟨hlock, (System.isAnnouncing_of_some hfind).trans htold⟩
    | announced hlock hfind htold =>
        exact ⟨hlock, (System.isAnnouncing_of_some hfind).trans htold⟩
  · rintro ⟨hlock, hannouncing⟩
    cases hact : system.act (.announce id) with
    | moved after => exact ⟨after, rfl⟩
    | broken violation => exact absurd hact (h.consistent.act_ne_broken _ violation)
    | blocked =>
        obtain ⟨thread, hfind, htold⟩ := System.thread_of_isAnnouncing hannouncing
        simp only [System.act, System.onAnnounce, System.isFree, hlock, hfind, htold] at hact
        repeat' split at hact
        all_goals simp_all

theorem System.read_blocked (hannouncing : system.isAnnouncing id = true) :
    system.act (.read id .stdout) = .blocked := by
  obtain ⟨thread, hfind, htold⟩ := System.thread_of_isAnnouncing hannouncing
  simp [System.act, System.onRead, hfind, htold]

theorem Book.events_eq {chapters : List Chapter} (h : Book config actions system chapters) :
    system.queue.events = (notices (history config actions)).map Notice.event := by
  rw [h.queued, h.origins, List.map_flatMap]
  simp only [Chapter.map_event_notices]

-- Nobody but a run tells anything.
theorem Execution.run_of_event (h : Execution config actions system) {event : Event}
    (hmem : event ∈ system.queue.events) :
    ∃ id, ⟨some id, originOf event, event⟩ ∈ notices (history config actions) := by
  obtain ⟨chapters, hbook, -⟩ := h.book
  rw [hbook.queued] at hmem
  obtain ⟨chapter, hchapter, hevent⟩ := List.mem_flatMap.mp hmem
  refine ⟨chapter.run, ?_⟩
  rw [hbook.origins]
  exact List.mem_flatMap.mpr ⟨chapter, hchapter, List.mem_map.mpr ⟨event, hevent, rfl⟩⟩

theorem Execution.marker_read_of_announcing (h : Execution config actions system)
    (hannouncing : system.isAnnouncing id = true) :
    MarkerRead config id (history config actions) := by
  have hscanned := h.scanned id
  have hone : announcements id actions + (system.isAnnouncing id).toNat = 1 := by
    have honce := hscanned.once
    rw [hannouncing, Bool.toNat_true] at honce ⊢
    omega
  have hmarked := hscanned.due.mp hone
  rwa [h.config_eq] at hmarked

theorem Execution.marker_read_of_running (h : Execution config actions system)
    (htold : ⟨some id, .supervisor, .stateChanged .running⟩ ∈ notices (history config actions)) :
    MarkerRead config id (history config actions) := by
  induction h with
  | initial => cases htold
  | @step actions before after action hbefore hact ih =>
      rw [hbefore.history_concat hact] at htold ⊢
      rw [notices_concat] at htold
      rcases List.mem_append.mp htold with htold | htold
      · exact (ih htold).concat
      · obtain ⟨event, hevent, hnotice⟩ := List.mem_map.mp htold
        obtain ⟨hrun, -, rfl⟩ : (Step.mk before action after).run = some id ∧
            (Step.mk before action after).origin = .supervisor ∧
              event = .stateChanged .running := by
          simpa using hnotice
        obtain ⟨owner, rfl, -⟩ := (hbefore.tells_running_iff hact).mp hevent
        obtain rfl := Option.some.inj hrun
        exact (hbefore.marker_read_of_announcing
          (hbefore.announcing_iff.mp ⟨after, hact⟩).2).concat

-- What the reader of a run's standard output, and whoever listens to the
-- supervisor, can rely on at any time.
structure Gated (config : Config) (actions : List Action) (system : System) : Prop where
  -- The reader comes to tell of the marker once or never, and exactly if what
  -- it has read has a complete line with the marker.
  once : ∀ id, announcements id actions + (system.isAnnouncing id).toNat ≤ 1
  due : ∀ id, announcements id actions + (system.isAnnouncing id).toNat = 1 ↔
    MarkerRead config id (history config actions)
  -- It does so right after the piece that completes the line: the pieces before
  -- had no such line, and it cannot read another one first.
  prompt : ∀ id, system.isAnnouncing id = true →
    (∃ earlier last, pieces id .stdout (history config actions) = earlier ++ [last] ∧
      ¬HasMarkedLine (Utf8.encode config.marker) earlier.flatten) ∧
    system.act (.read id .stdout) = .blocked
  able : ∀ id, (∃ after, system.act (.announce id) = .moved after) ↔
    system.lock = none ∧ system.isAnnouncing id = true
  -- The observer is told that the run is ready at this step and at no other,
  -- if nobody asked for its end and its exit was not reported.
  told : ∀ action after, system.act action = .moved after →
    (.stateChanged .running ∈ (Step.mk system action after).events ↔
      ∃ id, action = .announce id ∧ ¬EndSought id (history config actions) ∧
        exitReports id actions = [])
  sought : (∀ reason, .watch (some reason) ∉ actions) → ∀ id,
    (EndSought id (history config actions) ↔
      earlyRequests id (history config actions) ≠ [] ∨
        lateRequests id (history config actions) ≠ [])
  suppressed : ∀ id after, system.act (.announce id) = .moved after →
    EndSought id (history config actions) ∨ exitReports id actions ≠ [] →
    after.core = system.core ∧ after.queue = system.queue
  -- By then the text of the line was forwarded, through its newline.
  shown : ∀ id after, system.act (.announce id) = .moved after →
    ∃ before line tail rest,
      MarkedLine (Utf8.encode config.marker) (bytesRead id .stdout (history config actions))
        before line tail ∧
      forwarded id .stdout (history config actions) =
        Utf8.lossy before ++ Utf8.lossy (line ++ [newline]) ++ rest
  -- Without such a line on standard output no run is ever said to be ready.
  only : ∀ id,
    ⟨some id, .supervisor, .stateChanged .running⟩ ∈ notices (history config actions) →
    MarkerRead config id (history config actions)
  never : config.marker = "" ∨ newline ∈ Utf8.encode config.marker →
    .stateChanged .running ∉ system.queue.events
  queued : system.queue.events = (notices (history config actions)).map Notice.event

-- In every order of steps, and for every marker, scan limit and chunk size,
-- readiness is gated in this way.
theorem readiness_is_gated (h : Execution config actions system) :
    Gated config actions system where
  once := fun id => (h.scanned id).once
  due := by
    intro id
    rw [(h.scanned id).due, h.config_eq]
    rfl
  prompt := by
    intro id hannouncing
    have hprompt := (h.scanned id).prompt hannouncing
    rw [h.config_eq] at hprompt
    exact ⟨hprompt, System.read_blocked hannouncing⟩
  able := fun _ => h.announcing_iff
  told := fun _ _ => h.tells_running_iff
  sought := by
    intro hread id
    refine endSought_iff fun step hstep reason heq => hread reason ?_
    rw [← heq, ← h.map_action_history]
    exact List.mem_map_of_mem hstep
  suppressed := by
    intro id after hact hended
    rcases h.announce hact with ⟨hsought, hexit, -⟩ | ⟨-, hsame⟩
    · exact absurd hended (not_or.mpr ⟨hsought, fun hsome => hsome hexit⟩)
    · exact hsame
  shown := by
    intro id after hact
    have hannouncing := (h.announcing_iff.mp ⟨after, hact⟩).2
    obtain ⟨before, line, tail, hline⟩ := h.marker_read_of_announcing hannouncing
    obtain ⟨thread, hfind, -⟩ := System.thread_of_isAnnouncing hannouncing
    obtain ⟨rest, hrest⟩ := hline.decoded
    exact ⟨before, line, tail, rest, hline,
      (((h.scanned id).reading thread hfind).2).trans hrest⟩
  only := fun _ => h.marker_read_of_running
  never := by
    intro hmarker hmem
    obtain ⟨id, hnotice⟩ := h.run_of_event hmem
    have hmarked := h.marker_read_of_running hnotice
    rcases hmarker with hempty | hnewline
    · obtain ⟨before, line, tail, hline⟩ := hmarked
      exact hline.nonempty (by rw [hempty]; rfl)
    · exact hmarked.unbroken hnewline
  queued := by
    obtain ⟨chapters, hbook, -⟩ := h.book
    exact hbook.events_eq

-- A marker that arrives in two pieces, on a line that goes on after it, while
-- the run is asked to stop.
def eagerRun : List Action :=
  [.start] ++ installing 1 ⟨7, true, true⟩ ++
    [.send 1 .stderr (.data [79, 75, 10]), .read 1 .stderr, .send 1 .stdout (.data [33, 79]),
      .read 1 .stdout, .send 1 .stdout (.data [75, 46, 10, 79]), .read 1 .stdout,
      .request .graceful, .conclude (.ok ())]

theorem readiness_is_gated_of_eager :
    ∃ system, Execution ⟨"OK", 8, 4⟩ eagerRun system ∧ system.isAnnouncing 1 = true ∧
      Gated ⟨"OK", 8, 4⟩ eagerRun system := by
  have hall : ∃ system, (System.new ⟨"OK", 8, 4⟩).actAll eagerRun = some system ∧
      system.isAnnouncing 1 = true :=
    ⟨_, rfl, by decide⟩
  obtain ⟨system, hall, hannouncing⟩ := hall
  exact ⟨system, .of_actAll hall, hannouncing, readiness_is_gated (.of_actAll hall)⟩

end Overseer.Supervisor
