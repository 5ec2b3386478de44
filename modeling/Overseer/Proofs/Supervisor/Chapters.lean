import Overseer.Proofs.Supervisor.History
import Overseer.Proofs.Supervisor.Lifecycle

namespace Overseer.Supervisor

-- The queue read as a book: one chapter for each run that got a process, in the
-- order of their starts, and nothing between the chapters. Only the last one
-- may be unfinished.

structure Chapter where
  run : Nat
  handle : Handle
  -- What stands between the events that open the run and those that close it.
  body : List Event
  -- None while the run is not over.
  exit : Option Exit

def originOf : Event → Source
  | .output line => line.source
  | .stateChanged _ => .supervisor

namespace Chapter

def opening (handle : Handle) : List Event := [startedLine handle.pid, .stateChanged .starting]

def ending : Option Exit → List Event
  | none => []
  | some exit => [stoppedLine exit, .stateChanged .stopped]

def events (chapter : Chapter) : List Event :=
  opening chapter.handle ++ chapter.body ++ ending chapter.exit

-- Every event of a chapter was put in the queue for its run, and an output by
-- whoever it is attributed to.
def notices (chapter : Chapter) : List Notice :=
  chapter.events.map fun event => ⟨some chapter.run, originOf event, event⟩

end Chapter

-- The body of a chapter as it grows, with the state that it leaves the run in.
-- A reader that was refused and a request that failed come from the actions.
inductive Body (actions : List Action) (handle : Handle) : State → List Event → Prop
  | opened : Body actions handle .starting []
  | output {state : State} {body : List Event} {source : Source} {text : String} :
      Body actions handle state body → source ∈ handle.streams → text ≠ "" →
      Body actions handle state (body ++ [.output ⟨source, text⟩])
  | unread {body : List Event} {source : Source} {reason : String} :
      Body actions handle .starting body → source ∈ handle.streams →
      .watch (some reason) ∈ actions →
      Body actions handle .starting (body ++ [unreadLine source reason])
  | running {body : List Event} :
      Body actions handle .starting body →
      Body actions handle .running (body ++ [.stateChanged .running])
  | stopping {state : State} {body : List Event} :
      Body actions handle state body → state = .starting ∨ state = .running →
      Body actions handle .stopping (body ++ [.stateChanged .stopping])
  | refused {body : List Event} {fault : Fault} :
      Body actions handle .stopping body → .conclude (.error fault) ∈ actions →
      Body actions handle .stopping (body ++ [refusedLine fault])

theorem Body.mono {actions more : List Action} {handle : Handle} {state : State}
    {body : List Event} (h : Body actions handle state body) :
    Body (actions ++ more) handle state body := by
  induction h with
  | opened => exact .opened
  | output _ hsource htext ih => exact .output ih hsource htext
  | unread _ hsource hrefused ih =>
      exact .unread ih hsource (List.mem_append_left _ hrefused)
  | running _ ih => exact .running ih
  | stopping _ hstate ih => exact .stopping ih hstate
  | refused _ hfault ih => exact .refused ih (List.mem_append_left _ hfault)

-- What a step adds to the chapter of the run that has its process.
structure Adds (step : Step) (events : List Event) : Prop where
  queued : step.after.queue.events = step.before.queue.events ++ events
  labelled : events ≠ [] → ∃ id handle,
    step.before.core.standing = some (id, some handle) ∧ step.run = some id ∧
      ∀ event ∈ events, originOf event = step.origin
  -- No more than one event, so that no reader could have put one in between.
  short : events.length ≤ 1
  grown : ∀ id handle {actions body}, step.before.core.standing = some (id, some handle) →
    Body actions handle step.before.core.state body →
    Body (actions ++ [step.action]) handle step.after.core.state (body ++ events)

theorem Adds.events_eq {step : Step} {events : List Event} (h : Adds step events) :
    step.events = events := by
  rw [Step.events, h.queued, List.drop_left]

-- A chapter that is finished, with the one report that was made of its exit.
def Chapter.Finished (actions : List Action) (chapter : Chapter) : Prop :=
  ∃ exit state, chapter.exit = some exit ∧ exitReports chapter.run actions = [exit] ∧
    Body actions chapter.handle state chapter.body

theorem Chapter.Finished.concat {actions : List Action} {action : Action} {chapter : Chapter}
    (h : chapter.Finished actions) (hquiet : exitReports chapter.run [action] = []) :
    chapter.Finished (actions ++ [action]) := by
  obtain ⟨exit, state, hexit, hreported, hbody⟩ := h
  refine ⟨exit, state, hexit, ?_, hbody.mono⟩
  rw [exitReports_concat, hreported, hquiet, List.append_nil]

-- The chapter of the run that has its process, if there is one.
def Core.openChapter (core : Core) (body : List Event) : List Chapter :=
  match core.standing with
  | some (id, some handle) => [⟨id, handle, body, none⟩]
  | _ => []

theorem Core.openChapter_of_attached {core : Core} {id : Nat} {handle : Handle}
    (h : core.standing = some (id, some handle)) (body : List Event) :
    core.openChapter body = [⟨id, handle, body, none⟩] := by
  simp [openChapter, h]

theorem Core.openChapter_of_spawning {core : Core} {id : Nat}
    (h : core.standing = some (id, none)) (body : List Event) : core.openChapter body = [] := by
  simp [openChapter, h]

theorem Core.openChapter_of_none {core : Core} (h : core.standing = none) (body : List Event) :
    core.openChapter body = [] := by
  simp [openChapter, h]

theorem Core.openChapter_congr {core after : Core} (h : after.standing = core.standing)
    (body : List Event) : after.openChapter body = core.openChapter body := by
  simp only [openChapter, h]

theorem Core.map_openChapter (core : Core) (body other : List Event) :
    ((core.openChapter body).map fun chapter => (chapter.run, chapter.handle)) =
      (core.openChapter other).map fun chapter => (chapter.run, chapter.handle) := by
  unfold openChapter
  split <;> rfl

-- The whole book: the chapters that are closed and the body of the open one.
structure Chronicle (actions : List Action) (steps : List Step) (system : System)
    (closed : List Chapter) (body : List Event) : Prop where
  told : notices steps = (closed ++ system.core.openChapter body).flatMap Chapter.notices
  queued : system.queue.events = (notices steps).map Notice.event
  installed : attachments actions =
    (closed ++ system.core.openChapter body).map fun chapter => (chapter.run, chapter.handle)
  finished : ∀ chapter ∈ closed, chapter.Finished actions
  older : ∀ chapter ∈ closed, chapter.run ≤ system.core.lastRun ∧
    (system.core.standing ≠ none → chapter.run < system.core.lastRun)
  order : (closed.map Chapter.run).Pairwise (· < ·)
  failed : ∀ id, Action.fail id ∈ actions → id ≤ system.core.lastRun ∧
    (system.core.standing ≠ none → id < system.core.lastRun) ∧
    ∀ chapter ∈ closed, chapter.run ≠ id
  current : ∀ id handle, system.core.standing = some (id, some handle) →
    Body actions handle system.core.state body

namespace Chronicle

variable {actions : List Action} {steps : List Step} {system after : System} {action : Action}
  {closed : List Chapter} {body : List Event}

theorem initial (config : Config) : Chronicle [] [] (System.new config) [] [] := by
  refine ⟨rfl, rfl, rfl, ?_, ?_, ?_, ?_, ?_⟩ <;> simp [System.new, Core.initial, Core.standing]

theorem standing_lt (h : Chronicle actions steps system closed body) {chapter : Chapter}
    (hchapter : chapter ∈ closed) {id : Nat} {handle : Option Handle}
    (hstanding : system.core.standing = some (id, handle)) :
    chapter.run < system.core.lastRun :=
  (h.older chapter hchapter).2 (by simp [hstanding])

-- A step that neither brings a run nor takes one away adds to the open chapter.
theorem proceed (h : Chronicle actions steps system closed body) {events : List Event}
    (hstanding : after.core.standing = system.core.standing)
    (hlast : after.core.lastRun = system.core.lastRun) (hkind : action.isTurn = false)
    (hreports : ∀ chapter ∈ closed, exitReports chapter.run [action] = [])
    (hadds : Adds ⟨system, action, after⟩ events) :
    Chronicle (actions ++ [action]) (steps ++ [⟨system, action, after⟩]) after closed
      (body ++ events) := by
  have hqueue : after.queue.events = system.queue.events ++ events := hadds.queued
  have hnotices : (Step.mk system action after).notices =
      events.map fun event =>
        ⟨(Step.mk system action after).run, (Step.mk system action after).origin, event⟩ := by
    rw [Step.notices, hadds.events_eq]
  have hattachments : attachments [action] = [] := by
    cases action <;> simp_all [Action.isTurn, attachments]
  have hfails : ∀ id, Action.fail id ∉ [action] := by
    cases action <;> simp_all [Action.isTurn]
  refine ⟨?_, ?_, ?_, ?_, ?_, h.order, ?_, ?_⟩
  · rw [notices_concat, hnotices, h.told, Core.openChapter_congr hstanding]
    by_cases hsome : events = []
    · simp [hsome]
    obtain ⟨id, handle, hopen, hrun, horigin⟩ := hadds.labelled hsome
    have hmap : events.map (fun event => Notice.mk (some id) (originOf event) event) =
        events.map fun event =>
          ⟨some id, (Step.mk system action after).origin, event⟩ :=
      List.map_congr_left fun event hevent => by rw [horigin event hevent]
    rw [Core.openChapter_of_attached hopen, Core.openChapter_of_attached hopen, hrun, ← hmap]
    simp [Chapter.notices, Chapter.events, Chapter.ending]
  · rw [notices_concat, hnotices, hqueue, h.queued]
    simp [Function.comp_def]
  · rw [attachments_concat, hattachments, h.installed, List.append_nil,
      Core.openChapter_congr hstanding]
    simp only [List.map_append, Core.map_openChapter system.core (body ++ events) body]
  · exact fun chapter hchapter =>
      (h.finished chapter hchapter).concat (hreports chapter hchapter)
  · rw [hlast, hstanding]
    exact h.older
  · intro id hid
    rw [hlast, hstanding]
    rcases List.mem_append.mp hid with hid | hid
    · exact h.failed id hid
    · exact absurd hid (hfails id)
  · intro id handle hopen
    rw [hstanding] at hopen
    exact hadds.grown id handle hopen (h.current id handle hopen)

-- The four kinds of step that bring a run or take one away.

-- No chapter is open before or after.
theorem silent (h : Chronicle actions steps system closed body)
    (hbefore : ∀ body, system.core.openChapter body = [])
    (hafter : ∀ body, after.core.openChapter body = [])
    (hqueue : after.queue.events = system.queue.events)
    (hattachments : attachments [action] = [])
    (hreports : ∀ chapter ∈ closed, exitReports chapter.run [action] = [])
    (holder : ∀ chapter ∈ closed, chapter.run ≤ after.core.lastRun ∧
      (after.core.standing ≠ none → chapter.run < after.core.lastRun))
    (hfailed : ∀ id, Action.fail id ∈ actions ++ [action] → id ≤ after.core.lastRun ∧
      (after.core.standing ≠ none → id < after.core.lastRun) ∧
      ∀ chapter ∈ closed, chapter.run ≠ id) :
    Chronicle (actions ++ [action]) (steps ++ [⟨system, action, after⟩]) after closed [] := by
  have hnotices : (Step.mk system action after).notices = [] := by
    rw [Step.notices, Step.events_of_same hqueue, List.map_nil]
  refine ⟨?_, ?_, ?_, ?_, holder, h.order, hfailed, ?_⟩
  · rw [notices_concat, hnotices, h.told, hbefore, hafter, List.append_nil]
  · rw [notices_concat, hnotices, hqueue, h.queued, List.append_nil]
  · rw [attachments_concat, hattachments, h.installed, hbefore, hafter, List.append_nil]
  · exact fun chapter hchapter =>
      (h.finished chapter hchapter).concat (hreports chapter hchapter)
  · intro id handle hopen
    have hnone := hafter []
    rw [Core.openChapter_of_attached hopen] at hnone
    cases hnone

theorem begin (h : Chronicle actions steps system closed body)
    (hbefore : system.core.standing = none)
    (hafter : after.core.standing = some (system.core.lastRun + 1, none))
    (hlast : after.core.lastRun = system.core.lastRun + 1)
    (hqueue : after.queue.events = system.queue.events) :
    Chronicle (actions ++ [.start]) (steps ++ [⟨system, .start, after⟩]) after closed [] := by
  refine h.silent (Core.openChapter_of_none hbefore) (Core.openChapter_of_spawning hafter) hqueue
    rfl (fun _ _ => rfl) ?_ ?_
  · intro chapter hchapter
    have hle := (h.older chapter hchapter).1
    rw [hlast]
    exact ⟨by omega, fun _ => by omega⟩
  · intro id hid
    have hid : Action.fail id ∈ actions := by simpa using hid
    obtain ⟨hle, -, hne⟩ := h.failed id hid
    rw [hlast]
    exact ⟨by omega, fun _ => by omega, hne⟩

theorem fail (h : Chronicle actions steps system closed body) {id : Nat}
    (hcurrent : id = system.core.lastRun)
    (hbefore : system.core.standing = some (id, none)) (hafter : after.core.standing = none)
    (hlast : after.core.lastRun = system.core.lastRun)
    (hqueue : after.queue.events = system.queue.events) :
    Chronicle (actions ++ [.fail id]) (steps ++ [⟨system, .fail id, after⟩]) after closed [] := by
  refine h.silent (Core.openChapter_of_spawning hbefore) (Core.openChapter_of_none hafter) hqueue
    rfl (fun _ _ => rfl) ?_ ?_
  · intro chapter hchapter
    rw [hlast]
    exact ⟨(h.older chapter hchapter).1, fun hsome => absurd hafter hsome⟩
  · intro other hother
    rw [hlast]
    rcases List.mem_append.mp hother with hother | hother
    · obtain ⟨hle, -, hne⟩ := h.failed other hother
      exact ⟨hle, fun hsome => absurd hafter hsome, hne⟩
    · obtain rfl : other = id := by simpa using hother
      refine ⟨by omega, fun hsome => absurd hafter hsome, fun chapter hchapter => ?_⟩
      have hlt := h.standing_lt hchapter hbefore
      omega

theorem attach (h : Chronicle actions steps system closed body) {id : Nat} {handle : Handle}
    (hbefore : system.core.standing = some (id, none))
    (hafter : after.core.standing = some (id, some handle))
    (hlast : after.core.lastRun = system.core.lastRun)
    (hstate : after.core.state = .starting)
    (hqueue : after.queue.events = system.queue.events ++ Chapter.opening handle) :
    Chronicle (actions ++ [.attach id handle])
      (steps ++ [⟨system, .attach id handle, after⟩]) after closed [] := by
  have hnotices : (Step.mk system (.attach id handle) after).notices =
      (Chapter.opening handle).map fun event => ⟨some id, .supervisor, event⟩ := by
    simp only [Step.notices, Step.events, hqueue, List.drop_left]
    rfl
  have hspawning : ∀ other, system.core.openChapter other = [] :=
    Core.openChapter_of_spawning hbefore
  refine ⟨?_, ?_, ?_, ?_, ?_, h.order, ?_, ?_⟩
  · rw [notices_concat, hnotices, h.told, hspawning, Core.openChapter_of_attached hafter]
    simp [Chapter.notices, Chapter.events, Chapter.opening, Chapter.ending, originOf, startedLine]
  · rw [notices_concat, hnotices, hqueue, h.queued]
    simp [Function.comp_def]
  · rw [attachments_concat, h.installed, hspawning, Core.openChapter_of_attached hafter]
    simp [attachments]
  · exact fun chapter hchapter => (h.finished chapter hchapter).concat rfl
  · intro chapter hchapter
    have hlt := h.standing_lt hchapter hbefore
    rw [hlast]
    exact ⟨by omega, fun _ => hlt⟩
  · intro other hother
    have hother : Action.fail other ∈ actions := by simpa using hother
    obtain ⟨hle, hlt, hne⟩ := h.failed other hother
    rw [hlast]
    exact ⟨hle, fun _ => hlt (by simp [hbefore]), hne⟩
  · intro other handle' hopen
    obtain ⟨-, rfl⟩ : id = other ∧ handle = handle' := by simpa [hafter] using hopen
    rw [hstate]
    exact .opened

theorem finish (h : Chronicle actions steps system closed body) {id : Nat} {handle : Handle}
    {exit : Exit} (hcurrent : id = system.core.lastRun)
    (hbefore : system.core.standing = some (id, some handle))
    (hafter : after.core.standing = none) (hlast : after.core.lastRun = system.core.lastRun)
    (hreports : exitReports id actions = [exit])
    (hqueue : after.queue.events =
      system.queue.events ++ [stoppedLine exit, .stateChanged .stopped]) :
    Chronicle (actions ++ [.teardown id]) (steps ++ [⟨system, .teardown id, after⟩]) after
      (closed ++ [⟨id, handle, body, some exit⟩]) [] := by
  have hnotices : (Step.mk system (.teardown id) after).notices =
      [stoppedLine exit, .stateChanged .stopped].map fun event =>
        ⟨some id, .supervisor, event⟩ := by
    simp only [Step.notices, Step.events, hqueue, List.drop_left]
    rfl
  have hclosed : ∀ other, after.core.openChapter other = [] := Core.openChapter_of_none hafter
  refine ⟨?_, ?_, ?_, ?_, ?_, ?_, ?_, ?_⟩
  · rw [notices_concat, hnotices, h.told, hclosed, Core.openChapter_of_attached hbefore]
    simp [Chapter.notices, Chapter.events, Chapter.ending, originOf, stoppedLine]
  · rw [notices_concat, hnotices, hqueue, h.queued]
    simp
  · rw [attachments_concat, h.installed, hclosed, Core.openChapter_of_attached hbefore]
    simp [attachments]
  · intro chapter hchapter
    rcases List.mem_append.mp hchapter with hchapter | hchapter
    · exact (h.finished chapter hchapter).concat rfl
    · rw [List.mem_singleton.mp hchapter]
      have hopen : (Chapter.mk id handle body (some exit)).Finished actions :=
        ⟨exit, system.core.state, rfl, hreports, h.current id handle hbefore⟩
      exact hopen.concat rfl
  · intro chapter hchapter
    rw [hlast]
    refine ⟨?_, fun hsome => absurd hafter hsome⟩
    rcases List.mem_append.mp hchapter with hchapter | hchapter
    · exact (h.older chapter hchapter).1
    · rw [List.mem_singleton.mp hchapter]
      exact Nat.le_of_eq hcurrent
  · rw [List.map_append, List.pairwise_append]
    refine ⟨h.order, by simp, ?_⟩
    intro run hrun last hlast
    obtain ⟨chapter, hchapter, rfl⟩ := List.mem_map.mp hrun
    obtain rfl : last = id := by simpa using hlast
    have hlt := h.standing_lt hchapter hbefore
    omega
  · intro other hother
    have hother : Action.fail other ∈ actions := by simpa using hother
    obtain ⟨hle, hlt, hne⟩ := h.failed other hother
    rw [hlast]
    refine ⟨hle, fun hsome => absurd hafter hsome, fun chapter hchapter => ?_⟩
    rcases List.mem_append.mp hchapter with hchapter | hchapter
    · exact hne chapter hchapter
    · rw [List.mem_singleton.mp hchapter]
      have hlt := hlt (by simp [hbefore])
      simp only
      omega
  · intro other handle' hopen
    simp [hafter] at hopen

end Chronicle

end Overseer.Supervisor
