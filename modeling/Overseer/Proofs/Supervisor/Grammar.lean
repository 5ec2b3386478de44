import Overseer.Proofs.Supervisor.Telling

namespace Overseer.Supervisor

-- What an observer can read in the queue.

variable {config : Config} {actions : List Action} {steps : List Step} {system after : System}
  {action : Action} {closed : List Chapter} {body : List Event}

theorem Consistent.standing_current (h : Consistent system) {id : Nat} {handle : Option Handle}
    (hstanding : system.core.standing = some (id, handle)) : id = system.core.lastRun := by
  cases hrun : system.core.run with
  | none => simp [Core.standing, hrun] at hstanding
  | some run =>
      have hid : run.id = id := by
        simp only [Core.standing, hrun, Option.map_some, Option.some.injEq, Prod.mk.injEq]
          at hstanding
        exact hstanding.1
      rw [← hid]
      exact h.current run hrun

namespace Chronicle

-- Whatever happens next, the book goes on.
theorem transition (h : Chronicle actions steps system closed body)
    (hconsistent : Consistent system) (hreported : Reported actions system)
    (hstep : Transition system action after) :
    ∃ closed body, Chronicle (actions ++ [action]) (steps ++ [⟨system, action, after⟩]) after
      closed body := by
  cases hconsistent.turn hstep with
  | begun hbefore hafter hlast =>
      have hqueue : after.queue.events = system.queue.events := by
        cases hstep <;> rfl
      exact ⟨closed, [], h.begin hbefore hafter hlast hqueue⟩
  | failed hbefore hafter hlast =>
      have hqueue : after.queue.events = system.queue.events := by
        cases hstep
        rfl
      have hcurrent := hconsistent.standing_current hbefore
      exact ⟨closed, [], h.fail hcurrent hbefore hafter hlast hqueue⟩
  | @attached id handle hbefore hafter hlast =>
      cases hstep with
      | attached hlock hwindow hrun hid hstate =>
          have hopen := hconsistent.queue_open (by simp [hrun])
          exact ⟨closed, [], h.attach hbefore hafter hlast hstate (Queue.events_putAll hopen _)⟩
  | @ended id handle hbefore hafter hlast =>
      cases hstep with
      | @tornDown _ teardown run hlock hfind hjoined hrun =>
          have hopen := hconsistent.queue_open (by simp [hrun])
          have hid : teardown.run = id := by simpa using List.find?_some hfind
          have hexit := hreported.ending teardown (List.mem_of_find?_eq_some hfind)
          rw [hid] at hexit
          have hcurrent := hconsistent.standing_current hbefore
          exact ⟨_, [], h.finish hcurrent hbefore hafter hlast hexit
            (Queue.events_putAll hopen [stoppedLine teardown.exit, .stateChanged .stopped])⟩
  | same hstanding hlast hkind =>
      obtain ⟨events, hadds⟩ := Adds.transition hconsistent hstep hkind
      refine ⟨closed, body ++ events, h.proceed hstanding hlast hkind ?_ hadds⟩
      intro chapter hchapter
      refine exitReports_of_other fun exit hreport => ?_
      subst hreport
      have hreportable : chapter.run ∈ system.reportable := by
        cases hstep <;> assumption
      obtain ⟨run, handle, hrun, hhandle, hid, -⟩ := hconsistent.reportable_owner hreportable
      have hlt := h.standing_lt hchapter (Core.standing_of_attached hrun hhandle)
      have hcurrent := hconsistent.current run hrun
      omega

end Chronicle

theorem Execution.chronicle (h : Execution config actions system) :
    ∃ closed body, Chronicle actions (history config actions) system closed body := by
  induction h with
  | initial => exact ⟨[], [], .initial config⟩
  | step hbefore hact ih =>
      obtain ⟨closed, body, hchronicle⟩ := ih
      rw [hbefore.history_concat hact]
      exact hchronicle.transition hbefore.consistent hbefore.reported
        (System.transition_of_act hact)

theorem Core.standing_of_isSpawning {core : Core} {id : Nat} (h : core.isSpawning id = true) :
    core.standing = some (id, none) := by
  obtain ⟨run, hrun, hid, hhandle⟩ : ∃ run, core.run = some run ∧ run.id = id ∧
      run.handle = none := by
    simpa [isSpawning, Option.any_eq_true] using h
  simp [standing, hrun, hid, hhandle]

theorem mem_attachments {id : Nat} {handle : Handle} :
    (id, handle) ∈ attachments actions ↔ .attach id handle ∈ actions := by
  constructor
  · intro hmem
    obtain ⟨action, haction, hpair⟩ := List.mem_filterMap.mp hmem
    cases action <;> cases hpair
    exact haction
  · exact fun hmem => List.mem_filterMap.mpr ⟨.attach id handle, hmem, rfl⟩

-- A run that is being spawned has not been given its process before.
theorem Execution.unattached (h : Execution config actions system) {id : Nat}
    (hstanding : system.core.standing = some (id, none)) (handle : Handle) :
    .attach id handle ∉ actions := by
  intro hmem
  obtain ⟨closed, body, hchronicle⟩ := h.chronicle
  have hattachment := mem_attachments.mpr hmem
  rw [hchronicle.installed, Core.openChapter_of_spawning hstanding, List.append_nil] at hattachment
  obtain ⟨chapter, hchapter, hpair⟩ := List.mem_map.mp hattachment
  have hlt := hchronicle.standing_lt hchapter hstanding
  have hcurrent := h.consistent.standing_current hstanding
  have hsame : chapter.run = id := (Prod.mk.inj hpair).1
  omega

-- Whoever puts two events in the queue at once does so while nobody reads.
theorem Consistent.unread_of_two (h : Consistent system) (hstep : Transition system action after)
    (htwo : 1 < (Step.mk system action after).events.length) : system.readers = [] := by
  cases hkind : action.isTurn with
  | false =>
      obtain ⟨events, hadds⟩ := Adds.transition h hstep hkind
      have hshort := hadds.short
      rw [hadds.events_eq] at htwo
      omega
  | true =>
      cases hstep with
      | failed =>
          rw [Step.events_of_same rfl] at htwo
          simp at htwo
      | attached hlock hwindow =>
          obtain ⟨run, hrun, hhandle, -⟩ := h.window hwindow
          exact (h.spawning run hrun hhandle).readers
      | tornDown hlock hfind hjoined =>
          obtain ⟨run, handle, -, -, -, -, -, hreaders, -⟩ := h.joined hfind hjoined
          exact hreaders
      | _ => cases hkind

-- The body of a chapter, read without regard to how it came about.

-- Text of one of the run's own streams.
def Forwarded (handle : Handle) (event : Event) : Prop :=
  ∃ source text, source ∈ handle.streams ∧ text ≠ "" ∧ event = .output ⟨source, text⟩

-- A stream that stays unread because its thread was refused.
def LeftUnread (actions : List Action) (handle : Handle) (event : Event) : Prop :=
  ∃ source reason, source ∈ handle.streams ∧ .watch (some reason) ∈ actions ∧
    event = unreadLine source reason

-- A termination request that failed.
def Refused (actions : List Action) (event : Event) : Prop :=
  ∃ fault, .conclude (.error fault) ∈ actions ∧ event = refusedLine fault

-- The run may become ready once, and is then told to stop once or not at all.
-- Only after that can a request fail.
def Orderly (actions : List Action) (handle : Handle) (body : List Event) : Prop :=
  ∃ early late, body = early ++ late ∧
    (∀ event ∈ early, Forwarded handle event ∨ LeftUnread actions handle event ∨
      event = .stateChanged .running) ∧
    early.count (.stateChanged .running) ≤ 1 ∧
    (late = [] ∨ ∃ rest, late = .stateChanged .stopping :: rest ∧
      ∀ event ∈ rest, Forwarded handle event ∨ Refused actions event)

-- How a body begins before the run is told to stop.
structure Opening (actions : List Action) (handle : Handle) (state : State)
    (early : List Event) : Prop where
  kinds : ∀ event ∈ early, Forwarded handle event ∨ LeftUnread actions handle event ∨
    event = .stateChanged .running
  ready : early.count (.stateChanged .running) = if state = .starting then 0 else 1

theorem Forwarded.ne_running {handle : Handle} {event : Event} (h : Forwarded handle event) :
    event ≠ .stateChanged .running := by
  obtain ⟨source, text, -, -, rfl⟩ := h
  simp

namespace Opening

variable {handle : Handle} {state : State} {early : List Event} {event : Event}

theorem concat (h : Opening actions handle state early)
    (hkind : Forwarded handle event ∨ LeftUnread actions handle event) :
    Opening actions handle state (early ++ [event]) := by
  have hne : event ≠ .stateChanged .running := by
    rcases hkind with hforwarded | ⟨source, reason, -, -, rfl⟩
    · exact hforwarded.ne_running
    · simp [unreadLine]
  refine ⟨?_, ?_⟩
  · intro other hother
    rcases List.mem_append.mp hother with hother | hother
    · exact h.kinds other hother
    · rw [List.mem_singleton.mp hother]
      exact hkind.imp id .inl
  · have hnone : List.count (.stateChanged .running) [event] = 0 := by simp [hne]
    rw [List.count_append, h.ready, hnone, Nat.add_zero]

theorem running (h : Opening actions handle .starting early) :
    Opening actions handle .running (early ++ [.stateChanged .running]) := by
  refine ⟨?_, ?_⟩
  · intro other hother
    rcases List.mem_append.mp hother with hother | hother
    · exact h.kinds other hother
    · exact .inr (.inr (List.mem_singleton.mp hother))
  · rw [List.count_append, h.ready]
    simp

theorem count_le (h : Opening actions handle state early) :
    early.count (.stateChanged .running) ≤ 1 := by
  rw [h.ready]
  split <;> omega

end Opening

namespace Body

variable {handle : Handle} {state : State}

-- While the run is not told to stop its body is all opening; from then on the
-- opening stays as it is.
theorem split (h : Body actions handle state body) :
    (state ≠ .stopping ∧ Opening actions handle state body) ∨
    (state = .stopping ∧ ∃ early rest earlier, body = early ++ .stateChanged .stopping :: rest ∧
      Opening actions handle earlier early ∧
      ∀ event ∈ rest, Forwarded handle event ∨ Refused actions event) := by
  induction h with
  | opened => exact .inl ⟨(by simp), by simp, rfl⟩
  | @output state body source text hbody hsource htext ih =>
      have hforwarded : Forwarded handle (.output ⟨source, text⟩) :=
        ⟨source, text, hsource, htext, rfl⟩
      rcases ih with ⟨hstate, hopening⟩ | ⟨hstate, early, rest, earlier, rfl, hopening, hrest⟩
      · exact .inl ⟨hstate, hopening.concat (.inl hforwarded)⟩
      · refine .inr ⟨hstate, early, rest ++ [.output ⟨source, text⟩], earlier, by simp,
          hopening, ?_⟩
        intro event hevent
        rcases List.mem_append.mp hevent with hevent | hevent
        · exact hrest event hevent
        · exact .inl (List.mem_singleton.mp hevent ▸ hforwarded)
  | @unread body source reason hbody hsource hrefused ih =>
      rcases ih with ⟨hstate, hopening⟩ | ⟨hstate, -⟩
      · exact .inl ⟨hstate, hopening.concat (.inr ⟨source, reason, hsource, hrefused, rfl⟩)⟩
      · cases hstate
  | running hbody ih =>
      rcases ih with ⟨-, hopening⟩ | ⟨hstate, -⟩
      · exact .inl ⟨(by simp), hopening.running⟩
      · cases hstate
  | @stopping state body hbody hstate ih =>
      rcases ih with ⟨-, hopening⟩ | ⟨hstopping, -⟩
      · exact .inr ⟨rfl, body, [], state, rfl, hopening, by simp⟩
      · rcases hstate with hstate | hstate <;> simp [hstate] at hstopping
  | @refused body fault hbody hfault ih =>
      rcases ih with ⟨hstate, -⟩ | ⟨-, early, rest, earlier, rfl, hopening, hrest⟩
      · exact absurd rfl hstate
      · refine .inr ⟨rfl, early, rest ++ [refusedLine fault], earlier, by simp, hopening, ?_⟩
        intro event hevent
        rcases List.mem_append.mp hevent with hevent | hevent
        · exact hrest event hevent
        · exact .inr ⟨fault, hfault, List.mem_singleton.mp hevent⟩

theorem orderly (h : Body actions handle state body) : Orderly actions handle body := by
  rcases h.split with ⟨-, hopening⟩ | ⟨-, early, rest, earlier, rfl, hopening, hrest⟩
  · exact ⟨body, [], by simp, hopening.kinds, hopening.count_le, .inl rfl⟩
  · exact ⟨early, _, rfl, hopening.kinds, hopening.count_le, .inr ⟨rest, rfl, hrest⟩⟩

end Body

-- The book that the queue makes, in the observer's terms.
structure Book (config : Config) (actions : List Action) (system : System)
    (chapters : List Chapter) : Prop where
  queued : system.queue.events = chapters.flatMap Chapter.events
  -- Who put each event in the queue, and for which run.
  origins : notices (history config actions) = chapters.flatMap Chapter.notices
  runs : (chapters.map fun chapter => (chapter.run, chapter.handle)) = attachments actions
  order : (chapters.map Chapter.run).Pairwise (· < ·)
  bodies : ∀ chapter ∈ chapters, Orderly actions chapter.handle chapter.body
  exits : ∀ chapter ∈ chapters, ∀ exit, chapter.exit = some exit →
    exitReports chapter.run actions = [exit]
  finished : ∀ chapter ∈ chapters.dropLast, chapter.exit ≠ none
  unfinished : ∀ chapter ∈ chapters, chapter.exit = none →
    system.core.isAttached chapter.run = true

theorem Chapter.map_event_notices (chapter : Chapter) :
    chapter.notices.map Notice.event = chapter.events := by
  simp [notices, Function.comp_def]

theorem Core.mem_openChapter {core : Core} {chapter : Chapter}
    (h : chapter ∈ core.openChapter body) :
    core.standing = some (chapter.run, some chapter.handle) ∧ chapter.body = body ∧
      chapter.exit = none := by
  unfold openChapter at h
  split at h
  · rename_i id handle hstanding
    rw [List.mem_singleton.mp h]
    exact ⟨hstanding, rfl, rfl⟩
  · cases h

theorem Core.isAttached_of_standing {core : Core} {id : Nat} {handle : Handle}
    (h : core.standing = some (id, some handle)) : core.isAttached id = true := by
  obtain ⟨run, hrun, hpair⟩ := Option.map_eq_some_iff.mp h
  obtain ⟨hid, hhandle⟩ := Prod.mk.inj hpair
  simp [isAttached, hrun, hid, hhandle]

namespace Chronicle

theorem book (h : Chronicle actions (history config actions) system closed body)
    (hconsistent : Consistent system) :
    Book config actions system (closed ++ system.core.openChapter body) where
  queued := by
    rw [h.queued, h.told, List.map_flatMap]
    simp only [Chapter.map_event_notices]
  origins := h.told
  runs := h.installed.symm
  order := by
    rw [List.map_append, List.pairwise_append]
    refine ⟨h.order, ?_, ?_⟩
    · unfold Core.openChapter
      split <;> simp
    · intro run hrun last hlast
      obtain ⟨chapter, hchapter, rfl⟩ := List.mem_map.mp hrun
      obtain ⟨current, hcurrent, rfl⟩ := List.mem_map.mp hlast
      have hstanding := (Core.mem_openChapter hcurrent).1
      have hlt := h.standing_lt hchapter hstanding
      rw [hconsistent.standing_current hstanding]
      exact hlt
  bodies := by
    intro chapter hchapter
    rcases List.mem_append.mp hchapter with hchapter | hchapter
    · obtain ⟨exit, state, -, -, hbody⟩ := h.finished chapter hchapter
      exact hbody.orderly
    · obtain ⟨hstanding, hbody, -⟩ := Core.mem_openChapter hchapter
      rw [hbody]
      exact (h.current _ _ hstanding).orderly
  exits := by
    intro chapter hchapter exit hexit
    rcases List.mem_append.mp hchapter with hchapter | hchapter
    · obtain ⟨exit', state, hexit', hreported, -⟩ := h.finished chapter hchapter
      obtain rfl := Option.some.inj (hexit.symm.trans hexit')
      exact hreported
    · obtain ⟨-, -, hnone⟩ := Core.mem_openChapter hchapter
      simp [hnone] at hexit
  finished := by
    intro chapter hchapter
    have hclosed : chapter ∈ closed := by
      unfold Core.openChapter at hchapter
      split at hchapter
      · simpa using hchapter
      · rw [List.append_nil] at hchapter
        exact List.dropLast_subset closed hchapter
    obtain ⟨exit, state, hexit, -⟩ := h.finished chapter hclosed
    simp [hexit]
  unfinished := by
    intro chapter hchapter hnone
    rcases List.mem_append.mp hchapter with hchapter | hchapter
    · obtain ⟨exit, state, hexit, -⟩ := h.finished chapter hchapter
      simp [hnone] at hexit
    · exact Core.isAttached_of_standing (Core.mem_openChapter hchapter).1

end Chronicle

theorem Execution.book (h : Execution config actions system) :
    ∃ chapters, Book config actions system chapters ∧
      ∀ id, .fail id ∈ actions → ∀ chapter ∈ chapters, chapter.run ≠ id := by
  obtain ⟨closed, body, hchronicle⟩ := h.chronicle
  refine ⟨closed ++ system.core.openChapter body, hchronicle.book h.consistent, ?_⟩
  intro id hid chapter hchapter
  obtain ⟨-, hlt, hne⟩ := hchronicle.failed id hid
  rcases List.mem_append.mp hchapter with hchapter | hchapter
  · exact hne chapter hchapter
  · have hstanding := (Core.mem_openChapter hchapter).1
    have hlt := hlt (by simp [hstanding])
    have hcurrent := h.consistent.standing_current hstanding
    omega

-- In every order of steps the queue reads as a book: a chapter for each run
-- that got its process, from its start to its exit, and nothing between them. A
-- start that fails leaves no trace, and where two events are put in the queue
-- together no reader is there to come between them.
theorem queue_reads_as_book (h : Execution config actions system) :
    ∃ chapters, Book config actions system chapters ∧
      (∀ id, .fail id ∈ actions → ∀ chapter ∈ chapters, chapter.run ≠ id) ∧
      ∀ step ∈ history config actions, 1 < step.events.length → step.before.readers = [] := by
  obtain ⟨chapters, hbook, hfailed⟩ := h.book
  refine ⟨chapters, hbook, hfailed, fun step hstep htwo => ?_⟩
  obtain ⟨earlier, hbefore, hact⟩ := h.mem_history hstep
  exact hbefore.consistent.unread_of_two (System.transition_of_act hact) htwo

-- A start that fails, and a run that is forced to stop while its process is
-- spawned.
def forcedRun : List Action :=
  [.start, .fail 1, .start, .request .force] ++ installing 2 ⟨7, true, false⟩ ++
    [.conclude (.error (.io "gone")), .report 2 .unknown, .send 2 .stdout .closed,
      .read 2 .stdout, .teardown 2]

theorem queue_reads_as_book_of_forced :
    ∃ system, Execution .default forcedRun system ∧
      ∃ chapters, Book .default forcedRun system chapters ∧
        (∀ id, .fail id ∈ forcedRun → ∀ chapter ∈ chapters, chapter.run ≠ id) ∧
        ∀ step ∈ history .default forcedRun, 1 < step.events.length →
          step.before.readers = [] := by
  have hall : ∃ system, (System.new .default).actAll forcedRun = some system :=
    Option.isSome_iff_exists.mp (by decide)
  obtain ⟨system, hall⟩ := hall
  exact ⟨system, .of_actAll hall, queue_reads_as_book (.of_actAll hall)⟩

end Overseer.Supervisor
