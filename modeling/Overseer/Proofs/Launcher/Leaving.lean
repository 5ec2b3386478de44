import Overseer.Proofs.Launcher.Course

namespace Overseer.Launcher

open Overseer.Supervisor

-- When the launcher leaves, what is done by then, and that it does leave once
-- its server has stopped.

variable {config : Config} {launch : List Action} {actions : List ProgramAction}
  {program next : Program} {action : ProgramAction} {signal : Signal} {system : System}

-- All the states that are told of, heard or not.
def Program.told (program : Program) : List State :=
  program.system.queue.events.filterMap Event.state?

def Event.line? : Event → Option Line
  | .output line => some line
  | .stateChanged _ => none

-- The output of a run, whatever part of it was handed over.
def linesOf (id : Nat) (notices : List Notice) : List Line :=
  notices.filterMap fun notice => if notice.run = some id then Event.line? notice.event else none

theorem linesOf_notices (chapter : Chapter) :
    linesOf chapter.run chapter.notices = chapter.events.filterMap Event.line? := by
  simp [linesOf, Chapter.notices, List.filterMap_map]

theorem Program.console_eq (program : Program) :
    program.console = program.system.queue.handed.filterMap Event.line? := by
  refine congrArg (List.filterMap · program.system.queue.handed) (funext fun event => ?_)
  cases event <;> rfl

theorem Program.heard_prefix (program : Program) : program.heard <+: program.told := by
  refine (List.take_prefix _ _).trans ?_
  rw [notifications_eq]
  exact program.system.queue.handed_prefix.filterMap _

namespace Sound

theorem told_eq (h : Sound config launch actions program) :
    ∃ earlier, .stopped ∉ earlier ∧
      program.told = earlier ++ if program.system.core.run = none then [.stopped] else [] := by
  obtain ⟨chapter, hstory, -⟩ := h.story
  obtain ⟨front, hfront, hevents⟩ := hstory.events_eq
  refine ⟨front.filterMap Event.state?, ?_, ?_⟩
  · intro hmem
    obtain ⟨event, hevent, hstate⟩ := List.mem_filterMap.mp hmem
    cases event with
    | output => cases hstate
    | stateChanged state => exact hfront (Option.some.inj hstate ▸ hevent)
  · rw [Program.told, hevents, List.filterMap_append]
    split <;> rfl

-- The news that the server has stopped comes last.
theorem handed_of_over (h : Sound config launch actions program) (hphase : program.phase = .over) :
    program.system.core.run = none ∧
      program.system.queue.handed = program.system.queue.events := by
  obtain ⟨chapter, hstory, -⟩ := h.story
  have hmem : .stopped ∈ program.notifications := List.mem_of_mem_take (h.left.mp hphase)
  rw [Program.notifications_eq] at hmem
  obtain ⟨event, hevent, hstate⟩ := List.mem_filterMap.mp hmem
  refine hstory.complete program.system.queue.handed_prefix ?_
  cases event with
  | output => cases hstate
  | stateChanged state => exact Option.some.inj hstate ▸ hevent

theorem heard_of_over (h : Sound config launch actions program) (hphase : program.phase = .over) :
    ∃ earlier, program.heard = earlier ++ [.stopped] ∧ .stopped ∉ earlier := by
  obtain ⟨earlier, hearlier, htold⟩ := h.told_eq
  rw [if_pos (h.handed_of_over hphase).1] at htold
  have hbegins := program.heard_prefix
  rw [htold] at hbegins
  refine ⟨earlier, (List.prefix_concat_iff.mp hbegins).resolve_right fun hshort => ?_, hearlier⟩
  exact hearlier (hshort.mem (h.left.mp hphase))

theorem awaited (h : Sound config launch actions program) (hphase : program.phase ≠ .over)
    (hnone : program.system.core.run = none) :
    ∃ between, program.told = program.heard ++ between ++ [.stopped] := by
  obtain ⟨earlier, hearlier, htold⟩ := h.told_eq
  rw [if_pos hnone] at htold
  have hbegins := program.heard_prefix
  rw [htold] at hbegins ⊢
  rcases List.prefix_concat_iff.mp hbegins with hall | ⟨between, hbetween⟩
  · refine absurd (h.left.mpr ?_) hphase
    rw [hall]
    simp
  · exact ⟨between, by rw [hbetween]⟩

end Sound

-- What the main thread can do, and what can be done beside it.

namespace Program

theorem act_inner {step : Action} (hmain : belongsToMain step = false)
    (hreturn : belongsToReturn step = false) (hnobody : belongsToNobody step = false)
    (hact : program.system.act step = .moved system) :
    program.act (.inner step) = some { program with system } := by
  simp [act, hmain, hreturn, hnobody, hact]

theorem act_receive {state : State} (hphase : program.phase ≠ .over)
    (hlock : program.system.lock = none)
    (hstate : program.notifications[program.received]? = some state) :
    program.act .receive = some
      { program with
        phase := if state = .stopped then .over else program.phase
        received := program.received + 1 } := by
  obtain ⟨hsilent, hturn⟩ := Phase.turn_heard hphase state
  simp [act, hphase, System.isFree, hlock, hstate, wake_silent hsilent, hturn]

end Program

theorem Sound.handles (h : Sound config launch actions program) (hphase : program.phase ≠ .over)
    (hlock : program.system.lock = none) : ∃ next, program.act .interrupt = some next := by
  have hmoves := h.execution.consistent.request_moves hlock (h.closing_open hphase)
  cases hserving : program.phase with
  | serving =>
      obtain ⟨after, hact⟩ := hmoves .graceful
      simp [Program.act, Program.wake, Phase.turn, hserving, System.isFree, hlock, hact]
  | stopping =>
      obtain ⟨after, hact⟩ := hmoves .force
      simp [Program.act, Program.wake, Phase.turn, hserving, System.isFree, hlock, hact]
  | _ => exact absurd hserving hphase

-- What brings the news to the main thread: the dispatcher, the observer's
-- return, and the main thread's own receiving.
def ProgramAction.isHearing : ProgramAction → Bool
  | .inner .deliver | .inner .settle | .receive => true
  | _ => false

-- How much of that is still to be done.
def Program.unheard (program : Program) : Nat :=
  3 * (program.system.queue.items.size - program.system.queue.taken) +
    (if program.system.queue.busy then 1 else 0) +
    (program.notifications.length - program.received)

structure Nearing (program next : Program) : Prop where
  phase : next.phase ≠ .over
  run : next.system.core.run = none
  less : next.unheard < program.unheard

namespace Sound

theorem receive_nears (h : Sound config launch actions program) (hphase : program.phase ≠ .over)
    (hnone : program.system.core.run = none)
    (hleft : program.received < program.notifications.length) :
    ∃ next, program.act .receive = some next ∧ (next.phase = .over ∨ Nearing program next) := by
  have hlock := (h.execution.consistent.idle hnone).lock
  refine ⟨_, Program.act_receive hphase hlock (List.getElem?_eq_getElem hleft), ?_⟩
  by_cases hstopped : program.notifications[program.received] = .stopped
  · exact .inl (if_pos hstopped)
  · refine .inr ⟨?_, hnone, ?_⟩
    · rw [if_neg hstopped]
      exact hphase
    · have hless : program.notifications.length - (program.received + 1) <
          program.notifications.length - program.received := by omega
      exact Nat.add_lt_add_left hless _

theorem settle_nears (h : Sound config launch actions program) (hphase : program.phase ≠ .over)
    (hnone : program.system.core.run = none) (hbusy : program.system.queue.busy = true) :
    ∃ next, program.act (.inner .settle) = some next ∧ Nearing program next := by
  have hact : program.system.act .settle =
      .moved { program.system with queue := program.system.queue.settle } := by
    simp [System.act, System.onSettle, hbusy, h.closing_open hphase, Closing.holdsCallback]
  refine ⟨_, Program.act_inner rfl rfl rfl hact, hphase, hnone, ?_⟩
  simp [Program.unheard, Program.notifications, Queue.settle, Queue.handed, hbusy]

theorem deliver_nears (h : Sound config launch actions program) (hphase : program.phase ≠ .over)
    (hnone : program.system.core.run = none) {queue : Queue}
    (hnext : program.system.queue.deliver = some queue) :
    ∃ next, program.act (.inner .deliver) = some next ∧ Nearing program next := by
  obtain ⟨hitems, htaken, -⟩ := Queue.deliver_takes hnext
  have hroom := (h.execution.queue_sound.deliver hnext).taken
  rw [hitems, htaken] at hroom
  have hact := System.act_deliver hnext
  refine ⟨_, Program.act_inner rfl rfl rfl hact, hphase, hnone, ?_⟩
  -- What is delivered brings no more than one notification.
  have hnotified : (queue.handed.filterMap Event.state?).length ≤
      program.notifications.length + 1 := by
    rw [Queue.handed_deliver hnext, List.filterMap_append, List.length_append,
      Program.notifications_eq]
    refine Nat.add_le_add_left (Nat.le_trans (List.length_filterMap_le _ _) ?_) _
    cases queue.current <;> simp
  have hbusy : (if queue.busy then 1 else 0) ≤ 1 := by split <;> omega
  simp only [Program.unheard, Program.notifications_eq, hitems, htaken] at hnotified ⊢
  omega

-- A server that has stopped and a main thread that has not heard of it: then
-- the news is on its way.
theorem nears (h : Sound config launch actions program) (hphase : program.phase ≠ .over)
    (hnone : program.system.core.run = none) :
    ∃ action next, action.isHearing = true ∧ program.act action = some next ∧
      (next.phase = .over ∨ Nearing program next) := by
  by_cases hleft : program.received < program.notifications.length
  · obtain ⟨next, hact, hnears⟩ := h.receive_nears hphase hnone hleft
    exact ⟨_, next, rfl, hact, hnears⟩
  cases hbusy : program.system.queue.busy with
  | true =>
      obtain ⟨next, hact, hnears⟩ := h.settle_nears hphase hnone hbusy
      exact ⟨_, next, rfl, hact, .inr hnears⟩
  | false =>
      cases hnext : program.system.queue.deliver with
      | some queue =>
          obtain ⟨next, hact, hnears⟩ := h.deliver_nears hphase hnone hnext
          exact ⟨_, next, rfl, hact, .inr hnears⟩
      | none =>
          -- Everything was handed over and heard, also that the server has stopped.
          have hhanded := h.execution.queue_sound.handed_of_idle hbusy hnext
          have hheard : program.heard = program.told := by
            rw [Program.heard, List.take_of_length_le (Nat.le_of_not_lt hleft),
              Program.notifications_eq, hhanded, Program.told]
          obtain ⟨earlier, -, htold⟩ := h.told_eq
          refine absurd (h.left.mpr ?_) hphase
          rw [hheard, htold, if_pos hnone]
          simp

end Sound

theorem Running.arrives (h : Running config launch actions program)
    (hphase : program.phase ≠ .over) (hnone : program.system.core.run = none) :
    ∃ rest final, (∀ action ∈ rest, action.isHearing = true) ∧
      Running config launch (actions ++ rest) final ∧ final.phase = .over := by
  induction hcount : program.unheard using Nat.strongRecOn generalizing actions program with
  | ind count ih =>
      obtain ⟨action, next, hhearing, hact, hover | hnears⟩ := h.sound.nears hphase hnone
      · exact ⟨[action], next, by simpa using hhearing, h.step hact, hover⟩
      · obtain ⟨rest, final, hrest, hrunning, hover⟩ :=
          ih _ (hcount ▸ hnears.less) (h.step hact) hnears.phase hnears.run rfl
        refine ⟨action :: rest, final, by simpa [hhearing] using hrest, ?_, hover⟩
        simpa using hrunning

-- What is done when the launcher leaves.
structure Returned (config : Config) (calls : List Action) (program : Program) : Prop where
  -- The process has exited, and nobody works for its run any more.
  exited : ∃ exit, exitReports 1 calls = [exit]
  idle : Idle program.system
  -- The observer was given everything, and so the console all of the output.
  handed : program.system.queue.handed = program.system.queue.events
  printed : program.console = linesOf 1 (notices (history config calls))

structure Course (config : Config) (launch : List Action) (actions : List ProgramAction)
    (program : Program) : Prop where
  -- The supervisor goes through its launch and through what happens beside the
  -- main thread, with a stop where the first interrupt is handled and a kill
  -- where any further one is. Nothing else is asked of it.
  calls : Execution config (launch ++ enacted .graceful actions) program.system
  requests : program.requests = asked (interrupts actions)
  others : ∀ action, .inner action ∈ actions → belongsToMain action = false
  -- Until it leaves, the main thread handles an interrupt whenever it is not in
  -- a call.
  handles : program.phase ≠ .over → program.system.lock = none →
    ∃ next, program.act .interrupt = some next
  -- It leaves when it first hears that the server has stopped. That nobody is
  -- left to tell it does not come about before.
  staying : program.phase ≠ .over → .stopped ∉ program.heard ∧
    program.system.queue.ended = false
  leaving : program.phase = .over →
    ∃ earlier, program.heard = earlier ++ [.stopped] ∧ .stopped ∉ earlier
  -- When the server has stopped, that is still to be heard, and will be with no
  -- help from outside.
  awaited : program.phase ≠ .over → program.system.core.run = none →
    ∃ between, program.told = program.heard ++ between ++ [.stopped]
  arrives : program.phase ≠ .over → program.system.core.run = none →
    ∃ rest final, (∀ action ∈ rest, action.isHearing = true) ∧
      Running config launch (actions ++ rest) final ∧ final.phase = .over
  escalates : Escalates (program.system.signalsTo 1)
  returned : program.phase = .over → Returned config (launch ++ enacted .graceful actions) program

theorem Sound.returned (h : Sound config launch actions program) (hphase : program.phase = .over) :
    Returned config (launch ++ enacted .graceful actions) program := by
  obtain ⟨chapter, hstory, hid⟩ := h.story
  obtain ⟨hnone, hhanded⟩ := h.handed_of_over hphase
  refine ⟨?_, h.execution.consistent.idle hnone, hhanded, ?_⟩
  · obtain ⟨exit, hexit⟩ : ∃ exit, chapter.exit = some exit := by
      refine Option.ne_none_iff_exists'.mp fun hopen => ?_
      exact hstory.finished.mp hopen hnone
    exact ⟨exit, hid ▸ hstory.reported exit hexit⟩
  · rw [Program.console_eq, hhanded, hstory.queued, hstory.told, ← hid, linesOf_notices]

-- In every order in which interrupts are handled, notifications are received and
-- everything else happens.
theorem launcher_keeps_its_course (h : Running config launch actions program) :
    Course config launch actions program where
  calls := h.sound.execution
  requests := h.sound.requests
  others := h.sound.others
  handles := h.sound.handles
  staying := fun hphase =>
    ⟨fun hmem => hphase (h.sound.left.mpr hmem), h.sound.connected hphase⟩
  leaving := h.sound.heard_of_over
  awaited := h.sound.awaited
  arrives := h.arrives
  escalates := (h.sound.execution.escalating 1).ordered
  returned := h.sound.returned

theorem Running.append {more : List ProgramAction} (h : Running config launch actions program)
    (hall : program.actAll more = some next) : Running config launch (actions ++ more) next := by
  induction more generalizing actions program with
  | nil =>
      obtain rfl : program = next := by simpa [Program.actAll] using hall
      simpa using h
  | cons action more ih =>
      simp only [Program.actAll] at hall
      split at hall
      · rename_i middle hact
        simpa using ih (h.step hact) hall
      · cases hall

-- A server that exits by itself just as the first interrupt is handled, and has
-- stopped when the second one is.
def plainLaunch : List Action := .start :: installing 1 ⟨7, true, false⟩

def crossedInterrupts : List ProgramAction :=
  [.inner (.report 1 (.ofCode 0)), .interrupt, .inner (.conclude (.error (.io "gone"))),
    .inner (.send 1 .stdout .closed), .inner (.read 1 .stdout), .inner (.teardown 1),
    .interrupt] ++
    (List.replicate 5 [.inner .deliver, .inner .settle]).flatten ++ List.replicate 3 .receive

theorem launcher_keeps_its_course_of_crossed :
    ∃ program, Running .default plainLaunch crossedInterrupts program ∧
      program.phase = .over ∧ program.requests = [.graceful, .force] ∧
      Course .default plainLaunch crossedInterrupts program := by
  have hlaunch : ∃ system, (System.new .default).actAll plainLaunch = some system ∧
      system.lock = none ∧ ∃ program : Program,
        (⟨system, .serving, 0, []⟩ : Program).actAll crossedInterrupts = some program ∧
          program.phase = .over ∧ program.requests = [.graceful, .force] :=
    ⟨_, rfl, rfl, _, rfl, rfl, rfl⟩
  obtain ⟨system, hall, hlock, program, hrun, hover, hrequests⟩ := hlaunch
  have hlaunched : Launched .default plainLaunch system :=
    ⟨.of_actAll hall, ⟨⟨7, true, false⟩, [none], rfl⟩, by decide, hlock⟩
  have hrunning : Running .default plainLaunch crossedInterrupts program :=
    (Running.launched hlaunched).append hrun
  exact ⟨program, hrunning, hover, hrequests, launcher_keeps_its_course hrunning⟩

end Overseer.Launcher
