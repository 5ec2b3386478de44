import Mathlib.Data.List.TakeWhile
import Overseer.Proofs.Supervisor.Agreement
import Overseer.Proofs.Supervisor.Readiness
import Overseer.Proofs.Supervisor.Service

namespace Overseer.Supervisor

-- What the observer is told of requests for termination that fail: one line for
-- each that is answered by an error before the exit of its run is reported.

-- The answer that a step brings to a request that was sent.
def Step.answer? (step : Step) : Option (Except Fault Unit) :=
  match step.action with
  | .conclude outcome => some outcome
  | _ => none

def answers (id : Nat) (steps : List Step) : List (Except Fault Unit) :=
  steps.filterMap fun step => if step.run = some id then step.answer? else none

def fault? : Except Fault Unit → Option Fault
  | .ok _ => none
  | .error fault => some fault

-- The steps up to the report of a run's exit.
def unreported (id : Nat) (steps : List Step) : List Step :=
  steps.takeWhile fun step => exitReports id [step.action] = []

-- The failures that mean something.
def refusals (id : Nat) (steps : List Step) : List Fault :=
  (answers id (unreported id steps)).filterMap fault?

def isRefusal : Event → Bool
  | .output line =>
      line.source = .supervisor && "Failed to stop process: ".toList.isPrefixOf line.text.toList
  | .stateChanged _ => false

-- The lines about such failures that were written for a run.
def refusalLines (id : Nat) (notices : List Notice) : List Event :=
  ((notices.filter fun notice => notice.run = some id).map Notice.event).filter isRefusal

-- A request that was sent has not been answered.
def System.isSignalling (system : System) (id : Nat) : Bool :=
  match system.lock with
  | some (.signalling run _) => run = id
  | _ => false

@[simp] theorem isRefusal_refusedLine (fault : Fault) : isRefusal (refusedLine fault) = true := by
  simp [isRefusal, refusedLine]

@[simp] theorem isRefusal_stateChanged (state : State) : isRefusal (.stateChanged state) = false :=
  rfl

-- No other line begins in the same way.

@[simp] theorem isRefusal_startedLine (pid : Pid) : isRefusal (startedLine pid) = false := by
  simp [isRefusal, startedLine, List.isPrefixOf]

@[simp] theorem isRefusal_unreadLine (source : Source) (reason : String) :
    isRefusal (unreadLine source reason) = false := by
  simp [isRefusal, unreadLine, List.isPrefixOf]

@[simp] theorem isRefusal_stoppedLine (exit : Exit) : isRefusal (stoppedLine exit) = false := by
  simp [isRefusal, stoppedLine, List.isPrefixOf]

theorem isRefusal_of_source {line : Line} (h : line.source ≠ .supervisor) :
    isRefusal (.output line) = false := by
  simp [isRefusal, h]

variable {config : Config} {actions : List Action} {steps : List Step} {system after : System}
  {action : Action} {events : List Event} {id : Nat} {signal : Signal}

theorem Step.conclude_of_answer {step : Step} {outcome : Except Fault Unit}
    (h : step.answer? = some outcome) : step.action = .conclude outcome := by
  unfold answer? at h
  split at h
  · cases h
    assumption
  · cases h

theorem answers_append (id : Nat) (earlier later : List Step) :
    answers id (earlier ++ later) = answers id earlier ++ answers id later :=
  List.filterMap_append

theorem answers_singleton (id : Nat) (step : Step) :
    answers id [step] = if step.run = some id then step.answer?.toList else [] := by
  by_cases hrun : step.run = some id <;> cases hanswer : step.answer? <;>
    simp [answers, hrun, hanswer]

theorem refusalLines_append (id : Nat) (earlier later : List Notice) :
    refusalLines id (earlier ++ later) = refusalLines id earlier ++ refusalLines id later := by
  simp [refusalLines]

-- What one step has to say of a failure.

-- The failure that a step is told of while the exit of the run is not flagged.
def Step.refusal? (step : Step) : Option Fault :=
  match step.before.core.run with
  | none => none
  | some run => if run.exited then none else step.answer?.bind fault?

theorem Step.refusal?_of_other {step : Step} (h : step.answer? = none) :
    step.refusal? = none := by
  unfold refusal?
  rw [h]
  split
  · rfl
  · split <;> rfl

namespace Consistent

theorem signalling (h : Consistent system) (hlock : system.lock = some (.signalling id signal)) :
    ∃ run handle, system.core.run = some run ∧ run.handle = some handle ∧ run.id = id ∧
      system.core.state = .stopping := by
  obtain ⟨run, handle, hrun, hhandle, hattached⟩ := h.lock_owner (by simp [hlock])
  have hheld := hattached.held
  simp only [Held, hlock] at hheld
  exact ⟨run, handle, hrun, hhandle, hheld.1.symm, hheld.2.1⟩

theorem reads_stream (h : Consistent system) {source : Source} {thread : ReaderThread}
    (hfind : system.findReader id source = some thread) : source ≠ .supervisor := by
  obtain ⟨hmem, -, rfl⟩ := System.findReader_eq_some hfind
  obtain ⟨run, handle, -, -, hattached⟩ := h.reader_owner hmem
  intro hsource
  exact handle.supervisor_not_mem_streams (hsource ▸ (hattached.fits thread hmem).provided)

-- What is told of an answer.
theorem events_of_concluded (h : Consistent system) {outcome : Except Fault Unit}
    (hstep : Transition system (.conclude outcome) after) :
    (Step.mk system (.conclude outcome) after).events =
      ((Step.mk system (.conclude outcome) after).refusal?.map refusedLine).toList := by
  cases hstep with
  | @concluded id signal _ events hlock hconcluded =>
      obtain ⟨run, handle, hrun, hhandle, -⟩ := h.signalling hlock
      have hopen := h.queue_open (by simp [hrun])
      rw [Step.events_of_putAll ⟨system, .conclude outcome, _⟩ events hopen rfl]
      simp only [Step.refusal?, hrun, Step.answer?]
      simp only [Core.concluded, hrun, hhandle] at hconcluded
      cases outcome with
      | ok _ =>
          cases hconcluded
          cases run.exited <;> rfl
      | error fault =>
          cases hexited : run.exited <;> simp only [hexited] at hconcluded <;> cases hconcluded <;>
            rfl

theorem isRefusal_of_other (h : Consistent system) (hstep : Transition system action after)
    (hother : (Step.mk system action after).answer? = none) :
    ∀ event ∈ (Step.mk system action after).events, isRefusal event = false := by
  have hposting := h.posting hstep
  generalize (Step.mk system action after).events = events at hposting
  cases hposting with
  | nothing => simp
  | installed => simp
  | unread => simp
  | stopping => simp
  | refused => cases hother
  | @text id source text =>
      have hsource : source ≠ .supervisor := by cases hstep <;> exact h.reads_stream ‹_›
      simp [isRefusal_of_source, hsource]
  | ready => simp
  | ended => simp

-- A step tells of the failure that it brings, and of no other.
theorem filter_events (h : Consistent system) (hstep : Transition system action after) :
    (Step.mk system action after).events.filter isRefusal =
      ((Step.mk system action after).refusal?.map refusedLine).toList := by
  cases hanswer : (Step.mk system action after).answer? with
  | none =>
      rw [Step.refusal?_of_other hanswer, List.filter_eq_nil_iff.mpr]
      · rfl
      · intro event hevent
        simp [h.isRefusal_of_other hstep hanswer event hevent]
  | some outcome =>
      obtain rfl : action = .conclude outcome := Step.conclude_of_answer hanswer
      rw [h.events_of_concluded hstep]
      cases (Step.mk system (.conclude outcome) after).refusal? with
      | none => rfl
      | some fault => simp

end Consistent

theorem refusalLines_notices (h : Consistent system) (hstep : Transition system action after)
    (id : Nat) :
    refusalLines id (Step.mk system action after).notices =
      if (Step.mk system action after).run = some id then
        ((Step.mk system action after).refusal?.map refusedLine).toList
      else [] := by
  rw [← h.filter_events hstep]
  by_cases hrun : (Step.mk system action after).run = some id
  · simp [refusalLines, Step.notices, List.filter_map, Function.comp_def, hrun]
  · simp [refusalLines, Step.notices, List.filter_map, Function.comp_def, hrun]

-- The requests that were sent, counted by their answers.
def Balanced (id brought : Nat) (system after : System) : Prop :=
  brought + (after.isSignalling id).toNat + (system.signalsTo id).length =
    (after.signalsTo id).length + (system.isSignalling id).toNat

-- A request goes out when there is none on the way.
theorem balanced_sendSignal {next : System} (hidle : system.isSignalling id = false)
    (hsignals : next.signals = system.signals) (run : Nat) (signal : Signal) :
    Balanced id 0 system (next.sendSignal run signal) := by
  have hsame : next.signalsTo id = system.signalsTo id := by simp only [System.signalsTo, hsignals]
  have hsent : (next.sendSignal run signal).isSignalling id = decide (run = id) := rfl
  rw [Balanced, signalsTo_sendSignal, hsent, hsame, hidle]
  by_cases hrun : run = id
  · simp [hrun, Nat.add_comm]
  · simp [hrun]

theorem balanced_of_same (hlock : after.isSignalling id = system.isSignalling id)
    (hsignals : after.signals = system.signals) : Balanced id 0 system after := by
  rw [Balanced, hlock]
  simp only [System.signalsTo, hsignals]
  omega

theorem System.isSignalling_of_none (h : system.lock = none) (id : Nat) :
    system.isSignalling id = false := by
  simp [isSignalling, h]

theorem System.isSignalling_of_attaching {run : Nat} {unread : List Source}
    (h : system.lock = some (.attaching run unread)) (id : Nat) :
    system.isSignalling id = false := by
  simp [isSignalling, h]

theorem Requesting.balanced (hstep : Requesting system signal after) (id : Nat) :
    Balanced id 0 system after := by
  cases hstep with
  | ignored => exact balanced_of_same rfl rfl
  | recorded => exact balanced_of_same rfl rfl
  | entered hlock => exact balanced_sendSignal (System.isSignalling_of_none hlock id) rfl _ _
  | repeated hlock => exact balanced_sendSignal (System.isSignalling_of_none hlock id) rfl _ _

theorem Transition.balanced_of_other (hstep : Transition system action after)
    (hother : (Step.mk system action after).answer? = none) (id : Nat) :
    Balanced id 0 system after := by
  have hfree : system.lock = none → after.isSignalling id = false → after.signals = system.signals →
      Balanced id 0 system after := fun hlock hidle hsignals =>
    balanced_of_same (hidle.trans (System.isSignalling_of_none hlock id).symm) hsignals
  have hheld : ∀ {run unread}, system.lock = some (.attaching run unread) →
      after.isSignalling id = false → after.signals = system.signals → Balanced id 0 system after :=
    fun hlock hidle hsignals =>
      balanced_of_same (hidle.trans (System.isSignalling_of_attaching hlock id).symm) hsignals
  cases hstep with
  | attached hlock => exact hfree hlock rfl rfl
  | watched hlock => exact hheld hlock rfl rfl
  | unwatched hlock => exact hheld hlock rfl rfl
  | letGo hlock => exact hheld hlock rfl rfl
  | takenUp hlock =>
      exact balanced_sendSignal (System.isSignalling_of_attaching hlock id) rfl _ _
  | requested hopen hrequest => exact hrequest.balanced id
  | disposeRequested hclosing hrequest => exact hrequest.balanced id
  | concluded => cases hother
  | _ => exact balanced_of_same rfl rfl

theorem Transition.balanced (hstep : Transition system action after) (id : Nat) :
    Balanced id (answers id [⟨system, action, after⟩]).length system after := by
  rw [answers_singleton]
  cases hanswer : (Step.mk system action after).answer? with
  | none => simpa using hstep.balanced_of_other hanswer id
  | some answer =>
      cases hstep with
      | @concluded owner signal outcome events hlock hconcluded =>
          have hafter :
              ({ system.put events with lock := none } : System).isSignalling id = false := rfl
          have hbefore : system.isSignalling id = decide (owner = id) := by
            simp only [System.isSignalling, hlock]
          rw [Balanced, hafter, hbefore]
          simp only [Step.run, hlock, Option.map_some, Holder.run, Option.some.injEq]
          by_cases howner : owner = id
          · simp only [howner, if_true, decide_true, Option.toList_some]
            exact Nat.add_comm 1 _
          · simp only [howner, if_false, decide_false]
            exact Nat.zero_add _
      | _ => cases hanswer

-- Over a whole execution.

theorem quiet_of_mem (h : exitReports id (steps.map Step.action) = []) :
    ∀ step ∈ steps, exitReports id [step.action] = [] := by
  intro step hstep
  have hquiet := List.filterMap_eq_nil_iff.mp h step.action (List.mem_map_of_mem hstep)
  simpa [exitReports] using hquiet

theorem unreported_append_of_quiet (h : exitReports id (steps.map Step.action) = [])
    (later : List Step) : unreported id (steps ++ later) = steps ++ unreported id later :=
  List.takeWhile_append_of_pos fun step hstep => decide_eq_true (quiet_of_mem h step hstep)

theorem unreported_of_quiet (h : exitReports id (steps.map Step.action) = []) :
    unreported id steps = steps :=
  List.takeWhile_eq_self_iff.mpr fun step hstep => decide_eq_true (quiet_of_mem h step hstep)

theorem unreported_concat_of_reported (step : Step)
    (h : exitReports id (steps.map Step.action) ≠ []) :
    unreported id (steps ++ [step]) = unreported id steps := by
  induction steps with
  | nil => exact absurd rfl h
  | cons first steps ih =>
      by_cases hfirst : exitReports id [first.action] = []
      · have hlater : exitReports id (steps.map Step.action) ≠ [] := by
          intro hnone
          refine h ?_
          rw [List.map_cons, ← List.singleton_append, exitReports, List.filterMap_append]
          exact List.append_eq_nil_iff.mpr ⟨hfirst, hnone⟩
        have hrest := ih hlater
        unfold unreported at hrest ⊢
        rw [List.cons_append, List.takeWhile_cons, List.takeWhile_cons, hrest]
      · simp [unreported, hfirst]

-- Nobody who brings an answer reports an exit.
theorem answers_unreported (id : Nat) (step : Step) :
    answers id (unreported id [step]) = answers id [step] := by
  by_cases hquiet : exitReports id [step.action] = []
  · have hself : unreported id [step] = [step] := unreported_of_quiet hquiet
    rw [hself]
  · have hanswer : step.answer? = none := by
      unfold Step.answer?
      cases haction : step.action <;> simp [haction, exitReports] at hquiet ⊢
    have hnone : unreported id [step] = [] := by simp [unreported, hquiet]
    rw [hnone, answers_singleton, hanswer]
    simp [answers]

namespace Execution

-- Whether a failure means something shows in what was reported before it.
theorem refusal?_eq (h : Execution config actions system) (hact : system.act action = .moved after)
    (hrun : (Step.mk system action after).run = some id) :
    (Step.mk system action after).refusal? =
      if exitReports id actions = [] then (Step.mk system action after).answer?.bind fault?
      else none := by
  cases hanswer : (Step.mk system action after).answer? with
  | none =>
      rw [Step.refusal?_of_other hanswer]
      split <;> rfl
  | some outcome =>
      obtain rfl : action = .conclude outcome := Step.conclude_of_answer hanswer
      cases System.transition_of_act hact with
      | @concluded owner signal _ events hlock hconcluded =>
          obtain ⟨run, handle, hsome, hhandle, hid, -⟩ := h.consistent.signalling hlock
          obtain rfl : owner = id := by simpa [Step.run, hlock, Holder.run] using hrun
          have hexited := h.exited_iff hsome
          rw [hid] at hexited
          simp only [Step.refusal?, hsome, hanswer, ← hexited]
          cases run.exited <;> rfl

theorem refusals_concat (h : Execution config actions system)
    (hact : system.act action = .moved after) (id : Nat) :
    refusals id (history config (actions ++ [action])) =
      refusals id (history config actions) ++
        if (Step.mk system action after).run = some id then
          (Step.mk system action after).refusal?.toList
        else [] := by
  have hactions := h.map_action_history
  rw [h.history_concat hact]
  by_cases hquiet : exitReports id actions = []
  · have hbefore : exitReports id ((history config actions).map Step.action) = [] := by
      rw [hactions, hquiet]
    have hlonger := unreported_append_of_quiet hbefore [⟨system, action, after⟩]
    rw [refusals, refusals, hlonger, unreported_of_quiet hbefore, answers_append,
      answers_unreported, answers_singleton, List.filterMap_append]
    congr 1
    split
    · rename_i hrun
      rw [h.refusal?_eq hact hrun, if_pos hquiet]
      cases (Step.mk system action after).answer? with
      | none => rfl
      | some outcome => cases outcome <;> rfl
    · rfl
  · have hbefore : exitReports id ((history config actions).map Step.action) ≠ [] := by
      rwa [hactions]
    have hsame : refusals id (history config actions ++ [⟨system, action, after⟩]) =
        refusals id (history config actions) := by
      rw [refusals, unreported_concat_of_reported _ hbefore, refusals]
    rw [hsame]
    split
    · rename_i hrun
      rw [h.refusal?_eq hact hrun, if_neg hquiet]
      exact (List.append_nil _).symm
    · exact (List.append_nil _).symm

theorem refusalLines_eq (h : Execution config actions system) (id : Nat) :
    refusalLines id (notices (history config actions)) =
      (refusals id (history config actions)).map refusedLine := by
  induction h with
  | initial => rfl
  | @step actions before after action hbefore hact ih =>
      have hlines := refusalLines_notices hbefore.consistent (System.transition_of_act hact) id
      rw [hbefore.refusals_concat hact, hbefore.history_concat hact, notices_concat,
        refusalLines_append, ih, hlines, List.map_append]
      congr 1
      split
      · cases (Step.mk before action after).refusal? <;> rfl
      · rfl

-- Whoever tells of a failure has told before that the run is stopping.
theorem stopping_of_told (h : Execution config actions system)
    (hact : system.act action = .moved after) {notice : Notice}
    (hmem : notice ∈ (Step.mk system action after).notices) (hrun : notice.run = some id)
    (hline : isRefusal notice.event = true) :
    ⟨some id, .supervisor, .stateChanged .stopping⟩ ∈ notices (history config actions) := by
  have hstep := System.transition_of_act hact
  obtain ⟨event, hevent, rfl⟩ := List.mem_map.mp hmem
  cases hanswer : (Step.mk system action after).answer? with
  | none => simp [h.consistent.isRefusal_of_other hstep hanswer event hevent] at hline
  | some outcome =>
      cases hstep with
      | @concluded owner signal _ events hlock hconcluded =>
          obtain ⟨run, handle, hsome, hhandle, hid, hstate⟩ := h.consistent.signalling hlock
          obtain rfl : owner = id := by simpa [Step.run, hlock, Holder.run] using hrun
          rw [← hid]
          exact h.told_to_stop (Core.standing_of_attached hsome hhandle) hstate
      | _ => simp [Step.answer?] at hanswer

theorem stopping_before (h : Execution config actions system) {earlier later : List Notice}
    {notice : Notice} (hsplit : notices (history config actions) = earlier ++ notice :: later)
    (hrun : notice.run = some id) (hline : isRefusal notice.event = true) :
    ⟨some id, .supervisor, .stateChanged .stopping⟩ ∈ earlier := by
  induction h generalizing earlier later with
  | initial => simp [history, System.steps, notices] at hsplit
  | @step actions before after action hbefore hact ih =>
      have htold : ∀ tail, (Step.mk before action after).notices = tail ++ notice :: later →
          ⟨some id, .supervisor, .stateChanged .stopping⟩ ∈ notices (history config actions) :=
        fun tail htail => hbefore.stopping_of_told hact (by simp [htail]) hrun hline
      rw [hbefore.history_concat hact, notices_concat] at hsplit
      rcases List.append_eq_append_iff.mp hsplit with ⟨tail, rfl, hlast⟩ | ⟨tail, hearly, hlast⟩
      · exact List.mem_append_left _ (htold tail hlast)
      · cases tail with
        | nil =>
            rw [List.append_nil] at hearly
            rw [← hearly]
            exact htold [] hlast.symm
        | cons first tail =>
            obtain ⟨rfl, rfl⟩ := List.cons.inj hlast
            exact ih hearly

-- Each request that is sent is answered, and none is sent before the one before
-- it was answered.
theorem answered (h : Execution config actions system) (id : Nat) :
    (answers id (history config actions)).length + (system.isSignalling id).toNat =
      (system.signalsTo id).length := by
  induction h with
  | initial => rfl
  | @step actions before after action hbefore hact ih =>
      have hstep := (System.transition_of_act hact).balanced id
      unfold Balanced at hstep
      rw [hbefore.history_concat hact, answers_append, List.length_append]
      omega

end Execution

end Overseer.Supervisor
