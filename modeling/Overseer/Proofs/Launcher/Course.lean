import Overseer.Proofs.Launcher.Turns
import Overseer.Proofs.Supervisor.Escalation
import Overseer.Proofs.Supervisor.Quiescence

namespace Overseer.Launcher

open Overseer.Supervisor

-- How a run of the launcher goes, from the start that succeeded until it leaves.

variable {config : Config} {launch : List Action} {actions : List ProgramAction}
  {program next : Program} {action : ProgramAction} {signal : Signal} {system : System}

def ProgramAction.isInterrupt : ProgramAction → Bool
  | interrupt => true
  | _ => false

-- How many interrupts the main thread handled.
def interrupts (actions : List ProgramAction) : Nat :=
  actions.countP ProgramAction.isInterrupt

-- What it asks for so many interrupts.
def asked : Nat → List Signal
  | 0 => []
  | count + 1 => .graceful :: List.replicate count .force

-- What its supervisor goes through, when the next interrupt asks for a signal
-- and every later one for force.
def enacted (signal : Signal) : List ProgramAction → List Action
  | [] => []
  | .inner action :: actions => action :: enacted signal actions
  | .interrupt :: actions => .request signal :: enacted .force actions
  | .receive :: actions => enacted signal actions

theorem interrupts_concat (actions : List ProgramAction) (action : ProgramAction) :
    interrupts (actions ++ [action]) = interrupts actions + interrupts [action] :=
  List.countP_append

theorem asked_succ (count : Nat) :
    asked (count + 1) = asked count ++ [if count = 0 then .graceful else .force] := by
  cases count with
  | zero => rfl
  | succ count => simp [asked, List.replicate_succ']

theorem enacted_concat (signal : Signal) (actions : List ProgramAction) (action : ProgramAction) :
    enacted signal (actions ++ [action]) =
      enacted signal actions ++
        enacted (if interrupts actions = 0 then signal else .force) [action] := by
  induction actions generalizing signal with
  | nil => rfl
  | cons first actions ih =>
      cases first with
      | inner other => simp [enacted, ih, interrupts, ProgramAction.isInterrupt]
      | interrupt => simp [enacted, ih, interrupts, ProgramAction.isInterrupt]
      | receive => simp [enacted, ih, interrupts, ProgramAction.isInterrupt]

example : enacted .graceful [.receive, .interrupt, .inner .deliver, .interrupt] =
    [.request .graceful, .deliver, .request .force] := rfl

theorem mem_enacted {actions : List ProgramAction} {action : Action}
    (h : action ∈ enacted signal actions) :
    .inner action ∈ actions ∨ ∃ signal, action = .request signal := by
  induction actions generalizing signal with
  | nil => cases h
  | cons first actions ih =>
      cases first with
      | inner other =>
          rcases List.mem_cons.mp h with rfl | h
          · exact .inl List.mem_cons_self
          · exact (ih h).imp_left (List.mem_cons_of_mem _)
      | interrupt =>
          rcases List.mem_cons.mp h with rfl | h
          · exact .inr ⟨signal, rfl⟩
          · exact (ih h).imp_left (List.mem_cons_of_mem _)
      | receive => exact (ih h).imp_left (List.mem_cons_of_mem _)

-- What the main thread did to start the server, whatever went on beside it.

namespace Launched

theorem attachments_eq (h : Launched config launch system) :
    ∃ handle, attachments launch = [(1, handle)] := by
  obtain ⟨handle, refusals, hcalls⟩ := h.calls
  refine ⟨handle, ?_⟩
  have hfilter : attachments launch = attachments (launch.filter belongsToMain) := by
    rw [attachments, attachments, List.filterMap_filter]
    refine congrArg (List.filterMap · launch) (funext fun action => ?_)
    cases action <;> rfl
  rw [hfilter, hcalls]
  simp [attachments, startCalls, List.filterMap_append, List.filterMap_map]

theorem starts_eq (h : Launched config launch system) : starts launch = 1 := by
  obtain ⟨handle, refusals, hcalls⟩ := h.calls
  have hfilter : starts launch = starts (launch.filter belongsToMain) := by
    rw [starts, starts, List.countP_filter]
    refine congrArg (List.countP · launch) (funext fun action => ?_)
    cases action <;> rfl
  rw [hfilter, hcalls]
  simp [starts, startCalls, Action.isStart, List.countP_cons, List.countP_append, List.countP_map,
    Function.comp_def]

end Launched

-- What the main thread has heard stays what it was while others go on.

namespace Program

theorem notifications_eq (program : Program) :
    program.notifications = program.system.queue.handed.filterMap Event.state? := by
  refine congrArg (List.filterMap · program.system.queue.handed) (funext fun event => ?_)
  cases event <;> rfl

theorem notifications_moved {step : Action} (hsound : program.system.queue.Sound)
    (hact : program.system.act step = .moved next.system) :
    program.notifications <+: next.notifications := by
  have hhanded := (System.transition_of_act hact).handed_concat hsound
  rw [notifications_eq, notifications_eq, hhanded, List.filterMap_append]
  exact List.prefix_append _ _

theorem heard_of_prefix (hreceived : next.received = program.received)
    (hroom : program.received ≤ program.notifications.length)
    (hbegins : program.notifications <+: next.notifications) :
    next.heard = program.heard ∧ next.received ≤ next.notifications.length := by
  obtain ⟨more, hmore⟩ := hbegins
  refine ⟨?_, ?_⟩
  · rw [heard, heard, ← hmore, hreceived, List.take_append_of_le_length hroom]
  · rw [← hmore, hreceived, List.length_append]
    omega

theorem heard_receive {state : State}
    (hstate : program.notifications[program.received]? = some state)
    (hreceived : next.received = program.received + 1)
    (hsame : next.notifications = program.notifications) :
    next.heard = program.heard ++ [state] ∧ next.received ≤ next.notifications.length := by
  obtain ⟨hlt, -⟩ := List.getElem?_eq_some_iff.mp hstate
  refine ⟨?_, ?_⟩
  · rw [heard, heard, hsame, hreceived, List.take_add_one, hstate]
    rfl
  · rw [hsame, hreceived]
    exact hlt

end Program

-- What holds of the program at any time.
structure Sound (config : Config) (launch : List Action) (actions : List ProgramAction)
    (program : Program) : Prop where
  launched : ∃ system, Launched config launch system
  execution : Execution config (launch ++ enacted .graceful actions) program.system
  requests : program.requests = asked (interrupts actions)
  others : ∀ action, .inner action ∈ actions → belongsToMain action = false
  kept : program.phase ≠ .over →
    ∀ action, .inner action ∈ actions → belongsToReturn action = false
  serving : program.phase = .serving → interrupts actions = 0
  stopping : program.phase = .stopping → interrupts actions ≠ 0
  room : program.received ≤ program.notifications.length
  left : program.phase = .over ↔ .stopped ∈ program.heard

namespace Sound

theorem initial (h : Launched config launch system) :
    Sound config launch [] ⟨system, .serving, 0, []⟩ where
  launched := ⟨system, h⟩
  execution := by simpa [enacted] using h.execution
  requests := rfl
  others := by simp
  kept := by simp
  serving := fun _ => rfl
  stopping := by simp
  room := Nat.zero_le _
  left := by simp [Program.heard]

theorem installed (h : Sound config launch actions program) :
    ∃ handle, attachments (launch ++ enacted .graceful actions) = [(1, handle)] := by
  obtain ⟨system, hlaunched⟩ := h.launched
  obtain ⟨handle, hhandle⟩ := hlaunched.attachments_eq
  refine ⟨handle, ?_⟩
  have hnone : attachments (enacted .graceful actions) = [] := by
    refine List.filterMap_eq_nil_iff.mpr fun action haction => ?_
    rcases mem_enacted haction with hinner | ⟨signal, rfl⟩
    · have hother := h.others action hinner
      cases action <;> first | rfl | cases hother
    · rfl
  rw [attachments, List.filterMap_append]
  exact (congrArg₂ (· ++ ·) hhandle hnone).trans (List.append_nil _)

theorem started (h : Sound config launch actions program) :
    starts (launch ++ enacted .graceful actions) = 1 := by
  obtain ⟨system, hlaunched⟩ := h.launched
  have hnone : starts (enacted .graceful actions) = 0 := by
    refine List.countP_eq_zero.mpr fun action haction hstart => ?_
    obtain rfl : action = .start := by
      cases action <;> first | rfl | cases hstart
    rcases mem_enacted haction with hinner | ⟨signal, hrequest⟩
    · cases h.others _ hinner
    · cases hrequest
  rw [starts_append, hlaunched.starts_eq, hnone]

theorem story (h : Sound config launch actions program) :
    ∃ chapter, Story config (launch ++ enacted .graceful actions) program.system chapter ∧
      chapter.run = 1 := by
  obtain ⟨handle, hone⟩ := h.installed
  exact h.execution.story hone h.started

-- Until the main thread leaves nobody disposes of the supervisor.
theorem closing_open (h : Sound config launch actions program) (hphase : program.phase ≠ .over) :
    program.system.closing = .open := by
  obtain ⟨system, hlaunched⟩ := h.launched
  refine h.execution.closing_open fun inside hmem => ?_
  rcases List.mem_append.mp hmem with hmem | hmem
  · cases hlaunched.kept _ hmem
  · rcases mem_enacted hmem with hinner | ⟨signal, hrequest⟩
    · cases h.kept hphase _ hinner
    · cases hrequest

theorem connected (h : Sound config launch actions program) (hphase : program.phase ≠ .over) :
    program.system.queue.ended = false := by
  cases hended : program.system.queue.ended with
  | false => rfl
  | true =>
      have hclosed := h.execution.consistent.shut.ended hended
      rw [h.closing_open hphase] at hclosed
      cases hclosed

theorem inner (h : Sound config launch actions program) {action : Action}
    (hmain : belongsToMain action = false)
    (hreturn : belongsToReturn action = true → program.phase = .over)
    (hact : program.system.act action = .moved system) :
    Sound config launch (actions ++ [.inner action]) { program with system } := by
  obtain ⟨hheard, hroom⟩ : _ ∧ _ :=
    @Program.heard_of_prefix program { program with system } rfl h.room
      (Program.notifications_moved h.execution.queue_sound hact)
  have hcount : interrupts (actions ++ [.inner action]) = interrupts actions :=
    interrupts_concat actions (.inner action)
  refine ⟨h.launched, ?_, ?_, ?_, ?_, ?_, ?_, hroom, ?_⟩
  · rw [enacted_concat, ← List.append_assoc]
    exact h.execution.step hact
  · rw [hcount]
    exact h.requests
  · intro other hother
    rcases List.mem_append.mp hother with hother | hother
    · exact h.others other hother
    · cases List.mem_singleton.mp hother
      exact hmain
  · intro hphase other hother
    rcases List.mem_append.mp hother with hother | hother
    · exact h.kept hphase other hother
    · cases List.mem_singleton.mp hother
      exact Bool.eq_false_iff.mpr fun htrue => hphase (hreturn htrue)
  · rw [hcount]
    exact h.serving
  · rw [hcount]
    exact h.stopping
  · rw [hheard]
    exact h.left

theorem interrupt (h : Sound config launch actions program) (hphase : program.phase ≠ .over)
    (hsignal : signal = if interrupts actions = 0 then .graceful else .force)
    (hact : program.system.act (.request signal) = .moved system) :
    Sound config launch (actions ++ [.interrupt])
      { program with system, phase := .stopping, requests := program.requests ++ [signal] } := by
  obtain ⟨hheard, hroom⟩ : _ ∧ _ :=
    @Program.heard_of_prefix program
      { program with system, phase := .stopping, requests := program.requests ++ [signal] } rfl
      h.room (Program.notifications_moved h.execution.queue_sound hact)
  have hcount : interrupts (actions ++ [.interrupt]) = interrupts actions + 1 :=
    interrupts_concat actions .interrupt
  have hinner : ∀ other, .inner other ∈ actions ++ [.interrupt] → .inner other ∈ actions := by
    simp
  refine ⟨h.launched, ?_, ?_, ?_, ?_, ?_, ?_, hroom, ?_⟩
  · rw [enacted_concat, ← hsignal, ← List.append_assoc]
    exact h.execution.step hact
  · rw [hcount, asked_succ, ← hsignal, ← h.requests]
  · exact fun other hother => h.others other (hinner other hother)
  · exact fun _ other hother => h.kept hphase other (hinner other hother)
  · simp
  · intro _
    rw [hcount]
    exact Nat.succ_ne_zero _
  · rw [hheard, ← h.left]
    simp [hphase]

theorem receive (h : Sound config launch actions program) {state : State} {phase : Phase}
    (hphase : program.phase ≠ .over)
    (hstate : program.notifications[program.received]? = some state)
    (hnext : phase = if state = .stopped then .over else program.phase) :
    Sound config launch (actions ++ [.receive])
      { program with phase, received := program.received + 1 } := by
  obtain ⟨hheard, hroom⟩ : _ ∧ _ :=
    @Program.heard_receive program { program with phase, received := program.received + 1 } state
      hstate rfl rfl
  have hcount : interrupts (actions ++ [.receive]) = interrupts actions :=
    interrupts_concat actions .receive
  have hinner : ∀ other, .inner other ∈ actions ++ [.receive] → .inner other ∈ actions := by
    simp
  have hcalls : enacted .graceful (actions ++ [.receive]) = enacted .graceful actions := by
    rw [enacted_concat]
    exact List.append_nil _
  have hnot : .stopped ∉ program.heard := fun hmem => hphase (h.left.mpr hmem)
  have hsame : phase ≠ .over → phase = program.phase := by
    intro hother
    rw [hnext] at hother ⊢
    split at hother
    · exact absurd rfl hother
    · rename_i hstopped
      rw [if_neg hstopped]
  refine ⟨h.launched, ?_, ?_, ?_, ?_, ?_, ?_, hroom, ?_⟩
  · rw [hcalls]
    exact h.execution
  · rw [hcount]
    exact h.requests
  · exact fun other hother => h.others other (hinner other hother)
  · exact fun _ other hother => h.kept hphase other (hinner other hother)
  · intro hserving
    rw [hcount]
    exact h.serving ((hsame (by simp_all)).symm.trans hserving)
  · intro hstopping
    rw [hcount]
    exact h.stopping ((hsame (by simp_all)).symm.trans hstopping)
  · rw [hheard, hnext]
    by_cases hstopped : state = .stopped
    · simp [hstopped]
    · simp [hstopped, hnot, hphase, eq_comm]

theorem step (h : Sound config launch actions program) (hact : program.act action = some next) :
    Sound config launch (actions ++ [action]) next := by
  cases Program.step_of_act hact with
  | inner hmain hreturn hmoved => exact h.inner hmain hreturn hmoved
  | stopped hserving hmoved =>
      exact h.interrupt (by simp [hserving]) (by rw [if_pos (h.serving hserving)]) hmoved
  | killed hstopping hmoved =>
      exact h.interrupt (by simp [hstopping]) (by rw [if_neg (h.stopping hstopping)]) hmoved
  | left hphase hstate => exact h.receive hphase hstate rfl
  | stayed hphase hstate hstopped => exact h.receive hphase hstate (by rw [if_neg hstopped])
  | abandoned hphase hended =>
      rw [h.connected hphase] at hended
      cases hended

end Sound

theorem Running.sound (h : Running config launch actions program) :
    Sound config launch actions program := by
  induction h with
  | launched hlaunched => exact .initial hlaunched
  | step _ hact ih => exact ih.step hact

end Overseer.Launcher
