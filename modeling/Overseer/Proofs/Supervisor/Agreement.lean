import Overseer.Proofs.Supervisor.Grammar

namespace Overseer.Supervisor

-- What the observer was told last is how things are, but for a start call
-- between its two parts, of which nothing is told yet.

def Event.state? : Event → Option State
  | .stateChanged state => some state
  | .output _ => none

-- The last change of state that was told.
def lastTold (events : List Event) : Option State := (events.filterMap Event.state?).getLast?

-- A process was announced, none was announced after it, and its end was not told.
def Announced (events : List Event) (pid : Pid) : Prop :=
  ∃ earlier later, events = earlier ++ startedLine pid :: later ∧
    (∀ other, startedLine other ∉ later) ∧ .stateChanged .stopped ∉ later

theorem lastTold_append (earlier later : List Event) :
    lastTold (earlier ++ later) = (lastTold later).or (lastTold earlier) := by
  simp [lastTold, List.filterMap_append, List.getLast?_append]

theorem lastTold_concat (events : List Event) (state : State) :
    lastTold (events ++ [.stateChanged state]) = some state := by
  rw [lastTold_append]
  rfl

theorem lastTold_concat_output (events : List Event) (line : Line) :
    lastTold (events ++ [.output line]) = lastTold events := by
  rw [lastTold_append]
  rfl

-- Which lines announce a process.

theorem startedLine_inj {pid other : Pid} (h : startedLine pid = startedLine other) :
    pid = other := by
  simp only [startedLine, Event.output.injEq, Line.mk.injEq, true_and] at h
  have hdigits : Nat.toDigits 10 pid.toNat = Nat.toDigits 10 other.toNat := by
    simpa [String.toList_append] using congrArg String.toList h
  refine UInt32.toNat_inj.mp ?_
  calc
    pid.toNat = Nat.ofDigitChars 10 (Nat.toDigits 10 pid.toNat) 0 :=
      Nat.ofDigitChars_ten_toDigits.symm
    _ = Nat.ofDigitChars 10 (Nat.toDigits 10 other.toNat) 0 := by rw [hdigits]
    _ = other.toNat := Nat.ofDigitChars_ten_toDigits

theorem startedLine_ne_unreadLine (pid : Pid) (source : Source) (reason : String) :
    startedLine pid ≠ unreadLine source reason := by
  intro h
  simp only [startedLine, unreadLine, Event.output.injEq, Line.mk.injEq, true_and] at h
  have hletters := congrArg String.toList h
  simp [String.toList_append] at hletters

theorem startedLine_ne_refusedLine (pid : Pid) (fault : Fault) :
    startedLine pid ≠ refusedLine fault := by
  intro h
  simp only [startedLine, refusedLine, Event.output.injEq, Line.mk.injEq, true_and] at h
  have hletters := congrArg String.toList h
  simp [String.toList_append] at hletters

-- What a chapter tells.

variable {config : Config} {actions : List Action} {system : System} {handle : Handle}
  {state : State} {body : List Event} {closed : List Chapter}

theorem Handle.supervisor_not_mem_streams (handle : Handle) : .supervisor ∉ handle.streams := by
  unfold streams
  split <;> split <;> decide

namespace Body

-- The state of the run is the one that was told last.
theorem lastTold_eq (h : Body actions handle state body) :
    lastTold (Chapter.opening handle ++ body) = some state := by
  induction h with
  | opened => rfl
  | output _ _ _ ih | unread _ _ _ ih | refused _ _ ih =>
      rw [← List.append_assoc]
      exact (lastTold_concat_output _ _).trans ih
  | running | stopping =>
      rw [← List.append_assoc]
      exact lastTold_concat _ _

theorem unannounced (h : Body actions handle state body) (pid : Pid) :
    startedLine pid ∉ body := by
  induction h with
  | opened => exact List.not_mem_nil
  | output _ hsource _ ih =>
      intro hmem
      rcases List.mem_append.mp hmem with hmem | hmem
      · exact ih hmem
      · have hline := List.mem_singleton.mp hmem
        simp only [startedLine, Event.output.injEq, Line.mk.injEq] at hline
        exact handle.supervisor_not_mem_streams (hline.1 ▸ hsource)
  | unread _ _ _ ih =>
      intro hmem
      rcases List.mem_append.mp hmem with hmem | hmem
      · exact ih hmem
      · exact startedLine_ne_unreadLine _ _ _ (List.mem_singleton.mp hmem)
  | refused _ _ ih =>
      intro hmem
      rcases List.mem_append.mp hmem with hmem | hmem
      · exact ih hmem
      · exact startedLine_ne_refusedLine _ _ (List.mem_singleton.mp hmem)
  | running _ ih | stopping _ _ ih =>
      intro hmem
      rcases List.mem_append.mp hmem with hmem | hmem
      · exact ih hmem
      · simp [startedLine] at hmem

theorem unstopped (h : Body actions handle state body) : .stateChanged .stopped ∉ body := by
  induction h with
  | opened => exact List.not_mem_nil
  | _ => simp_all [unreadLine, refusedLine]

end Body

-- What the whole queue tells.

theorem lastTold_of_getLast? {events : List Event}
    (h : events.getLast? = some (.stateChanged state)) : lastTold events = some state := by
  obtain ⟨front, rfl⟩ := List.getLast?_eq_some_iff.mp h
  exact lastTold_concat front state

-- A process that was announced last is not over.
theorem Announced.getLast?_ne {events : List Event} {pid : Pid} (h : Announced events pid) :
    events.getLast? ≠ some (.stateChanged .stopped) := by
  obtain ⟨earlier, later, rfl, -, hstopped⟩ := h
  intro hlast
  obtain ⟨front, hfront⟩ := List.getLast?_eq_some_iff.mp hlast
  rcases List.eq_nil_or_concat later with rfl | ⟨between, last, rfl⟩
  · obtain ⟨-, hline⟩ := List.append_inj' hfront rfl
    cases (List.cons.inj hline).1
  · rw [List.concat_eq_append, ← List.cons_append, ← List.append_assoc] at hfront
    obtain ⟨-, hline⟩ := List.append_inj' hfront rfl
    exact hstopped (by simp [(List.cons.inj hline).1])

theorem Announced.unique {events : List Event} {pid other : Pid} (h : Announced events pid)
    (hother : Announced events other) : pid = other := by
  obtain ⟨earlier, later, rfl, hnone, -⟩ := h
  obtain ⟨earlier', later', hsame, hnone', -⟩ := hother
  rcases List.append_eq_append_iff.mp hsame with ⟨between, -, hlater⟩ | ⟨between, -, hlater⟩
  · cases between with
    | nil => exact startedLine_inj (List.cons.inj hlater).1
    | cons first between =>
        have hmem : startedLine other ∈ later := by
          rw [(List.cons.inj hlater).2]
          simp
        exact absurd hmem (hnone other)
  · cases between with
    | nil => exact (startedLine_inj (List.cons.inj hlater).1).symm
    | cons first between =>
        have hmem : startedLine pid ∈ later' := by
          rw [(List.cons.inj hlater).2]
          simp
        exact absurd hmem (hnone' pid)

namespace Chapter

-- A chapter that is closed ends with the news that the run is over.
theorem getLast?_of_closed {chapter : Chapter} {exit : Exit} (h : chapter.exit = some exit) :
    chapter.events.getLast? = some (.stateChanged .stopped) := by
  simp [events, ending, h, List.getLast?_append]

end Chapter

namespace Chronicle

-- Between two runs nothing was told, or the end of the last one.
theorem getLast?_of_unattached (h : Chronicle actions (history config actions) system closed body)
    (hconsistent : Consistent system) (hclosed : system.core.openChapter body = []) :
    system.queue.events = [] ∨ system.queue.events.getLast? = some (.stateChanged .stopped) := by
  rw [(h.book hconsistent).queued, hclosed, List.append_nil]
  rcases List.eq_nil_or_concat closed with rfl | ⟨earlier, last, rfl⟩
  · exact .inl rfl
  · obtain ⟨exit, state, hexit, -⟩ := h.finished last (by simp)
    refine .inr ?_
    rw [List.concat_eq_append, List.flatMap_append, List.flatMap_singleton, List.getLast?_append,
      Chapter.getLast?_of_closed hexit, Option.some_or]

theorem told_of_unattached (h : Chronicle actions (history config actions) system closed body)
    (hconsistent : Consistent system) (hclosed : system.core.openChapter body = []) :
    (lastTold system.queue.events = none ∨ lastTold system.queue.events = some .stopped) ∧
      ∀ pid, ¬ Announced system.queue.events pid := by
  rcases h.getLast?_of_unattached hconsistent hclosed with hempty | hlast
  · refine ⟨.inl (by rw [hempty]; rfl), ?_⟩
    rintro pid ⟨earlier, later, hevents, -⟩
    simp [hempty] at hevents
  · exact ⟨.inr (lastTold_of_getLast? hlast), fun pid hpid => hpid.getLast?_ne hlast⟩

theorem told_of_attached (h : Chronicle actions (history config actions) system closed body)
    (hconsistent : Consistent system) {id : Nat}
    (hstanding : system.core.standing = some (id, some handle)) :
    lastTold system.queue.events = some system.core.state ∧
      Announced system.queue.events handle.pid := by
  have hbody := h.current id handle hstanding
  have hevents : system.queue.events =
      closed.flatMap Chapter.events ++ (Chapter.opening handle ++ body) := by
    rw [(h.book hconsistent).queued, Core.openChapter_of_attached hstanding]
    simp [Chapter.events, Chapter.ending]
  rw [hevents]
  refine ⟨?_, closed.flatMap Chapter.events, .stateChanged .starting :: body, rfl, ?_, ?_⟩
  · rw [lastTold_append, hbody.lastTold_eq, Option.some_or]
  · intro other hmem
    rcases List.mem_cons.mp hmem with hmem | hmem
    · cases hmem
    · exact hbody.unannounced other hmem
  · intro hmem
    rcases List.mem_cons.mp hmem with hmem | hmem
    · cases hmem
    · exact hbody.unstopped hmem

end Chronicle

structure Agreeing (system : System) : Prop where
  outside : system.windows = [] →
    (lastTold system.queue.events).getD .stopped = system.core.state
  inside : system.windows ≠ [] → system.core.state = .starting ∧
    (lastTold system.queue.events = none ∨ lastTold system.queue.events = some .stopped)
  announced : ∀ pid, system.core.pid = some pid ↔ Announced system.queue.events pid

-- In every order of steps, and also while the lock is held.
theorem told_state_agrees (h : Execution config actions system) : Agreeing system := by
  obtain ⟨closed, body, hchronicle⟩ := h.chronicle
  cases hrun : system.core.run with
  | none =>
      have hidle := h.consistent.idle hrun
      have hstanding : system.core.standing = none := by simp [Core.standing, hrun]
      obtain ⟨htold, hquiet⟩ :=
        hchronicle.told_of_unattached h.consistent (Core.openChapter_of_none hstanding body)
      refine ⟨fun _ => ?_, fun hwindow => absurd hidle.windows hwindow, fun pid => ?_⟩
      · rw [hidle.state]
        rcases htold with htold | htold <;> rw [htold] <;> rfl
      · simp [Core.pid, hrun, hquiet pid]
  | some run =>
      cases hhandle : run.handle with
      | none =>
          have hspawning := h.consistent.spawning run hrun hhandle
          have hstanding : system.core.standing = some (run.id, none) := by
            simp [Core.standing, hrun, hhandle]
          obtain ⟨htold, hquiet⟩ :=
            hchronicle.told_of_unattached h.consistent (Core.openChapter_of_spawning hstanding body)
          refine ⟨fun hnone => ?_, fun _ => ⟨hspawning.state, htold⟩, fun pid => ?_⟩
          · simp [hspawning.windows] at hnone
          · simp [Core.pid, hrun, hhandle, hquiet pid]
      | some handle =>
          have hattached := h.consistent.attached run handle hrun hhandle
          obtain ⟨htold, hannounced⟩ :=
            hchronicle.told_of_attached h.consistent (Core.standing_of_attached hrun hhandle)
          refine ⟨fun _ => by rw [htold, Option.getD_some],
            fun hwindow => absurd hattached.windows hwindow, fun pid => ?_⟩
          have hpid : system.core.pid = some handle.pid := by simp [Core.pid, hrun, hhandle]
          rw [hpid]
          constructor
          · rintro hsame
            rwa [← Option.some.inj hsame]
          · exact fun hother => congrArg some (hannounced.unique hother)

-- A second start, while the process is spawned.
def startedAgain : List Action :=
  [.start] ++ installing 1 ⟨7, false, false⟩ ++ [.report 1 .unknown, .teardown 1, .start]

theorem told_state_agrees_in_spawn :
    ∃ system, Execution .default startedAgain system ∧ system.windows = [2] ∧
      Agreeing system := by
  have hall : ∃ system, (System.new .default).actAll startedAgain = some system ∧
      system.windows = [2] := ⟨_, rfl, rfl⟩
  obtain ⟨system, hall, hwindows⟩ := hall
  exact ⟨system, .of_actAll hall, hwindows, told_state_agrees (.of_actAll hall)⟩

end Overseer.Supervisor
