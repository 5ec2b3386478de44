import Overseer.Proofs.Output.Decoding
import Overseer.Proofs.Supervisor.Chapters

namespace Overseer.Supervisor

open Overseer.Output

-- How the book is written: what each step adds to the open chapter, and which
-- report closes it.

-- A run whose exit can still be reported was not reported before, and one that
-- is being ended was reported once.
structure Reported (actions : List Action) (system : System) : Prop where
  unknown : ∀ id, system.core.lastRun < id → exitReports id actions = []
  spawning : ∀ id ∈ system.windows, exitReports id actions = []
  reportable : ∀ id ∈ system.reportable, exitReports id actions = []
  ending : ∀ teardown ∈ system.teardowns, exitReports teardown.run actions = [teardown.exit]

variable {actions : List Action} {system after : System} {action : Action}

theorem exitReports_of_other {id : Nat} (hother : ∀ exit, action ≠ .report id exit) :
    exitReports id [action] = [] := by
  cases action with
  | report other exit =>
      have hne : other ≠ id := fun heq => hother exit (by rw [heq])
      simp [exitReports, hne]
  | _ => rfl

namespace Reported

theorem initial (config : Config) : Reported [] (System.new config) := by
  refine ⟨fun _ _ => rfl, ?_, ?_, ?_⟩ <;> simp [System.new]

-- Nothing is reported, and nobody new waits for a report.
theorem quiet (h : Reported actions system) (hquiet : ∀ id, exitReports id [action] = [])
    (hlast : system.core.lastRun ≤ after.core.lastRun)
    (hwindows : ∀ id ∈ after.windows, id ∈ system.windows ∨ system.core.lastRun < id)
    (hreportable : ∀ id ∈ after.reportable, id ∈ system.reportable ∨ id ∈ system.windows)
    (hteardowns : ∀ teardown ∈ after.teardowns, teardown ∈ system.teardowns) :
    Reported (actions ++ [action]) after := by
  have hsame : ∀ id, exitReports id (actions ++ [action]) = exitReports id actions := fun id => by
    rw [exitReports_concat, hquiet, List.append_nil]
  refine ⟨?_, ?_, ?_, ?_⟩
  · intro id hid
    rw [hsame]
    exact h.unknown id (by omega)
  · intro id hid
    rw [hsame]
    rcases hwindows id hid with hold | hnew
    · exact h.spawning id hold
    · exact h.unknown id hnew
  · intro id hid
    rw [hsame]
    rcases hreportable id hid with hold | hnew
    · exact h.reportable id hold
    · exact h.spawning id hnew
  · intro teardown hteardown
    rw [hsame]
    exact h.ending teardown (hteardowns teardown hteardown)

theorem requesting (h : Reported actions system) {signal : Signal}
    (hquiet : ∀ id, exitReports id [action] = []) (hstep : Requesting system signal after) :
    Reported (actions ++ [action]) after := by
  cases hstep with
  | _ => exact h.quiet hquiet (Nat.le_refl _) (fun _ => .inl) (fun _ => .inl) (fun _ => id)

-- The first report of a run's exit begins its end.
theorem report (h : Reported actions system) (hconsistent : Consistent system) {id : Nat}
    {exit : Exit} (hstep : Transition system (.report id exit) after) :
    Reported (actions ++ [.report id exit]) after := by
  have hreport : id ∈ system.reportable := by
    cases hstep <;> assumption
  obtain ⟨run, handle, hrun, hhandle, hid, hexited, hteardowns, hattached⟩ :=
    hconsistent.reportable_owner hreport
  have hreportable : system.reportable = [id] := by simp [hattached.reportable, hexited, hid]
  cases hstep with
  | reportedInVain hlock _ hflag => simp [Core.flagExit, hrun, hid, hexited] at hflag
  | reported hlock _ hrun' hid' hexited' =>
      refine ⟨?_, ?_, ?_, ?_⟩
      · intro other hother
        have hlt : id < other := by
          have hlast := hconsistent.current run hrun
          have hother : system.core.lastRun < other := hother
          omega
        have hquiet : exitReports other [.report id exit] = [] :=
          exitReports_of_other (by rintro exit' ⟨⟩; omega)
        rw [exitReports_concat, hquiet, List.append_nil]
        exact h.unknown other hother
      · intro other hother
        have hother : other ∈ system.windows := hother
        simp [hattached.windows] at hother
      · intro other hother
        have hother : other ∈ system.reportable.erase id := hother
        simp [hreportable] at hother
      · intro teardown hteardown
        have hteardown : teardown ∈ system.teardowns ++ [Teardown.mk id exit _] := hteardown
        simp only [hteardowns, List.nil_append, List.mem_singleton] at hteardown
        subst hteardown
        rw [exitReports_concat, h.reportable id hreport]
        simp [exitReports]

theorem transition (h : Reported actions system) (hconsistent : Consistent system)
    (hstep : Transition system action after) : Reported (actions ++ [action]) after := by
  cases hstep with
  | reportedInVain hlock hreport hflag =>
      exact h.report hconsistent (.reportedInVain hlock hreport hflag)
  | reported hlock hreport hrun hid hexited =>
      exact h.report hconsistent (.reported hlock hreport hrun hid hexited)
  | requested hopen hrequest => exact h.requesting (fun _ => rfl) hrequest
  | disposeRequested hclosing hrequest =>
      have hnext : Reported (actions ++ [.disposeRequest]) _ := h.requesting (fun _ => rfl) hrequest
      exact ⟨hnext.unknown, hnext.spawning, hnext.reportable, hnext.ending⟩
  | begun =>
      refine h.quiet (fun _ => rfl) (Nat.le_succ _) (fun id hid => ?_) (fun _ => .inl) (fun _ => id)
      have hid : id ∈ system.windows ++ [system.core.lastRun + 1] := hid
      rcases List.mem_append.mp hid with hid | hid
      · exact .inl hid
      · rw [List.mem_singleton.mp hid]
        exact .inr (Nat.lt_succ_self _)
  | failed =>
      exact h.quiet (fun _ => rfl) (Nat.le_refl _) (fun id hid => .inl (List.mem_of_mem_erase hid))
        (fun _ => .inl) (fun _ => id)
  | @attached attached handle run hlock hwindow =>
      refine h.quiet (fun _ => rfl) (Nat.le_refl _)
        (fun id hid => .inl (List.mem_of_mem_erase hid)) (fun other hother => ?_) (fun _ => id)
      have hother : other ∈ system.reportable ++ [attached] := hother
      rcases List.mem_append.mp hother with hother | hother
      · exact .inl hother
      · rw [List.mem_singleton.mp hother]
        exact .inr hwindow
  | tornDown =>
      exact h.quiet (fun _ => rfl) (Nat.le_refl _) (fun _ => .inl) (fun _ => .inl)
        (fun _ hteardown => List.mem_of_mem_erase hteardown)
  | _ =>
      exact h.quiet (fun _ => rfl) (Nat.le_refl _) (fun _ => .inl) (fun _ => .inl) (fun _ => id)

end Reported

theorem Execution.reported {config : Config} (h : Execution config actions system) :
    Reported actions system := by
  induction h with
  | initial => exact .initial config
  | step hbefore hact ih => exact ih.transition hbefore.consistent (System.transition_of_act hact)

-- What a step adds to the open chapter.

theorem Consistent.queue_open (h : Consistent system) (hrun : system.core.run ≠ none) :
    system.queue.ended = false := by
  cases hended : system.queue.ended with
  | false => rfl
  | true => exact absurd (h.shut.closed (h.shut.ended hended)) hrun

theorem Core.standing_of_attached {core : Core} {run : Run} {handle : Handle}
    (hrun : core.run = some run) (hhandle : run.handle = some handle) :
    core.standing = some (run.id, some handle) := by
  simp [standing, hrun, hhandle]

theorem Core.concluded_eq_ok {core : Core} {outcome : Except Fault Unit} {events : List Event}
    (h : core.concluded outcome = .ok events) :
    events = [] ∨ ∃ fault, outcome = .error fault ∧ events = [refusedLine fault] := by
  unfold concluded at h
  split at h
  · cases h
  split at h
  · cases h
  · cases h
    exact .inl rfl
  · rename_i fault _
    split at h
    · cases h
      exact .inl rfl
    · cases h
      exact .inr ⟨fault, rfl, rfl⟩

namespace Adds

variable {run : Run} {handle : Handle} {events : List Event}

theorem nothing (hqueue : after.queue.events = system.queue.events)
    (hstate : after.core.state = system.core.state) : Adds ⟨system, action, after⟩ [] where
  queued := by simpa using hqueue
  labelled := fun hsome => absurd rfl hsome
  short := Nat.zero_le 1
  grown := fun id handle actions body _ hbody => by
    simpa only [hstate, List.append_nil] using hbody.mono

theorem of_spawning (hrun : system.core.run = some run) (hhandle : run.handle = none)
    (hqueue : after.queue.events = system.queue.events) : Adds ⟨system, action, after⟩ [] where
  queued := by simpa using hqueue
  labelled := fun hsome => absurd rfl hsome
  short := Nat.zero_le 1
  grown := fun id handle actions body hstanding _ => by
    simp [Core.standing, hrun, hhandle] at hstanding

-- A step that works for the run which has its process.
theorem of_attached (hconsistent : Consistent system) (hrun : system.core.run = some run)
    (hhandle : run.handle = some handle) (hqueue : after.queue = system.queue.putAll events)
    (howner : (Step.mk system action after).run = some run.id)
    (horigin : ∀ event ∈ events, originOf event = (Step.mk system action after).origin)
    (hshort : events.length ≤ 1)
    (hgrown : ∀ {actions body}, Body actions handle system.core.state body →
      Body (actions ++ [action]) handle after.core.state (body ++ events)) :
    Adds ⟨system, action, after⟩ events := by
  have hopen := hconsistent.queue_open (by simp [hrun])
  have hstanding := Core.standing_of_attached hrun hhandle
  refine ⟨?_, fun _ => ⟨run.id, handle, hstanding, howner, horigin⟩, hshort, ?_⟩
  · simp only [hqueue, Queue.events_putAll hopen]
  · intro id handle' actions body hother hbody
    obtain ⟨-, rfl⟩ : run.id = id ∧ handle = handle' := by simpa [hstanding] using hother
    exact hgrown hbody

theorem requesting (hconsistent : Consistent system) {signal : Signal}
    (hstep : Requesting system signal after)
    (howner : (Step.mk system action after).run = system.core.run.map Run.id)
    (horigin : (Step.mk system action after).origin = .supervisor) :
    ∃ events, Adds ⟨system, action, after⟩ events := by
  cases hstep with
  | ignored => exact ⟨[], nothing rfl rfl⟩
  | recorded hlock hrun hhandle => exact ⟨[], of_spawning hrun hhandle rfl⟩
  | entered hlock hrun hhandle hstate =>
      refine ⟨[.stateChanged .stopping], of_attached hconsistent hrun hhandle rfl ?_ ?_ ?_ ?_⟩
      · rw [howner, hrun, Option.map_some]
      · simp [horigin, originOf]
      · exact Nat.le_refl 1
      · exact fun hbody => .stopping hbody.mono hstate
  | repeated => exact ⟨[], nothing rfl rfl⟩

theorem read (hconsistent : Consistent system) {id : Nat} {source : Source}
    {thread : ReaderThread} (hfind : system.findReader id source = some thread)
    {text : Option String} (htext : ∀ output, text = some output → output ≠ "")
    (hqueue : after.queue = system.queue.putAll (System.outputEvent source text))
    (hstate : after.core.state = system.core.state) :
    Adds ⟨system, .read id source, after⟩ (System.outputEvent source text) := by
  obtain ⟨hmem, hid, hsource⟩ := System.findReader_eq_some hfind
  obtain ⟨run, handle, hrun, hhandle, hattached⟩ := hconsistent.reader_owner hmem
  have hfits := hattached.fits thread hmem
  have howner : run.id = id := hfits.owner.symm.trans hid
  refine of_attached hconsistent hrun hhandle hqueue (by simp [Step.run, howner]) ?_ ?_ ?_
  · cases text <;> simp [System.outputEvent, originOf, Step.origin]
  · cases text <;> simp [System.outputEvent]
  · intro actions body hbody
    rw [hstate]
    cases text with
    | none => simpa [System.outputEvent] using hbody.mono
    | some output => exact .output hbody.mono (hsource ▸ hfits.provided) (htext output rfl)

theorem transition (hconsistent : Consistent system) (hstep : Transition system action after)
    (hkind : action.isTurn = false) : ∃ events, Adds ⟨system, action, after⟩ events := by
  cases hstep with
  | begun hlock hopen hstopped =>
      have hnone := hconsistent.stopped_iff.mp hstopped
      refine ⟨[], ?_, fun hsome => absurd rfl hsome, Nat.zero_le 1, ?_⟩
      · simp [System.notifyAll]
      · intro id handle actions body hstanding
        simp [Core.standing, hnone] at hstanding
  | failed | attached | tornDown => cases hkind
  | unwatched hlock =>
      rename_i id source rest reason
      obtain ⟨run, handle, hrun, hhandle, hid, hstate, -, -, -, opened, hstreams, -⟩ :=
        hconsistent.attaching hlock
      refine ⟨[unreadLine source reason], of_attached hconsistent hrun hhandle rfl ?_ ?_ ?_ ?_⟩
      · simp [Step.run, hlock, Holder.run, hid]
      · simp [unreadLine, originOf, Step.origin]
      · exact Nat.le_refl 1
      · intro actions body hbody
        have hafter : system.core.missReader.state = .starting := hstate
        rw [hstate] at hbody
        show Body _ _ system.core.missReader.state _
        rw [hafter]
        exact .unread hbody.mono (by simp [hstreams]) (by simp)
  | takenUp hlock hrun hpending =>
      obtain ⟨run, handle, hrun', hhandle, hid, hstate, -⟩ := hconsistent.attaching hlock
      refine ⟨[.stateChanged .stopping], of_attached hconsistent hrun' hhandle rfl ?_ ?_ ?_ ?_⟩
      · simp [Step.run, hlock, Holder.run, hid]
      · simp [originOf, Step.origin]
      · exact Nat.le_refl 1
      · exact fun hbody => .stopping hbody.mono (.inl hstate)
  | requested hopen hrequest => exact requesting hconsistent hrequest rfl rfl
  | disposeRequested hclosing hrequest =>
      obtain ⟨events, hadds⟩ : ∃ events, Adds ⟨system, .disposeRequest, _⟩ events :=
        requesting hconsistent hrequest rfl rfl
      exact ⟨events, hadds.queued, hadds.labelled, hadds.short, hadds.grown⟩
  | @concluded id signal outcome events hlock hconcluded =>
      obtain ⟨run, handle, hrun, hhandle, hattached⟩ := hconsistent.lock_owner (by simp [hlock])
      have hheld := hattached.held
      simp only [Held, hlock] at hheld
      obtain ⟨hid, hstate, -⟩ := hheld
      refine ⟨events, of_attached hconsistent hrun hhandle rfl ?_ ?_ ?_ ?_⟩
      · simp [Step.run, hlock, Holder.run, hid]
      · rcases Core.concluded_eq_ok hconcluded with rfl | ⟨fault, -, rfl⟩
        · simp
        · simp [refusedLine, originOf, Step.origin]
      · rcases Core.concluded_eq_ok hconcluded with rfl | ⟨fault, -, rfl⟩ <;> simp
      · intro actions body hbody
        have hafter : ({ system.put events with lock := none } : System).core.state = .stopping :=
          hstate
        rw [hstate] at hbody
        rw [hafter]
        rcases Core.concluded_eq_ok hconcluded with rfl | ⟨fault, rfl, rfl⟩
        · simpa using hbody.mono
        · exact .refused hbody.mono (by simp)
  | @readEnd id source thread rest hfind =>
      exact ⟨_, read hconsistent hfind (fun _ => Reader.flush_ne_empty) rfl rfl⟩
  | @readChunk id source thread bytes rest hfind =>
      exact ⟨_, read hconsistent hfind (fun _ => Reader.accept_output_ne_empty) rfl rfl⟩
  | @announced id thread run hlock hfind hannouncing hrun hid hexited hstate =>
      obtain ⟨hmem, -, -⟩ := System.findReader_eq_some hfind
      obtain ⟨run', handle, hrun', hhandle, -⟩ := hconsistent.reader_owner hmem
      obtain rfl := Option.some.inj (hrun.symm.trans hrun')
      refine ⟨[.stateChanged .running], of_attached hconsistent hrun hhandle rfl ?_ ?_ ?_ ?_⟩
      · simp [Step.run, hid]
      · simp [originOf, Step.origin]
      · exact Nat.le_refl 1
      · intro actions body hbody
        rw [hstate] at hbody
        exact .running hbody.mono
  | delivered hqueue => exact ⟨[], nothing (Queue.events_deliver hqueue) rfl⟩
  | disposeClosed => exact ⟨[], nothing (Queue.events_put_shutdown _) rfl⟩
  | _ => exact ⟨[], nothing rfl rfl⟩

end Adds

end Overseer.Supervisor
