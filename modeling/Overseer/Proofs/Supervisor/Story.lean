import Overseer.Proofs.Supervisor.Agreement
import Overseer.Proofs.Supervisor.Callbacks
import Overseer.Proofs.Supervisor.Delivery

namespace Overseer.Supervisor

-- A supervisor that is started once. Its queue reads as one chapter, which ends
-- when the run does, and that the end was told is the last that is told.

variable {config : Config} {actions : List Action} {system : System} {id : Nat} {handle : Handle}
  {chapter : Chapter}

def Action.isStart : Action → Bool
  | start => true
  | _ => false

-- The start calls, also those that found a run.
def starts (actions : List Action) : Nat := actions.countP Action.isStart

theorem starts_append (earlier later : List Action) :
    starts (earlier ++ later) = starts earlier + starts later :=
  List.countP_append

namespace Execution

-- Each process was installed for a start call of its own, and one that is being
-- spawned has a call of its own as well.
theorem installed_le_starts (h : Execution config actions system) :
    (attachments actions).length ≤ starts actions ∧
      ∀ id, system.core.standing = some (id, none) →
        (attachments actions).length < starts actions := by
  induction h with
  | initial => exact ⟨Nat.le_refl 0, fun id hstanding => by cases hstanding⟩
  | @step actions before after action hbefore hact ih =>
      obtain ⟨hle, hlt⟩ := ih
      rw [attachments_concat, List.length_append, starts_append]
      cases hbefore.consistent.turn (System.transition_of_act hact) with
      | begun => exact ⟨Nat.le_succ_of_le hle, fun _ _ => Nat.lt_succ_of_le hle⟩
      | failed _ hafter => exact ⟨hle, fun id hstanding => by simp [hafter] at hstanding⟩
      | attached hspawning hafter =>
          exact ⟨hlt _ hspawning, fun id hstanding => by simp [hafter] at hstanding⟩
      | ended _ hafter => exact ⟨hle, fun id hstanding => by simp [hafter] at hstanding⟩
      | same hstanding _ hkind =>
          have hnone : attachments [action] = [] := by
            cases action <;> first | rfl | cases hkind
          rw [hnone, hstanding]
          exact ⟨Nat.le_add_right_of_le hle, fun id hid => Nat.lt_add_right _ (hlt id hid)⟩

theorem closing_open (h : Execution config actions system)
    (hkept : ∀ inside, .dispose inside ∉ actions) : system.closing = .open := by
  induction h with
  | initial => rfl
  | @step actions before after action hbefore hact ih =>
      have hopen := ih fun inside hmem => hkept inside (List.mem_append_left _ hmem)
      refine (System.transition_of_act hact).closing_open hopen fun inside hdispose => ?_
      exact hkept inside (by simp [hdispose])

end Execution

-- What is told of the only run.
structure Story (config : Config) (actions : List Action) (system : System) (chapter : Chapter) :
    Prop where
  told : notices (history config actions) = chapter.notices
  queued : system.queue.events = chapter.events
  unstopped : .stateChanged .stopped ∉ chapter.body
  finished : chapter.exit = none ↔ system.core.run ≠ none
  reported : ∀ exit, chapter.exit = some exit → exitReports chapter.run actions = [exit]

theorem Execution.story (h : Execution config actions system)
    (hone : attachments actions = [(id, handle)]) (hstarts : starts actions = 1) :
    ∃ chapter, Story config actions system chapter ∧ chapter.run = id := by
  obtain ⟨closed, body, hchronicle⟩ := h.chronicle
  have hbook := hchronicle.book h.consistent
  have hruns := hbook.runs.trans hone
  cases hstanding : system.core.standing with
  | none =>
      -- The run is over, so its chapter is the one that is closed.
      rw [Core.openChapter_of_none hstanding, List.append_nil] at hruns hbook
      obtain ⟨chapter, rfl, hpair⟩ := List.map_eq_singleton_iff.mp hruns
      obtain ⟨exit, state, hexit, hreported, hbody⟩ := hchronicle.finished chapter (by simp)
      have hnone : system.core.run = none := by simpa [Core.standing] using hstanding
      refine ⟨chapter, ⟨?_, ?_, hbody.unstopped, by simp [hexit, hnone], ?_⟩,
        (Prod.mk.inj hpair).1⟩
      · rw [hbook.origins, List.flatMap_singleton]
      · rw [hbook.queued, List.flatMap_singleton]
      · exact fun exit hexit => hbook.exits chapter (by simp) exit hexit
  | some standing =>
      obtain ⟨owner, process⟩ := standing
      cases process with
      | none =>
          have hlt := h.installed_le_starts.2 owner hstanding
          rw [hone, hstarts] at hlt
          exact absurd hlt (Nat.lt_irrefl 1)
      | some process =>
          rw [Core.openChapter_of_attached hstanding] at hruns hbook
          have hempty : closed = [] := by
            have hlength := congrArg List.length hruns
            simpa using hlength
          subst hempty
          have hsome : system.core.run ≠ none := by
            intro hnone
            simp [Core.standing, hnone] at hstanding
          refine ⟨⟨owner, process, body, none⟩, ⟨?_, ?_, ?_, by simp [hsome], by simp⟩, ?_⟩
          · rw [hbook.origins, List.nil_append, List.flatMap_singleton]
          · rw [hbook.queued, List.nil_append, List.flatMap_singleton]
          · exact (hchronicle.current owner process hstanding).unstopped
          · exact (Prod.mk.inj (List.cons.inj hruns).1).1

namespace Story

-- The end of the run is told last, or not yet.
theorem events_eq (h : Story config actions system chapter) :
    ∃ front, .stateChanged .stopped ∉ front ∧
      system.queue.events =
        front ++ if system.core.run = none then [.stateChanged .stopped] else [] := by
  have hopening : .stateChanged .stopped ∉ Chapter.opening chapter.handle ++ chapter.body := by
    simp [Chapter.opening, startedLine, h.unstopped]
  rw [h.queued, Chapter.events]
  cases hexit : chapter.exit with
  | none =>
      rw [if_neg (h.finished.mp hexit)]
      exact ⟨_, hopening, rfl⟩
  | some exit =>
      have hnone : system.core.run = none := by
        refine Decidable.byContradiction fun hsome => ?_
        simp [h.finished.mpr hsome] at hexit
      rw [if_pos hnone]
      refine ⟨Chapter.opening chapter.handle ++ chapter.body ++ [stoppedLine exit], ?_, ?_⟩
      · simpa [stoppedLine] using hopening
      · simp [Chapter.ending]

-- Whoever was told the end was told everything.
theorem complete (h : Story config actions system chapter) {events : List Event}
    (hbegins : events <+: system.queue.events) (hstopped : .stateChanged .stopped ∈ events) :
    system.core.run = none ∧ events = system.queue.events := by
  obtain ⟨front, hfront, hevents⟩ := h.events_eq
  by_cases hnone : system.core.run = none
  · refine ⟨hnone, ?_⟩
    rw [if_pos hnone] at hevents
    rw [hevents] at hbegins ⊢
    exact (List.prefix_concat_iff.mp hbegins).resolve_right fun hshort =>
      hfront (hshort.mem hstopped)
  · rw [if_neg hnone, List.append_nil] at hevents
    rw [hevents] at hbegins
    exact absurd (hbegins.mem hstopped) hfront

end Story

end Overseer.Supervisor
