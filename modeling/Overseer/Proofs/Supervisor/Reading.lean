import Overseer.Proofs.Supervisor.Forwarding
import Overseer.Proofs.Supervisor.Grammar

namespace Overseer.Supervisor

open Overseer.Output Overseer.Text

-- Every step of the system keeps what was forwarded in line with what arrived.

variable {config : Config} {actions : List Action} {steps : List Step} {system after : System}
  {action : Action} {id : Nat} {source : Source}

theorem Transition.config_eq (hstep : Transition system action after) :
    after.config = system.config := by
  cases hstep with
  | requested hopen hrequest => cases hrequest <;> rfl
  | disposeRequested hclosing hrequest => cases hrequest <;> rfl
  | _ => rfl

theorem Execution.config_eq (h : Execution config actions system) : system.config = config := by
  induction h with
  | initial => rfl
  | step _ hact ih => exact (System.transition_of_act hact).config_eq.trans ih

theorem forwarded_read {text : Option String}
    (hopen : system.queue.ended = false)
    (hqueue : after.queue = system.queue.putAll (System.outputEvent source text)) :
    forwarded id source [⟨system, .read id source, after⟩] = (text.getD "").toList := by
  have hevents := Step.events_of_putAll ⟨system, .read id source, after⟩ _ hopen hqueue
  simp only [forwarded, notices, List.flatMap_singleton, Step.notices, hevents]
  cases text with
  | none => rfl
  | some text => simp [System.outputEvent, outputs, Step.run, textFrom]

theorem messagesTo_of_other {owner : Nat} {other : Source} {message : Message}
    (hne : ¬(owner = id ∧ other = source)) :
    messagesTo id source [.send owner other message] = [] := by
  simp [messagesTo, hne]

theorem System.isUnread_of_free (h : ∀ owner unread, system.lock ≠ some (.attaching owner unread)) :
    system.isUnread id source = false := by
  cases hunread : system.isUnread id source with
  | false => rfl
  | true =>
      obtain ⟨unread, hlock, -⟩ := System.lock_of_isUnread hunread
      exact absurd hlock (h id unread)

theorem Requesting.not_attaching {signal : Signal} (hstep : Requesting system signal after) :
    system.lock = none ∧ after.readers = system.readers ∧
      ∀ owner unread, after.lock ≠ some (.attaching owner unread) := by
  cases hstep with
  | ignored hlock => exact ⟨hlock, rfl, by simp [hlock]⟩
  | recorded hlock => exact ⟨hlock, rfl, by simp [hlock]⟩
  | entered hlock => exact ⟨hlock, rfl, (by simp)⟩
  | repeated hlock => exact ⟨hlock, rfl, (by simp)⟩

-- The steps that concern a reader.
def Action.isReading : Action → Bool
  | watch _ | send _ _ _ | read _ _ | announce _ => true
  | _ => false

theorem Transition.readers_eq (hstep : Transition system action after)
    (hreading : action.isReading = false) : after.readers = system.readers := by
  cases hstep with
  | watched | unwatched | sent | readAgain | readChunk | readEnd | announcedInVain | announced =>
      cases hreading
  | requested hopen hrequest => exact hrequest.not_attaching.2.1
  | disposeRequested hclosing hrequest => exact hrequest.not_attaching.2.1
  | _ => rfl

theorem Transition.isUnread_eq (hstep : Transition system action after)
    (hturn : action.isTurn = false) (hreading : action.isReading = false) :
    after.isUnread id source = system.isUnread id source := by
  have hrequesting : ∀ {signal next}, Requesting system signal next →
      next.isUnread id source = system.isUnread id source := by
    intro signal next hrequest
    obtain ⟨hlock, -, hfree⟩ := hrequest.not_attaching
    rw [System.isUnread_of_free hfree, System.isUnread_of_free (by simp [hlock])]
  cases hstep with
  | failed | attached | tornDown => cases hturn
  | watched | unwatched | sent | readAgain | readChunk | readEnd | announcedInVain | announced =>
      cases hreading
  | letGo hlock => simp [System.isUnread, hlock]
  | takenUp hlock => simp [System.isUnread, System.sendSignal, hlock]
  | concluded hlock => simp [System.isUnread, hlock]
  | requested hopen hrequest => exact hrequesting hrequest
  | disposeRequested hclosing hrequest => exact (hrequesting hrequest :)
  | _ => rfl

theorem System.unopened_of_gone (hstanding : after.core.standing = none)
    (hlast : after.core.lastRun = system.core.lastRun) (hlock : after.lock = system.lock)
    (h : after.Unopened id source) : system.Unopened id source := by
  rcases h with hlt | hspawning | hunread
  · exact .inl (by omega)
  · simp [hstanding] at hspawning
  · refine .inr (.inr ?_)
    rwa [isUnread, hlock] at hunread

namespace Conveyed

-- The turn of a stream comes. Nothing was sent and nothing forwarded so far.
theorem turn (h : Conveyed id source actions steps system)
    (hbefore : system.Unopened id source)
    (hforwarded : forwarded id source [⟨system, action, after⟩] = [])
    (hmessages : messagesTo id source [action] = [])
    (hfresh : ∀ thread, after.findReader id source = some thread →
      thread.reader.decoder.pending = [] ∧ thread.stream = [])
    (hended : (∀ reason, .watch (some reason) ∉ actions ++ [action]) →
      System.hasBuffer after.config = true → ∀ handle, .attach id handle ∈ actions ++ [action] →
      source ∈ handle.streams → after.isUnread id source = false →
      after.findReader id source ≠ none) :
    Conveyed id source (actions ++ [action]) (steps ++ [⟨system, action, after⟩]) after := by
  obtain ⟨hnoMessages, hnoText⟩ := h.unopened hbefore
  have hmessages : messagesTo id source (actions ++ [action]) = [] := by
    rw [messagesTo_concat, hnoMessages, hmessages]
    rfl
  have hforwarded : forwarded id source (steps ++ [⟨system, action, after⟩]) = [] := by
    rw [forwarded_concat, hnoText, hforwarded]
    rfl
  refine ⟨fun _ => ⟨hmessages, hforwarded⟩, ?_, ?_, ?_⟩
  · intro thread hthread
    obtain ⟨hpending, hstream⟩ := hfresh thread hthread
    rw [hmessages, hforwarded]
    refine ⟨by rw [hpending]; exact True.intro, fun later => ?_⟩
    simp [Reader.owed, hpending, hstream]
  · intro _
    rw [hmessages, hforwarded, Stream.content, Utf8.lossy_nil]
  · intro hread hbuffer handle hmem hprovided hunread hnone
    exact absurd hnone (hended hread hbuffer handle hmem hprovided hunread)

-- The process is installed. Its streams wait for their readers.
theorem attach (h : Conveyed id source actions steps system) (hconsistent : Consistent system)
    (hsource : source ≠ .supervisor)
    (hunattached : system.core.standing = some (id, none) → ∀ handle, .attach id handle ∉ actions)
    {owner : Nat} {handle : Handle} (hstep : Transition system (.attach owner handle) after) :
    Conveyed id source (actions ++ [.attach owner handle])
      (steps ++ [⟨system, .attach owner handle, after⟩]) after := by
  have hforwarded : forwarded id source [⟨system, .attach owner handle, after⟩] = [] :=
    forwarded_of_other hconsistent hstep (.inl hsource.symm)
  cases hstep with
  | @attached _ _ run hlock hwindow hrun hid hstate =>
      obtain ⟨run', hrun', hhandle, -⟩ := hconsistent.window hwindow
      obtain rfl := Option.some.inj (hrun.symm.trans hrun')
      by_cases hkey : owner = id
      · subst hkey
        have hstanding : system.core.standing = some (owner, none) := by
          simp [Core.standing, hrun, hid, hhandle]
        have hgone : system.findReader owner source = none :=
          hconsistent.findReader_of_unopened (.inr (.inl hstanding))
        refine h.turn (.inr (.inl hstanding)) hforwarded rfl ?_ ?_
        · intro thread hthread
          cases hthread.symm.trans hgone
        · intro _ _ other hmem hprovided hunread
          rcases List.mem_append.mp hmem with hmem | hmem
          · exact absurd hmem (hunattached hstanding other)
          · obtain rfl : other = handle := by simpa using hmem
            have hwaits : (decide (owner = owner) && other.streams.contains source) = true := by
              simpa using hprovided
            exact absurd (hwaits.symm.trans hunread) (by simp)
      · refine h.keep hforwarded rfl (fun handle' heq => ?_) rfl ?_ ?_ ?_ ?_
        · cases heq
          exact hkey rfl
        · rintro (hlt | hstanding | hunread)
          · exact .inl hlt
          · simp [Core.standing, System.record, System.put] at hstanding
          · obtain ⟨unread, hlock', -⟩ := System.lock_of_isUnread hunread
            cases hlock'
            exact absurd rfl hkey
        · exact fun _ => System.isUnread_of_free (by simp [hlock])
        · exact fun thread hthread => ⟨thread, hthread, rfl, rfl⟩
        · exact fun hnone => hnone

-- A reader is created for a stream, or none can be.
theorem watch (h : Conveyed id source actions steps system) (hconsistent : Consistent system)
    (hsource : source ≠ .supervisor) {refusal : Option String}
    (hstep : Transition system (.watch refusal) after) :
    Conveyed id source (actions ++ [.watch refusal])
      (steps ++ [⟨system, .watch refusal, after⟩]) after := by
  have hforwarded : forwarded id source [⟨system, .watch refusal, after⟩] = [] :=
    forwarded_of_other hconsistent hstep (.inl hsource.symm)
  obtain ⟨owner, other, rest, hlock⟩ : ∃ owner other rest,
      system.lock = some (.attaching owner (other :: rest)) := by
    cases hstep with
    | watched hlock => exact ⟨_, _, _, hlock⟩
    | unwatched hlock => exact ⟨_, _, _, hlock⟩
  by_cases hkey : owner = id ∧ other = source
  · obtain ⟨rfl, rfl⟩ := hkey
    have hturn : system.Unopened owner other :=
      .inr (.inr (by simp [System.isUnread, hlock]))
    have hgone := hconsistent.findReader_of_unopened hturn
    cases hstep with
    | watched hlock' =>
        obtain ⟨rfl, rfl, rfl⟩ : owner = _ ∧ other = _ ∧ rest = _ := by simpa [hlock] using hlock'
        refine h.turn hturn hforwarded rfl ?_ ?_
        · intro thread hthread
          rw [System.findReader_watched, hgone, Option.none_or] at hthread
          split at hthread
          · cases hthread
            unfold System.newReader
            split <;> exact ⟨rfl, rfl⟩
          · cases hthread
        · intro _ hbuffer _ _ _ _
          have hbuffer : System.hasBuffer system.config = true := hbuffer
          rw [System.findReader_watched]
          simp [hbuffer]
    | unwatched hlock' =>
        refine h.turn hturn hforwarded rfl ?_ ?_
        · intro thread hthread
          cases hthread.symm.trans hgone
        · intro hread
          exact absurd (List.mem_append_right _ (List.mem_singleton.mpr rfl)) (hread _)
  · have hturns : (decide (owner = id) && (other :: rest).contains source) =
        (decide (owner = id) && rest.contains source) := by
      by_cases howner : owner = id
      · have hne : source ≠ other := fun heq => hkey ⟨howner, heq.symm⟩
        simp [howner, hne]
      · simp [howner]
    have hbefore : system.isUnread id source = (decide (owner = id) && rest.contains source) := by
      rw [← hturns]
      simp only [System.isUnread, hlock]
    cases hconsistent.turn hstep with
    | same hstanding hlast =>
        cases hstep with
        | watched hlock' =>
            obtain ⟨rfl, rfl, rfl⟩ : owner = _ ∧ other = _ ∧ rest = _ := by
              simpa [hlock] using hlock'
            refine h.aside hforwarded rfl (by simp) rfl hstanding hlast hbefore.symm ?_
            rw [System.findReader_watched, if_neg (fun hall => hkey hall.2), Option.or_none]
        | unwatched hlock' =>
            obtain ⟨rfl, rfl, rfl⟩ : owner = _ ∧ other = _ ∧ rest = _ := by
              simpa [hlock] using hlock'
            exact h.aside hforwarded rfl (by simp) rfl hstanding hlast hbefore.symm rfl

theorem read (h : Conveyed id source actions steps system) (hconsistent : Consistent system)
    (hstep : Transition system (.read id source) after) :
    Conveyed id source (actions ++ [.read id source])
      (steps ++ [⟨system, .read id source, after⟩]) after := by
  have hopen : ∀ {thread}, system.findReader id source = some thread →
      system.queue.ended = false := by
    intro thread hfind
    obtain ⟨run, handle, hrun, -⟩ := hconsistent.reader_owner (System.findReader_eq_some hfind).1
    exact hconsistent.queue_open (by simp [hrun])
  cases hstep with
  | @readAgain _ _ thread rest hfind _ hread =>
      obtain ⟨-, hid, hsource⟩ := System.findReader_eq_some hfind
      obtain ⟨hunfinished, -⟩ := h.reading thread hfind
      refine h.progress hconsistent none hfind
        (System.findReader_setReader_same hfind hid hsource)
        (forwarded_read (hopen hfind) rfl) (fun hafter => hafter) hunfinished fun later => ?_
      obtain ⟨hcontent, hends⟩ := Stream.content_of_again hread later
      exact ⟨by rw [hcontent]; rfl, hends⟩
  | @readChunk _ _ thread bytes rest hfind _ hread =>
      obtain ⟨-, hid, hsource⟩ := System.findReader_eq_some hfind
      obtain ⟨hunfinished, -⟩ := h.reading thread hfind
      refine h.progress hconsistent _ hfind (System.findReader_setReader_same hfind hid hsource)
        (forwarded_read (hopen hfind) rfl) (fun hafter => hafter)
        (Reader.unfinished_accept hunfinished bytes) fun later => ?_
      obtain ⟨hcontent, hends⟩ := Stream.content_of_chunk hread later
      exact ⟨by rw [hcontent]; exact Reader.owed_accept hunfinished bytes _, hends⟩
  | @readEnd _ _ thread rest hfind _ hread =>
      have hcontent := Stream.content_of_ended hread []
      rw [List.append_nil] at hcontent
      exact h.finish hconsistent hfind System.findReader_endReader_same
        (forwarded_read (hopen hfind) rfl) (fun hafter => hafter) hcontent

theorem read_other (h : Conveyed id source actions steps system) (hconsistent : Consistent system)
    {owner : Nat} {other : Source} (hne : ¬(owner = id ∧ other = source))
    (hstep : Transition system (.read owner other) after) :
    Conveyed id source (actions ++ [.read owner other])
      (steps ++ [⟨system, .read owner other, after⟩]) after := by
  have hforwarded : forwarded id source [⟨system, .read owner other, after⟩] = [] := by
    refine forwarded_of_other hconsistent hstep ?_
    by_cases hother : other = source
    · exact .inr fun howner => hne ⟨Option.some.inj howner, hother⟩
    · exact .inl hother
  cases hstep with
  | readAgain hfind =>
      obtain ⟨-, hid, hsource⟩ := System.findReader_eq_some hfind
      exact h.aside hforwarded rfl (by simp) rfl rfl rfl rfl
        (System.findReader_setReader_other (by simpa only [hid, hsource] using hne))
  | readChunk hfind =>
      obtain ⟨-, hid, hsource⟩ := System.findReader_eq_some hfind
      exact h.aside hforwarded rfl (by simp) rfl rfl rfl rfl
        (System.findReader_setReader_other (by simpa only [hid, hsource] using hne))
  | readEnd hfind =>
      exact h.aside hforwarded rfl (by simp) rfl rfl rfl rfl (System.findReader_endReader_other hne)

-- The reader of standard output goes on once it has told of the marker.
theorem announce (h : Conveyed id source actions steps system) (hconsistent : Consistent system)
    (hsource : source ≠ .supervisor) {owner : Nat}
    (hstep : Transition system (.announce owner) after)
    (hstanding : after.core.standing = system.core.standing)
    (hlast : after.core.lastRun = system.core.lastRun) :
    Conveyed id source (actions ++ [.announce owner])
      (steps ++ [⟨system, .announce owner, after⟩]) after := by
  have hforwarded : forwarded id source [⟨system, .announce owner, after⟩] = [] :=
    forwarded_of_other hconsistent hstep (.inl hsource.symm)
  obtain ⟨thread, hfind, hreaders, hlock⟩ : ∃ thread,
      system.findReader owner .stdout = some thread ∧
      after.readers = (system.setReader { thread with announcing := false }).readers ∧
      after.lock = system.lock := by
    cases hstep with
    | announcedInVain _ hfind => exact ⟨_, hfind, rfl, rfl⟩
    | announced _ hfind => exact ⟨_, hfind, rfl, rfl⟩
  obtain ⟨-, hid, hstdout⟩ := System.findReader_eq_some hfind
  have hunread : after.isUnread id source = system.isUnread id source := by
    simp only [System.isUnread, hlock]
  have hconfig := hstep.config_eq
  by_cases hkey : owner = id ∧ .stdout = source
  · obtain ⟨rfl, rfl⟩ := hkey
    have hafter : after.findReader owner .stdout = some { thread with announcing := false } :=
      (System.findReader_congr hreaders).trans
        (System.findReader_setReader_same hfind hid hstdout)
    refine h.keep hforwarded rfl (by simp) hconfig ?_ ?_ ?_ ?_
    · unfold System.Unopened
      rw [hstanding, hlast, hunread]
      exact fun hopen => hopen
    · rw [hunread]
      exact fun hopen => hopen
    · intro changed hchanged
      obtain rfl := Option.some.inj (hafter.symm.trans hchanged)
      exact ⟨thread, hfind, rfl, rfl⟩
    · simp [hafter]
  · refine h.aside hforwarded rfl (by simp) hconfig hstanding hlast hunread ?_
    refine (System.findReader_congr hreaders).trans (System.findReader_setReader_other ?_)
    simpa only [hid, hstdout] using hkey

-- A run comes or goes. Nobody reads then.
theorem passing (h : Conveyed id source actions steps system)
    (hforwarded : forwarded id source [⟨system, action, after⟩] = [])
    (hmessages : messagesTo id source [action] = [])
    (hattach : ∀ handle, action ≠ .attach id handle) (hconfig : after.config = system.config)
    (hunopened : after.Unopened id source → system.Unopened id source)
    (hlock : after.lock = system.lock) (hreaders : after.readers = system.readers) :
    Conveyed id source (actions ++ [action]) (steps ++ [⟨system, action, after⟩]) after := by
  have hfind : after.findReader id source = system.findReader id source :=
    System.findReader_congr hreaders
  refine h.keep hforwarded hmessages hattach hconfig hunopened ?_ ?_ ?_
  · unfold System.isUnread
    rw [hlock]
    exact fun hunread => hunread
  · intro thread hthread
    exact ⟨thread, hfind.symm.trans hthread, rfl, rfl⟩
  · exact fun hnone => hfind.symm.trans hnone

theorem quiet (h : Conveyed id source actions steps system) (hconsistent : Consistent system)
    (hsource : source ≠ .supervisor) (hstep : Transition system action after)
    (hstanding : after.core.standing = system.core.standing)
    (hlast : after.core.lastRun = system.core.lastRun) (hturn : action.isTurn = false)
    (hreading : action.isReading = false) :
    Conveyed id source (actions ++ [action]) (steps ++ [⟨system, action, after⟩]) after := by
  have horigin : (Step.mk system action after).origin = .supervisor := by
    cases action <;> first | rfl | cases hreading
  have hmessages : messagesTo id source [action] = [] := by
    cases action <;> first | rfl | cases hreading
  have hforwarded : forwarded id source [⟨system, action, after⟩] = [] :=
    forwarded_of_other hconsistent hstep (.inl (by rw [horigin]; exact hsource.symm))
  refine h.aside hforwarded hmessages (fun handle heq => ?_) hstep.config_eq hstanding hlast
    (hstep.isUnread_eq hturn hreading) (System.findReader_congr (hstep.readers_eq hreading))
  rw [heq] at hturn
  cases hturn

theorem transition (h : Conveyed id source actions steps system) (hconsistent : Consistent system)
    (hsource : source ≠ .supervisor)
    (hunattached : system.core.standing = some (id, none) → ∀ handle, .attach id handle ∉ actions)
    (hstep : Transition system action after) :
    Conveyed id source (actions ++ [action]) (steps ++ [⟨system, action, after⟩]) after := by
  have hquiet : (Step.mk system action after).origin ≠ source ∨
      (Step.mk system action after).run ≠ some id →
      forwarded id source [⟨system, action, after⟩] = [] :=
    forwarded_of_other hconsistent hstep
  cases hconsistent.turn hstep with
  | begun hbefore hafter hlast =>
      cases hstep with
      | startIgnored => simp [hbefore] at hafter
      | begun =>
          refine h.passing (hquiet (.inl hsource.symm)) rfl (by simp) rfl ?_ rfl rfl
          rintro (hlt | hstanding | hunread)
          · exact .inl (by omega)
          · rw [hafter] at hstanding
            cases hstanding
            exact .inl (Nat.lt_succ_self _)
          · exact .inr (.inr hunread)
  | failed hbefore hafter hlast =>
      cases hstep
      exact h.passing (hquiet (.inl hsource.symm)) rfl (by simp) rfl
        (System.unopened_of_gone hafter hlast rfl) rfl rfl
  | attached => exact h.attach hconsistent hsource hunattached hstep
  | ended hbefore hafter hlast =>
      cases hstep
      exact h.passing (hquiet (.inl hsource.symm)) rfl (by simp) rfl
        (System.unopened_of_gone hafter hlast rfl) rfl rfl
  | same hstanding hlast hkind =>
      cases action with
      | watch refusal => exact h.watch hconsistent hsource hstep
      | announce owner => exact h.announce hconsistent hsource hstep hstanding hlast
      | read owner other =>
          by_cases hkey : owner = id ∧ other = source
          · obtain ⟨rfl, rfl⟩ := hkey
            exact h.read hconsistent hstep
          · exact h.read_other hconsistent hkey hstep
      | send owner other message =>
          cases hstep with
          | sent hfind =>
              obtain ⟨-, hid, hother⟩ := System.findReader_eq_some hfind
              by_cases hkey : owner = id ∧ other = source
              · obtain ⟨rfl, rfl⟩ := hkey
                exact h.send hconsistent hfind (System.findReader_setReader_same hfind hid hother)
                  (hquiet (.inl hsource.symm)) (fun hafter => hafter)
              · exact h.aside (hquiet (.inl hsource.symm)) (messagesTo_of_other hkey) (by simp) rfl rfl
                  rfl rfl (System.findReader_setReader_other (by simpa only [hid, hother] using hkey))
      | _ => exact h.quiet hconsistent hsource hstep hstanding hlast hkind rfl

end Conveyed

theorem Execution.conveyed (h : Execution config actions system) (hsource : source ≠ .supervisor)
    (id : Nat) : Conveyed id source actions (history config actions) system := by
  induction h with
  | initial => exact .initial config id source
  | step hbefore hact ih =>
      rw [hbefore.history_concat hact]
      exact ih.transition hbefore.consistent hsource hbefore.unattached
        (System.transition_of_act hact)

end Overseer.Supervisor
