import Overseer.Proofs.Output.Content
import Overseer.Proofs.Supervisor.Telling

namespace Overseer.Supervisor

open Overseer.Output Overseer.Text

-- What becomes of the bytes that arrive on a stream: at any time the text that
-- was forwarded and the text that the reader still owes make up the whole.

-- The table of readers, by run and stream.

section Replacing

variable {α : Type} {p q : α → Bool} {new : α}

theorem find?_replace_same (hnew : p new = true) (items : List α) :
    (items.map fun item => if p item then new else item).find? p =
      (items.find? p).map fun _ => new := by
  induction items with
  | nil => rfl
  | cons item items ih =>
      rw [List.map_cons]
      cases hitem : p item with
      | true => simp [hitem, hnew]
      | false => simpa [hitem] using ih

theorem find?_replace_other (hnew : p new = false) (hother : ∀ item, q item = true → p item = false)
    (items : List α) :
    (items.map fun item => if q item then new else item).find? p = items.find? p := by
  induction items with
  | nil => rfl
  | cons item items ih =>
      rw [List.map_cons]
      cases hitem : q item with
      | true => rw [if_pos rfl, List.find?_cons_of_neg (by simp [hnew]), ih,
          List.find?_cons_of_neg (by simp [hother item hitem])]
      | false =>
          rw [if_neg (by simp), List.find?_cons, List.find?_cons, ih]

end Replacing

namespace System

variable {system : System} {id owner : Nat} {source other : Source} {thread changed : ReaderThread}

theorem findReader_congr {after : System} (h : after.readers = system.readers) :
    after.findReader id source = system.findReader id source := by
  simp only [findReader, h]

theorem findReader_setReader_same (hfind : system.findReader id source = some thread)
    (hrun : changed.run = id) (hsource : changed.source = source) :
    (system.setReader changed).findReader id source = some changed := by
  subst hrun hsource
  refine (find?_replace_same (by simp) system.readers).trans ?_
  exact congrArg (Option.map fun _ => changed) hfind

theorem findReader_setReader_other (hne : ¬(changed.run = id ∧ changed.source = source)) :
    (system.setReader changed).findReader id source = system.findReader id source := by
  refine find?_replace_other (by simpa using hne) (fun thread hthread => ?_) system.readers
  obtain ⟨hrun, hsource⟩ : thread.run = changed.run ∧ thread.source = changed.source := by
    simpa using hthread
  rw [hrun, hsource]
  simpa using hne

theorem findReader_endReader_same : (system.endReader id source).findReader id source = none := by
  refine List.find?_eq_none.mpr fun thread hthread => ?_
  have hkept := (List.mem_filter.mp hthread).2
  simpa [Decidable.or_iff_not_imp_left] using hkept

theorem findReader_endReader_other (hne : ¬(owner = id ∧ other = source)) :
    (system.endReader owner other).findReader id source = system.findReader id source := by
  refine (List.find?_filter ..).trans ?_
  refine congrArg (fun matching => system.readers.find? matching) (funext fun thread => ?_)
  by_cases hkey : thread.run = id ∧ thread.source = source
  · have hkept : ¬id = owner ∨ ¬source = other :=
      Decidable.not_and_iff_not_or_not.mp fun hsame => hne ⟨hsame.1.symm, hsame.2.symm⟩
    simpa [hkey] using hkept
  · have hmiss : (decide (thread.run = id) && decide (thread.source = source)) = false := by
      simpa using hkey
    simp [hmiss]

-- A reader that is created is found unless there was one before it.
theorem findReader_watched (lock : Option Holder) (core : Core) :
    System.findReader
      { system with
        lock := lock
        core := core
        readers :=
          if hasBuffer system.config then system.readers ++ [newReader system.config owner other]
          else system.readers } id source =
      (system.findReader id source).or
        (if hasBuffer system.config ∧ owner = id ∧ other = source then
          some (newReader system.config owner other)
        else none) := by
  cases hbuffer : hasBuffer system.config with
  | false => simp [findReader]
  | true =>
      simp only [findReader, if_true, List.find?_append, true_and]
      congr 1
      by_cases hkey : owner = id ∧ other = source <;> simp [newReader, hkey]

end System

-- The stream of a run has its reader yet to come.
def System.isUnread (system : System) (id : Nat) (source : Source) : Bool :=
  match system.lock with
  | some (.attaching run unread) => run = id && unread.contains source
  | _ => false

-- No reader can have been created for the stream of a run so far.
def System.Unopened (system : System) (id : Nat) (source : Source) : Prop :=
  system.core.lastRun < id ∨ system.core.standing = some (id, none) ∨
    system.isUnread id source = true

def forwarded (id : Nat) (source : Source) (steps : List Step) : List Char :=
  (outputs id source (notices steps)).flatMap String.toList

-- What holds of the messages for a stream, the text forwarded from it and its
-- reader, from before the reader is created until after it has ended.
structure Conveyed (id : Nat) (source : Source) (actions : List Action) (steps : List Step)
    (system : System) : Prop where
  unopened : system.Unopened id source →
    messagesTo id source actions = [] ∧ forwarded id source steps = []
  reading : ∀ thread, system.findReader id source = some thread →
    Decoder.Unfinished thread.reader.decoder.pending ∧
    ∀ later,
      Utf8.lossy (Stream.content (messagesTo id source actions ++ later)) =
        forwarded id source steps ++ thread.reader.owed (Stream.content (thread.stream ++ later)) ∧
      Stream.ends (messagesTo id source actions ++ later) = Stream.ends (thread.stream ++ later)
  settled : system.findReader id source = none →
    Utf8.lossy (Stream.content (messagesTo id source actions)) = forwarded id source steps
  -- A stream that was read was read to its end.
  ended : (∀ reason, .watch (some reason) ∉ actions) → System.hasBuffer system.config = true →
    ∀ handle, .attach id handle ∈ actions → source ∈ handle.streams →
    system.isUnread id source = false → system.findReader id source = none →
    Stream.ends (messagesTo id source actions) = true

theorem forwarded_concat (id : Nat) (source : Source) (steps : List Step) (step : Step) :
    forwarded id source (steps ++ [step]) =
      forwarded id source steps ++ forwarded id source [step] := by
  have hone : notices [step] = step.notices := by simp [notices]
  rw [forwarded, notices_concat, outputs_concat, List.flatMap_append, forwarded, forwarded, hone]

-- Only the reader of a stream forwards its text.

theorem textFrom_eq_none {source : Source} {event : Event} (h : originOf event ≠ source) :
    textFrom source event = none := by
  cases event with
  | output line => simpa [textFrom, originOf] using h
  | stateChanged => rfl

section Steps

variable {actions : List Action} {steps : List Step} {system after : System} {action : Action}
  {id : Nat} {source : Source}

theorem Consistent.origin_of_events (h : Consistent system)
    (hstep : Transition system action after) :
    ∀ event ∈ (Step.mk system action after).events,
      originOf event = (Step.mk system action after).origin := by
  cases hkind : action.isTurn with
  | false =>
      obtain ⟨events, hadds⟩ := Adds.transition h hstep hkind
      rw [hadds.events_eq]
      intro event hevent
      obtain ⟨id, handle, -, -, horigin⟩ := hadds.labelled (List.ne_nil_of_mem hevent)
      exact horigin event hevent
  | true =>
      cases hstep with
      | failed =>
          rw [Step.events_of_same rfl]
          simp
      | attached hlock hwindow hrun =>
          rw [Step.events_of_putAll _ _ (h.queue_open (by simp [hrun])) rfl]
          simp [originOf, startedLine, Step.origin]
      | tornDown hlock hfind hjoined hrun =>
          rename_i teardown run
          rw [Step.events_of_putAll _ [stoppedLine teardown.exit, .stateChanged .stopped]
            (h.queue_open (by simp [hrun])) rfl]
          simp [originOf, stoppedLine, Step.origin]
      | _ => cases hkind

theorem outputs_of_other (h : Consistent system) (hstep : Transition system action after)
    (hother : (Step.mk system action after).origin ≠ source ∨
      (Step.mk system action after).run ≠ some id) :
    outputs id source (Step.mk system action after).notices = [] := by
  refine List.filterMap_eq_nil_iff.mpr fun notice hnotice => ?_
  obtain ⟨event, hevent, rfl⟩ := List.mem_map.mp hnotice
  rcases hother with hother | hother
  · have hnone : textFrom source event = none := by
      refine textFrom_eq_none ?_
      rw [h.origin_of_events hstep event hevent]
      exact hother
    simp [hnone]
  · simp [hother]

theorem forwarded_of_other (h : Consistent system) (hstep : Transition system action after)
    (hother : (Step.mk system action after).origin ≠ source ∨
      (Step.mk system action after).run ≠ some id) :
    forwarded id source [⟨system, action, after⟩] = [] := by
  simp [forwarded, notices, outputs_of_other h hstep hother]

theorem System.lock_of_isUnread (h : system.isUnread id source = true) :
    ∃ unread, system.lock = some (.attaching id unread) ∧ source ∈ unread := by
  unfold isUnread at h
  split at h
  · rename_i owner unread hlock
    obtain ⟨rfl, hsource⟩ : owner = id ∧ source ∈ unread := by simpa using h
    exact ⟨unread, hlock, hsource⟩
  · cases h

theorem Consistent.findReader_of_unopened (h : Consistent system)
    (hunopened : system.Unopened id source) : system.findReader id source = none := by
  cases hfind : system.findReader id source with
  | none => rfl
  | some thread =>
      obtain ⟨hmem, hid, hsource⟩ := System.findReader_eq_some hfind
      obtain ⟨run, handle, hrun, hhandle, hattached⟩ := h.reader_owner hmem
      have howner := (hattached.fits thread hmem).owner
      have hcurrent := h.current run hrun
      rcases hunopened with hlt | hstanding | hunread
      · omega
      · simp [Core.standing, hrun, hhandle] at hstanding
      · obtain ⟨unread, hlock, hturn⟩ := System.lock_of_isUnread hunread
        exact absurd hsource (h.source_ne_of_unread hlock hturn thread hmem)

namespace Conveyed

theorem initial (config : Config) (id : Nat) (source : Source) :
    Conveyed id source [] [] (System.new config) where
  unopened := fun _ => ⟨rfl, rfl⟩
  reading := by simp [System.new, System.findReader]
  settled := fun _ => Utf8.lossy_nil
  ended := by simp

-- A step that neither forwards from the stream nor brings it anything.
theorem keep (h : Conveyed id source actions steps system)
    (hforwarded : forwarded id source [⟨system, action, after⟩] = [])
    (hmessages : messagesTo id source [action] = [])
    (hattach : ∀ handle, action ≠ .attach id handle) (hconfig : after.config = system.config)
    (hunopened : after.Unopened id source → system.Unopened id source)
    (hunread : after.isUnread id source = false → system.isUnread id source = false)
    (hfind : ∀ thread, after.findReader id source = some thread →
      ∃ old, system.findReader id source = some old ∧ thread.reader = old.reader ∧
        thread.stream = old.stream)
    (hgone : after.findReader id source = none → system.findReader id source = none) :
    Conveyed id source (actions ++ [action]) (steps ++ [⟨system, action, after⟩]) after := by
  have hforwarded : forwarded id source (steps ++ [⟨system, action, after⟩]) =
      forwarded id source steps := by
    rw [forwarded_concat, hforwarded, List.append_nil]
  have hmessages : messagesTo id source (actions ++ [action]) = messagesTo id source actions := by
    rw [messagesTo_concat, hmessages, List.append_nil]
  refine ⟨?_, ?_, ?_, ?_⟩ <;> rw [hmessages]
  · rw [hforwarded]
    exact fun hafter => h.unopened (hunopened hafter)
  · intro thread hthread
    obtain ⟨old, hold, hreader, hstream⟩ := hfind thread hthread
    rw [hforwarded, hreader, hstream]
    exact h.reading old hold
  · rw [hforwarded]
    exact fun hafter => h.settled (hgone hafter)
  · intro hread hbuffer handle hmem hprovided hafter hnone
    rw [hconfig] at hbuffer
    refine h.ended (fun reason hreason => hread reason (List.mem_append_left _ hreason)) hbuffer
      handle ?_ hprovided (hunread hafter) (hgone hnone)
    rcases List.mem_append.mp hmem with hmem | hmem
    · exact hmem
    · exact absurd (List.mem_singleton.mp hmem).symm (hattach handle)

theorem aside (h : Conveyed id source actions steps system)
    (hforwarded : forwarded id source [⟨system, action, after⟩] = [])
    (hmessages : messagesTo id source [action] = [])
    (hattach : ∀ handle, action ≠ .attach id handle) (hconfig : after.config = system.config)
    (hstanding : after.core.standing = system.core.standing)
    (hlast : after.core.lastRun = system.core.lastRun)
    (hunread : after.isUnread id source = system.isUnread id source)
    (hfind : after.findReader id source = system.findReader id source) :
    Conveyed id source (actions ++ [action]) (steps ++ [⟨system, action, after⟩]) after := by
  refine h.keep hforwarded hmessages hattach hconfig ?_ ?_ ?_ ?_
  · unfold System.Unopened
    rw [hstanding, hlast, hunread]
    exact fun hafter => hafter
  · rw [hunread]
    exact fun hafter => hafter
  · intro thread hthread
    rw [hfind] at hthread
    exact ⟨thread, hthread, rfl, rfl⟩
  · rw [hfind]
    exact fun hnone => hnone

theorem send (h : Conveyed id source actions steps system) (hconsistent : Consistent system)
    {thread : ReaderThread} {message : Message}
    (hfind : system.findReader id source = some thread)
    (hafter : after.findReader id source =
      some { thread with stream := thread.stream ++ [message] })
    (hquiet : forwarded id source [⟨system, .send id source message, after⟩] = [])
    (hunopened : after.Unopened id source → system.Unopened id source) :
    Conveyed id source (actions ++ [.send id source message])
      (steps ++ [⟨system, .send id source message, after⟩]) after := by
  have hmessages : messagesTo id source (actions ++ [.send id source message]) =
      messagesTo id source actions ++ [message] := by
    rw [messagesTo_concat]
    simp [messagesTo]
  refine ⟨?_, ?_, ?_, ?_⟩
  · intro hopen
    simp [hconsistent.findReader_of_unopened (hunopened hopen)] at hfind
  · intro other hother
    obtain rfl := Option.some.inj (hafter.symm.trans hother)
    obtain ⟨hunfinished, htext⟩ := h.reading thread hfind
    refine ⟨hunfinished, fun later => ?_⟩
    -- The message was the first of those that were still to come.
    rw [hmessages, forwarded_concat, hquiet, List.append_nil, List.append_assoc]
    simpa using htext (message :: later)
  · simp [hafter]
  · simp [hafter]

-- What the reader takes from its stream it forwards or still owes.
theorem progress (h : Conveyed id source actions steps system) (hconsistent : Consistent system)
    {thread changed : ReaderThread} (text : Option String)
    (hfind : system.findReader id source = some thread)
    (hafter : after.findReader id source = some changed)
    (hforwarded : forwarded id source [⟨system, .read id source, after⟩] =
      (text.getD "").toList)
    (hunopened : after.Unopened id source → system.Unopened id source)
    (hunfinished : Decoder.Unfinished changed.reader.decoder.pending)
    (hcontent : ∀ later,
      thread.reader.owed (Stream.content (thread.stream ++ later)) =
        (text.getD "").toList ++ changed.reader.owed (Stream.content (changed.stream ++ later)) ∧
      Stream.ends (thread.stream ++ later) = Stream.ends (changed.stream ++ later)) :
    Conveyed id source (actions ++ [.read id source])
      (steps ++ [⟨system, .read id source, after⟩]) after := by
  have hmessages : messagesTo id source (actions ++ [.read id source]) =
      messagesTo id source actions := by
    rw [messagesTo_concat]
    simp [messagesTo]
  refine ⟨?_, ?_, ?_, ?_⟩
  · intro hopen
    simp [hconsistent.findReader_of_unopened (hunopened hopen)] at hfind
  · intro other hother
    obtain rfl := Option.some.inj (hafter.symm.trans hother)
    refine ⟨hunfinished, fun later => ?_⟩
    obtain ⟨htext, hends⟩ := (h.reading thread hfind).2 later
    obtain ⟨hrest, hsame⟩ := hcontent later
    rw [hmessages, forwarded_concat, hforwarded, List.append_assoc, ← hrest, ← hsame]
    exact ⟨htext, hends⟩
  · simp [hafter]
  · simp [hafter]

-- At the end the reader forwards what it still owes and is gone.
theorem finish (h : Conveyed id source actions steps system) (hconsistent : Consistent system)
    {thread : ReaderThread} (hfind : system.findReader id source = some thread)
    (hafter : after.findReader id source = none)
    (hforwarded : forwarded id source [⟨system, .read id source, after⟩] =
      (thread.reader.flush.getD "").toList)
    (hunopened : after.Unopened id source → system.Unopened id source)
    (hcontent : Stream.content thread.stream = [] ∧ Stream.ends thread.stream = true) :
    Conveyed id source (actions ++ [.read id source])
      (steps ++ [⟨system, .read id source, after⟩]) after := by
  have hmessages : messagesTo id source (actions ++ [.read id source]) =
      messagesTo id source actions := by
    rw [messagesTo_concat]
    simp [messagesTo]
  obtain ⟨htext, hends⟩ := (h.reading thread hfind).2 []
  simp only [List.append_nil, hcontent] at htext hends
  refine ⟨?_, ?_, ?_, ?_⟩
  · intro hopen
    simp [hconsistent.findReader_of_unopened (hunopened hopen)] at hfind
  · simp [hafter]
  · intro _
    rw [hmessages, htext, forwarded_concat, hforwarded, Reader.owed_flush]
  · intro _ _ _ _ _ _ _
    rw [hmessages, hends]

end Conveyed

end Steps

end Overseer.Supervisor
