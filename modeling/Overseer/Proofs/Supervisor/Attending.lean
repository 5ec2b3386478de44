import Overseer.Proofs.Output.Pieces
import Overseer.Proofs.Supervisor.Reading

namespace Overseer.Supervisor

open Overseer.Output Overseer.Text

-- One stream of a run and its reader: what each step means to them, and what
-- the reader has read and told in the end.

-- The step is taken by the reader of the stream, or brings it something.
def Action.attends (id : Nat) (source : Source) : Action → Bool
  | send run origin _ | read run origin => run = id && origin = source
  | announce run => run = id && source = .stdout
  | _ => false

inductive ReaderTurn (system after : System) (id : Nat) (source : Source) : Action → Prop
  | aside {action : Action} :
      action.attends id source = false →
      after.findReader id source = system.findReader id source →
      ReaderTurn system after id source action
  | opened :
      system.Unopened id source →
      after.findReader id source = some (System.newReader system.config id source) →
      ReaderTurn system after id source (.watch none)
  | sent {message : Message} {thread : ReaderThread} :
      system.findReader id source = some thread →
      after.findReader id source = some { thread with stream := thread.stream ++ [message] } →
      ReaderTurn system after id source (.send id source message)
  | readAgain {thread : ReaderThread} {rest : Stream} :
      system.findReader id source = some thread → thread.announcing = false →
      thread.stream.read (Stream.request system.config.chunkSize) = some (.again, rest) →
      after.queue = system.queue →
      after.findReader id source = some { thread with stream := rest } →
      ReaderTurn system after id source (.read id source)
  | readEnd {thread : ReaderThread} {rest : Stream} :
      system.findReader id source = some thread → thread.announcing = false →
      thread.stream.read (Stream.request system.config.chunkSize) = some (.ended, rest) →
      after.findReader id source = none →
      ReaderTurn system after id source (.read id source)
  | readChunk {thread : ReaderThread} {bytes : List UInt8} {rest : Stream} :
      system.findReader id source = some thread → thread.announcing = false →
      thread.stream.read (Stream.request system.config.chunkSize) = some (.chunk bytes, rest) →
      after.queue =
        system.queue.putAll (System.outputEvent source (thread.reader.accept bytes).output) →
      after.findReader id source = some
        { thread with
          stream := rest, reader := (thread.reader.accept bytes).reader
          announcing := (thread.reader.accept bytes).ready } →
      ReaderTurn system after id source (.read id source)
  | announced {thread : ReaderThread} :
      source = .stdout → system.findReader id source = some thread →
      thread.announcing = true →
      after.findReader id source = some { thread with announcing := false } →
      ReaderTurn system after id source (.announce id)

variable {config : Config} {actions : List Action} {steps : List Step} {system after : System}
  {action : Action} {id : Nat} {source : Source}

namespace Consistent

theorem readerTurn_watch (h : Consistent system) {refusal : Option String}
    (hstep : Transition system (.watch refusal) after) (id : Nat) (source : Source) :
    ReaderTurn system after id source (.watch refusal) := by
  cases hstep with
  | unwatched hlock => exact .aside rfl rfl
  | @watched owner other rest hlock =>
      by_cases hkey : System.hasBuffer system.config ∧ owner = id ∧ other = source
      · obtain ⟨hbuffer, rfl, rfl⟩ := hkey
        have hopen : system.Unopened owner other := .inr (.inr (by simp [System.isUnread, hlock]))
        refine .opened hopen ?_
        rw [System.findReader_watched, h.findReader_of_unopened hopen, Option.none_or,
          if_pos ⟨hbuffer, rfl, rfl⟩]
      · refine .aside rfl ?_
        rw [System.findReader_watched, if_neg hkey, Option.or_none]

theorem readerTurn_read {owner : Nat} {other : Source}
    (hstep : Transition system (.read owner other) after) (id : Nat) (source : Source) :
    ReaderTurn system after id source (.read owner other) := by
  by_cases hkey : owner = id ∧ other = source
  · obtain ⟨rfl, rfl⟩ := hkey
    cases hstep with
    | readAgain hfind hidle hread =>
        obtain ⟨-, hid, hsource⟩ := System.findReader_eq_some hfind
        exact .readAgain hfind hidle hread rfl (System.findReader_setReader_same hfind hid hsource)
    | readEnd hfind hidle hread =>
        exact .readEnd hfind hidle hread System.findReader_endReader_same
    | readChunk hfind hidle hread =>
        obtain ⟨-, hid, hsource⟩ := System.findReader_eq_some hfind
        exact .readChunk hfind hidle hread rfl (System.findReader_setReader_same hfind hid hsource)
  · have hattends : (Action.read owner other).attends id source = false := by
      simpa [Action.attends] using hkey
    cases hstep with
    | readAgain hfind =>
        obtain ⟨-, hid, hsource⟩ := System.findReader_eq_some hfind
        exact .aside hattends
          (System.findReader_setReader_other (by simpa only [hid, hsource] using hkey))
    | readEnd hfind => exact .aside hattends (System.findReader_endReader_other hkey)
    | readChunk hfind =>
        obtain ⟨-, hid, hsource⟩ := System.findReader_eq_some hfind
        exact .aside hattends
          (System.findReader_setReader_other (by simpa only [hid, hsource] using hkey))

theorem readerTurn_announce {owner : Nat} (hstep : Transition system (.announce owner) after)
    (id : Nat) (source : Source) : ReaderTurn system after id source (.announce owner) := by
  obtain ⟨thread, hfind, htold, hreaders⟩ : ∃ thread,
      system.findReader owner .stdout = some thread ∧ thread.announcing = true ∧
      after.readers = (system.setReader { thread with announcing := false }).readers := by
    cases hstep with
    | announcedInVain _ hfind htold => exact ⟨_, hfind, htold, rfl⟩
    | announced _ hfind htold => exact ⟨_, hfind, htold, rfl⟩
  obtain ⟨-, hid, hstdout⟩ := System.findReader_eq_some hfind
  by_cases hkey : owner = id ∧ source = .stdout
  · obtain ⟨rfl, rfl⟩ := hkey
    exact .announced rfl hfind htold
      ((System.findReader_congr hreaders).trans
        (System.findReader_setReader_same hfind hid hstdout))
  · refine .aside (by simpa [Action.attends] using hkey) ?_
    refine (System.findReader_congr hreaders).trans (System.findReader_setReader_other ?_)
    rintro ⟨howner, hsource⟩
    exact hkey ⟨hid.symm.trans howner, hsource.symm.trans hstdout⟩

theorem readerTurn (h : Consistent system) (hstep : Transition system action after) (id : Nat)
    (source : Source) : ReaderTurn system after id source action := by
  cases action with
  | watch refusal => exact h.readerTurn_watch hstep id source
  | read owner other => exact readerTurn_read hstep id source
  | announce owner => exact readerTurn_announce hstep id source
  | send owner other message =>
      cases hstep with
      | sent hfind =>
          obtain ⟨-, hid, hsource⟩ := System.findReader_eq_some hfind
          by_cases hkey : owner = id ∧ other = source
          · obtain ⟨rfl, rfl⟩ := hkey
            exact .sent hfind (System.findReader_setReader_same hfind hid hsource)
          · exact .aside (by simpa [Action.attends] using hkey)
              (System.findReader_setReader_other (by simpa only [hid, hsource] using hkey))
  | _ => exact .aside rfl (System.findReader_congr (hstep.readers_eq rfl))

-- Once a reader can have been created for a stream it cannot be undone.
theorem unopened_of_after (h : Consistent system) (hstep : Transition system action after)
    (hafter : after.Unopened id source) : system.Unopened id source := by
  cases h.turn hstep with
  | begun hbefore hstanding hlast =>
      rcases hafter with hlt | hspawning | hunread
      · exact .inl (by omega)
      · rw [hstanding] at hspawning
        cases hspawning
        exact .inl (Nat.lt_succ_self _)
      · cases hstep with
        | startIgnored => exact .inr (.inr hunread)
        | begun hlock =>
            have hfree : system.isUnread id source = false :=
              System.isUnread_of_free (by simp [hlock])
            exact absurd (hunread.symm.trans hfree) (by simp)
  | failed hbefore hstanding hlast =>
      cases hstep
      exact System.unopened_of_gone hstanding hlast rfl hafter
  | ended hbefore hstanding hlast =>
      cases hstep
      exact System.unopened_of_gone hstanding hlast rfl hafter
  | @attached owner handle hbefore hstanding hlast =>
      rcases hafter with hlt | hspawning | hunread
      · exact .inl (by omega)
      · rw [hstanding] at hspawning
        cases hspawning
      · cases hstep with
        | attached =>
            obtain ⟨unread, hlock, -⟩ := System.lock_of_isUnread hunread
            cases hlock
            exact .inr (.inl hbefore)
  | same hstanding hlast hkind =>
      rcases hafter with hlt | hspawning | hunread
      · exact .inl (by omega)
      · exact .inr (.inl (hstanding.symm.trans hspawning))
      · refine .inr (.inr ?_)
        cases hreading : action.isReading with
        | false => exact (hstep.isUnread_eq hkind hreading).symm.trans hunread
        | true =>
            cases hstep with
            | watched hlock | unwatched hlock =>
                obtain ⟨unread, hturn, hmem⟩ := System.lock_of_isUnread hunread
                cases hturn
                simp [System.isUnread, hlock, hmem]
            | sent | readAgain | readEnd | readChunk | announcedInVain | announced => exact hunread
            | _ => cases hreading

end Consistent

-- The bytes that one read brought.
def Step.piece? (step : Step) (id : Nat) (source : Source) : Option (List UInt8) :=
  match step.action with
  | .read run origin =>
      if run = id ∧ origin = source then
        (step.before.findReader id source).bind fun thread =>
          match thread.stream.read (Stream.request step.before.config.chunkSize) with
          | some (.chunk bytes, _) => some bytes
          | _ => none
      else none
  | _ => none

-- What was read from a stream of a run, read by read.
def pieces (id : Nat) (source : Source) (steps : List Step) : List (List UInt8) :=
  steps.filterMap fun step => step.piece? id source

def bytesRead (id : Nat) (source : Source) (steps : List Step) : List UInt8 :=
  (pieces id source steps).flatten

-- How often the supervisor was told that the marker was seen.
def announcements (id : Nat) (actions : List Action) : Nat :=
  actions.countP fun
    | .announce run => run = id
    | _ => false

-- The reader of standard output has seen the marker and tells of it next.
def System.isAnnouncing (system : System) (id : Nat) : Bool :=
  (system.findReader id .stdout).any ReaderThread.announcing

theorem pieces_concat (id : Nat) (source : Source) (steps : List Step) (step : Step) :
    pieces id source (steps ++ [step]) =
      pieces id source steps ++ (step.piece? id source).toList := by
  cases hpiece : step.piece? id source <;> simp [pieces, hpiece]

theorem announcements_concat (id : Nat) (actions : List Action) (action : Action) :
    announcements id (actions ++ [action]) = announcements id actions + announcements id [action] :=
  List.countP_append

-- A step that the reader has no part in.
theorem quiet_of_attends (hattends : action.attends id .stdout = false) :
    (Step.mk system action after).piece? id .stdout = none ∧ announcements id [action] = 0 := by
  cases action with
  | read run origin =>
      have hkey : ¬(run = id ∧ origin = .stdout) := by simpa [Action.attends] using hattends
      simp [Step.piece?, hkey, announcements]
  | announce run =>
      have hkey : run ≠ id := by simpa [Action.attends] using hattends
      simp [Step.piece?, hkey, announcements]
  | _ => exact ⟨rfl, rfl⟩

theorem piece_of_read {thread : ReaderThread} {reading : Reading} {rest : Stream}
    (hfind : system.findReader id source = some thread)
    (hread : thread.stream.read (Stream.request system.config.chunkSize) = some (reading, rest)) :
    (Step.mk system (.read id source) after).piece? id source =
      match reading with
      | .chunk bytes => some bytes
      | _ => none := by
  cases reading <;> simp [Step.piece?, hfind, hread]

-- What holds of the standard output of a run, from before its reader is created
-- until after it has ended: the reader is what the pieces made of it, and it
-- tells of the marker when and only when they have come to the end of its line.
structure Scanned (id : Nat) (actions : List Action) (steps : List Step) (system : System) :
    Prop where
  unopened : system.Unopened id .stdout →
    pieces id .stdout steps = [] ∧ announcements id actions = 0 ∧ forwarded id .stdout steps = []
  reading : ∀ thread, system.findReader id .stdout = some thread →
    thread.reader =
        (Reader.watching system.config.marker system.config.maxLine).after
          (pieces id .stdout steps) ∧
      forwarded id .stdout steps =
        (Decoder.empty.decode (bytesRead id .stdout steps)).1.toList
  once : announcements id actions + (system.isAnnouncing id).toNat ≤ 1
  due : announcements id actions + (system.isAnnouncing id).toNat = 1 ↔
    HasMarkedLine (Utf8.encode system.config.marker) (bytesRead id .stdout steps)
  -- No read comes between the one that completes the line and the telling.
  prompt : system.isAnnouncing id = true →
    ∃ earlier last, pieces id .stdout steps = earlier ++ [last] ∧
      ¬HasMarkedLine (Utf8.encode system.config.marker) earlier.flatten

theorem System.isAnnouncing_of_some {thread : ReaderThread}
    (h : system.findReader id .stdout = some thread) :
    system.isAnnouncing id = thread.announcing := by
  simp [isAnnouncing, h]

theorem System.thread_of_isAnnouncing (h : system.isAnnouncing id = true) :
    ∃ thread, system.findReader id .stdout = some thread ∧ thread.announcing = true := by
  simpa [isAnnouncing, Option.any_eq_true] using h

theorem System.isAnnouncing_of_none (h : system.findReader id .stdout = none) :
    system.isAnnouncing id = false := by
  simp [isAnnouncing, h]

namespace Scanned

theorem initial (config : Config) (id : Nat) : Scanned id [] [] (System.new config) where
  unopened := fun _ => ⟨rfl, rfl, rfl⟩
  reading := by simp [System.new, System.findReader]
  once := by simp [announcements, System.isAnnouncing, System.new, System.findReader]
  due := by
    simp [announcements, System.isAnnouncing, System.new, System.findReader, bytesRead, pieces,
      HasMarkedLine.not_nil]
  prompt := by simp [System.isAnnouncing, System.new, System.findReader]

-- A step in which the reader reads nothing and tells nothing.
theorem keep (h : Scanned id actions steps system) (hconfig : after.config = system.config)
    (hunopened : after.Unopened id .stdout → system.Unopened id .stdout)
    (hpiece : (Step.mk system action after).piece? id .stdout = none)
    (hannouncements : announcements id [action] = 0)
    (hforwarded : forwarded id .stdout [⟨system, action, after⟩] = [])
    (hannouncing : after.isAnnouncing id = system.isAnnouncing id)
    (hfind : ∀ thread, after.findReader id .stdout = some thread →
      ∃ old, system.findReader id .stdout = some old ∧ thread.reader = old.reader) :
    Scanned id (actions ++ [action]) (steps ++ [⟨system, action, after⟩]) after := by
  have hpieces : pieces id .stdout (steps ++ [⟨system, action, after⟩]) =
      pieces id .stdout steps := by
    rw [pieces_concat, hpiece, Option.toList_none, List.append_nil]
  have htold : announcements id (actions ++ [action]) = announcements id actions := by
    rw [announcements_concat, hannouncements, Nat.add_zero]
  have hforwarded : forwarded id .stdout (steps ++ [⟨system, action, after⟩]) =
      forwarded id .stdout steps := by
    rw [forwarded_concat, hforwarded, List.append_nil]
  refine ⟨?_, ?_, ?_, ?_, ?_⟩
  · rw [hpieces, htold, hforwarded]
    exact fun hafter => h.unopened (hunopened hafter)
  · intro thread hthread
    obtain ⟨old, hold, hreader⟩ := hfind thread hthread
    rw [bytesRead, hpieces, hforwarded, hreader, hconfig]
    exact h.reading old hold
  · rw [htold, hannouncing]
    exact h.once
  · rw [htold, hannouncing, hconfig, bytesRead, hpieces]
    exact h.due
  · rw [hannouncing, hconfig, hpieces]
    exact h.prompt

theorem opened (h : Scanned id actions steps system) (hconfig : after.config = system.config)
    (hunopened : system.Unopened id .stdout)
    (hforwarded : forwarded id .stdout [⟨system, .watch none, after⟩] = [])
    (hafter : after.findReader id .stdout = some (System.newReader system.config id .stdout)) :
    Scanned id (actions ++ [.watch none]) (steps ++ [⟨system, .watch none, after⟩]) after := by
  obtain ⟨hpieces, htold, htext⟩ := h.unopened hunopened
  have hpieces : pieces id .stdout (steps ++ [⟨system, .watch none, after⟩]) = [] := by
    rw [pieces_concat, hpieces]
    rfl
  have htold : announcements id (actions ++ [.watch none]) = 0 := by
    rw [announcements_concat, htold]
    rfl
  have htext : forwarded id .stdout (steps ++ [⟨system, .watch none, after⟩]) = [] := by
    rw [forwarded_concat, htext, hforwarded]
    rfl
  have hannouncing : after.isAnnouncing id = false := System.isAnnouncing_of_some hafter
  refine ⟨fun _ => ⟨hpieces, htold, htext⟩, ?_, ?_, ?_, ?_⟩
  · intro thread hthread
    obtain rfl := Option.some.inj (hafter.symm.trans hthread)
    rw [hpieces, htext, bytesRead, hpieces, hconfig]
    exact ⟨rfl, rfl⟩
  · simp [htold, hannouncing]
  · simp [htold, hannouncing, bytesRead, hpieces, HasMarkedLine.not_nil]
  · simp [hannouncing]

theorem readChunk (h : Scanned id actions steps system) (hconfig : after.config = system.config)
    {thread : ReaderThread} {bytes : List UInt8} {rest : Stream}
    (hfind : system.findReader id .stdout = some thread) (hidle : thread.announcing = false)
    (hread : thread.stream.read (Stream.request system.config.chunkSize) =
      some (.chunk bytes, rest))
    (hforwarded : forwarded id .stdout [⟨system, .read id .stdout, after⟩] =
      ((thread.reader.accept bytes).output.getD "").toList)
    (hunopened : ¬after.Unopened id .stdout)
    (hafter : after.findReader id .stdout = some
      { thread with
        stream := rest, reader := (thread.reader.accept bytes).reader
        announcing := (thread.reader.accept bytes).ready }) :
    Scanned id (actions ++ [.read id .stdout]) (steps ++ [⟨system, .read id .stdout, after⟩])
      after := by
  obtain ⟨hreader, htext⟩ := h.reading thread hfind
  have hpieces : pieces id .stdout (steps ++ [⟨system, .read id .stdout, after⟩]) =
      pieces id .stdout steps ++ [bytes] := by
    rw [pieces_concat, piece_of_read hfind hread]
    rfl
  have htold : announcements id (actions ++ [.read id .stdout]) = announcements id actions := by
    rw [announcements_concat]
    rfl
  have hready := Reader.ready_iff system.config.marker system.config.maxLine
    (pieces id .stdout steps) bytes
  rw [← hreader] at hready
  have hbefore : system.isAnnouncing id = false :=
    (System.isAnnouncing_of_some hfind).trans hidle
  have hannouncing : after.isAnnouncing id = (thread.reader.accept bytes).ready :=
    System.isAnnouncing_of_some hafter
  have honce := h.once
  have hdue := h.due
  rw [hbefore, Bool.toNat_false, Nat.add_zero] at honce hdue
  have hstays := fun hmarked : HasMarkedLine (Utf8.encode system.config.marker)
      (bytesRead id .stdout steps) => hmarked.append bytes
  rw [List.flatten_concat] at hready
  refine ⟨fun hopen => absurd hopen hunopened, ?_, ?_, ?_, ?_⟩
  · intro changed hchanged
    obtain rfl := Option.some.inj (hafter.symm.trans hchanged)
    rw [bytesRead, hpieces, List.flatten_concat, forwarded_concat, hforwarded, htext, hconfig,
      Reader.after_concat, ← hreader]
    refine ⟨rfl, ?_⟩
    -- What the piece settles is what decoding all pieces adds to decoding the earlier ones.
    rw [Reader.toList_accept, (Decoder.empty.decode_append _ bytes).1, hreader,
      Reader.after_decoder]
    rfl
  · rw [htold, hannouncing]
    cases hhit : (thread.reader.accept bytes).ready with
    | false => simpa using honce
    | true =>
        have hfresh := (hready.mp hhit).1
        have hnone : announcements id actions ≠ 1 := fun hone => hfresh (hdue.mp hone)
        simp only [Bool.toNat_true]
        omega
  · rw [htold, hannouncing, hconfig, bytesRead, hpieces, List.flatten_concat]
    cases hhit : (thread.reader.accept bytes).ready with
    | false =>
        rw [Bool.toNat_false, Nat.add_zero, hdue]
        refine ⟨hstays, fun hmarked => Classical.byContradiction fun hfresh => ?_⟩
        simp [hready.mpr ⟨hfresh, hmarked⟩] at hhit
    | true =>
        obtain ⟨hfresh, hmarked⟩ := hready.mp hhit
        have hnone : announcements id actions ≠ 1 := fun hone => hfresh (hdue.mp hone)
        simp only [Bool.toNat_true]
        exact ⟨fun _ => hmarked, fun _ => by omega⟩
  · intro htells
    rw [hannouncing] at htells
    rw [hconfig, hpieces]
    exact ⟨_, _, rfl, (hready.mp htells).1⟩

theorem announced (h : Scanned id actions steps system) (hconfig : after.config = system.config)
    {thread : ReaderThread} (hfind : system.findReader id .stdout = some thread)
    (htold : thread.announcing = true)
    (hforwarded : forwarded id .stdout [⟨system, .announce id, after⟩] = [])
    (hunopened : ¬after.Unopened id .stdout)
    (hafter : after.findReader id .stdout = some { thread with announcing := false }) :
    Scanned id (actions ++ [.announce id]) (steps ++ [⟨system, .announce id, after⟩]) after := by
  have hpieces : pieces id .stdout (steps ++ [⟨system, .announce id, after⟩]) =
      pieces id .stdout steps := by
    rw [pieces_concat]
    exact List.append_nil _
  have hcount : announcements id (actions ++ [.announce id]) = announcements id actions + 1 := by
    rw [announcements_concat]
    simp [announcements]
  have hbefore : system.isAnnouncing id = true := (System.isAnnouncing_of_some hfind).trans htold
  have hannouncing : after.isAnnouncing id = false := System.isAnnouncing_of_some hafter
  have honce := h.once
  have hdue := h.due
  rw [hbefore, Bool.toNat_true] at honce hdue
  refine ⟨fun hopen => absurd hopen hunopened, ?_, ?_, ?_, ?_⟩
  · intro changed hchanged
    obtain rfl := Option.some.inj (hafter.symm.trans hchanged)
    rw [bytesRead, hpieces, forwarded_concat, hforwarded, List.append_nil, hconfig]
    exact h.reading thread hfind
  · rw [hcount, hannouncing]
    simpa using honce
  · rw [hcount, hannouncing, hconfig, bytesRead, hpieces]
    exact hdue
  · simp [hannouncing]

-- At the end of its stream the reader has nothing left to tell.
theorem readEnd (h : Scanned id actions steps system) (hconfig : after.config = system.config)
    {thread : ReaderThread} {rest : Stream}
    (hfind : system.findReader id .stdout = some thread) (hidle : thread.announcing = false)
    (hread : thread.stream.read (Stream.request system.config.chunkSize) = some (.ended, rest))
    (hunopened : ¬after.Unopened id .stdout) (hafter : after.findReader id .stdout = none) :
    Scanned id (actions ++ [.read id .stdout]) (steps ++ [⟨system, .read id .stdout, after⟩])
      after := by
  have hpieces : pieces id .stdout (steps ++ [⟨system, .read id .stdout, after⟩]) =
      pieces id .stdout steps := by
    rw [pieces_concat, piece_of_read hfind hread]
    exact List.append_nil _
  have htold : announcements id (actions ++ [.read id .stdout]) = announcements id actions := by
    rw [announcements_concat]
    rfl
  have hbefore : system.isAnnouncing id = false :=
    (System.isAnnouncing_of_some hfind).trans hidle
  have hannouncing : after.isAnnouncing id = false := System.isAnnouncing_of_none hafter
  have honce := h.once
  have hdue := h.due
  rw [hbefore] at honce hdue
  refine ⟨fun hopen => absurd hopen hunopened, by simp [hafter], ?_, ?_, by simp [hannouncing]⟩
  · rw [htold, hannouncing]
    exact honce
  · rw [htold, hannouncing, hconfig, bytesRead, hpieces]
    exact hdue

theorem transition (h : Scanned id actions steps system) (hconsistent : Consistent system)
    (hstep : Transition system action after) :
    Scanned id (actions ++ [action]) (steps ++ [⟨system, action, after⟩]) after := by
  have hconfig := hstep.config_eq
  have hopened : after.Unopened id .stdout → system.Unopened id .stdout :=
    hconsistent.unopened_of_after hstep
  have hreads : ∀ {thread}, after.findReader id .stdout = some thread →
      ¬after.Unopened id .stdout := fun hsome hopen => by
    simp [(hconsistent.transition hstep).findReader_of_unopened hopen] at hsome
  have hquiet : (Step.mk system action after).origin ≠ .stdout →
      forwarded id .stdout [⟨system, action, after⟩] = [] := fun horigin =>
    forwarded_of_other hconsistent hstep (.inl horigin)
  have hqueue : ∀ {thread}, system.findReader id .stdout = some thread →
      system.queue.ended = false := by
    intro thread hfind
    obtain ⟨run, handle, hrun, -⟩ := hconsistent.reader_owner (System.findReader_eq_some hfind).1
    exact hconsistent.queue_open (by simp [hrun])
  cases hconsistent.readerTurn hstep id .stdout with
  | aside hattends hfind =>
      obtain ⟨hpiece, hnone⟩ : (Step.mk system action after).piece? id .stdout = none ∧
        announcements id [action] = 0 := quiet_of_attends hattends
      refine h.keep hconfig hopened hpiece hnone (forwarded_of_other hconsistent hstep ?_) ?_ ?_
      · cases action with
        | read run origin =>
            have hkey : run = id → origin ≠ .stdout := by simpa [Action.attends] using hattends
            by_cases hrun : run = id
            · exact .inl (hkey hrun)
            · exact .inr (by simpa [Step.run] using hrun)
        | _ => exact .inl (by simp [Step.origin])
      · simp only [System.isAnnouncing, hfind]
      · exact fun thread hthread => ⟨thread, hfind.symm.trans hthread, rfl⟩
  | opened hunopened hafter =>
      exact h.opened hconfig hunopened (hquiet (by simp [Step.origin])) hafter
  | sent hfind hafter =>
      refine h.keep hconfig hopened rfl rfl (hquiet (by simp [Step.origin])) ?_ ?_
      · rw [System.isAnnouncing_of_some hafter, System.isAnnouncing_of_some hfind]
      · intro thread hthread
        obtain rfl := Option.some.inj (hafter.symm.trans hthread)
        exact ⟨_, hfind, rfl⟩
  | readAgain hfind hidle hread hsame hafter =>
      have hsilent : after.queue = system.queue.putAll (System.outputEvent .stdout none) := hsame
      refine h.keep hconfig hopened (piece_of_read hfind hread) rfl
        (forwarded_read (hqueue hfind) hsilent) ?_ ?_
      · rw [System.isAnnouncing_of_some hafter, System.isAnnouncing_of_some hfind]
      · intro thread hthread
        obtain rfl := Option.some.inj (hafter.symm.trans hthread)
        exact ⟨_, hfind, rfl⟩
  | readEnd hfind hidle hread hafter =>
      refine h.readEnd hconfig hfind hidle hread (fun hopen => ?_) hafter
      simp [hconsistent.findReader_of_unopened (hopened hopen)] at hfind
  | readChunk hfind hidle hread hput hafter =>
      exact h.readChunk hconfig hfind hidle hread (forwarded_read (hqueue hfind) hput)
        (hreads hafter) hafter
  | announced hsource hfind htold hafter =>
      exact h.announced hconfig hfind htold (hquiet (by simp [Step.origin])) (hreads hafter) hafter

end Scanned

theorem Execution.scanned (h : Execution config actions system) (id : Nat) :
    Scanned id actions (history config actions) system := by
  induction h with
  | initial => exact .initial config id
  | step hbefore hact ih =>
      rw [hbefore.history_concat hact]
      exact ih.transition hbefore.consistent (System.transition_of_act hact)

end Overseer.Supervisor
