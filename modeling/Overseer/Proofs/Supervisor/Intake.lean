import Overseer.Proofs.Supervisor.Attending

namespace Overseer.Supervisor

open Overseer.Output

-- What a reader has read, byte for byte, is what its stream has brought, as far as
-- it has come; and when it has ended it has read everything.

variable {config : Config} {actions : List Action} {steps : List Step} {system after : System}
  {action : Action} {id : Nat} {source : Source}

theorem bytesRead_concat (id : Nat) (source : Source) (steps : List Step) (step : Step) :
    bytesRead id source (steps ++ [step]) =
      bytesRead id source steps ++ (step.piece? id source).getD [] := by
  rw [bytesRead, pieces_concat, List.flatten_append]
  cases step.piece? id source <;> simp [bytesRead]

-- A step that does not concern a stream neither reads from it nor brings it
-- anything.
theorem still_of_aside (hattends : action.attends id source = false) :
    (Step.mk system action after).piece? id source = none ∧ messagesTo id source [action] = [] := by
  cases action with
  | read run origin =>
      have hkey : ¬(run = id ∧ origin = source) := by simpa [Action.attends] using hattends
      simp [Step.piece?, hkey, messagesTo]
  | send run origin message =>
      have hkey : ¬(run = id ∧ origin = source) := by simpa [Action.attends] using hattends
      exact ⟨rfl, messagesTo_of_other hkey⟩
  | _ => exact ⟨rfl, rfl⟩

-- The messages for a stream and the bytes that were read from it.
structure Taken (id : Nat) (source : Source) (actions : List Action) (steps : List Step)
    (system : System) : Prop where
  unopened : system.Unopened id source →
    messagesTo id source actions = [] ∧ bytesRead id source steps = []
  reading : ∀ thread, system.findReader id source = some thread → ∀ later,
    Stream.content (messagesTo id source actions ++ later) =
      bytesRead id source steps ++ Stream.content (thread.stream ++ later)
  settled : system.findReader id source = none →
    Stream.content (messagesTo id source actions) = bytesRead id source steps

namespace Taken

theorem initial (config : Config) (id : Nat) (source : Source) :
    Taken id source [] [] (System.new config) where
  unopened := fun _ => ⟨rfl, rfl⟩
  reading := by simp [System.new, System.findReader]
  settled := fun _ => rfl

-- A step with which the stream brings nothing new and nothing is read.
theorem keep (h : Taken id source actions steps system)
    (hpiece : (Step.mk system action after).piece? id source = none)
    (hmessages : messagesTo id source [action] = [])
    (hunopened : after.Unopened id source → system.Unopened id source)
    (hfind : ∀ thread, after.findReader id source = some thread →
      ∃ old, system.findReader id source = some old ∧ ∀ later,
        Stream.content (old.stream ++ later) = Stream.content (thread.stream ++ later))
    (hgone : after.findReader id source = none → system.findReader id source = none) :
    Taken id source (actions ++ [action]) (steps ++ [⟨system, action, after⟩]) after := by
  have hmessages : messagesTo id source (actions ++ [action]) = messagesTo id source actions := by
    rw [messagesTo_concat, hmessages, List.append_nil]
  have hbytes : bytesRead id source (steps ++ [⟨system, action, after⟩]) =
      bytesRead id source steps := by
    rw [bytesRead_concat, hpiece]
    exact List.append_nil _
  refine ⟨?_, ?_, ?_⟩ <;> rw [hmessages, hbytes]
  · exact fun hafter => h.unopened (hunopened hafter)
  · intro thread hthread later
    obtain ⟨old, hold, hstream⟩ := hfind thread hthread
    rw [h.reading old hold later, hstream]
  · exact fun hafter => h.settled (hgone hafter)

theorem opened (h : Taken id source actions steps system) (hunopened : system.Unopened id source)
    (hafter : after.findReader id source = some (System.newReader system.config id source)) :
    Taken id source (actions ++ [.watch none]) (steps ++ [⟨system, .watch none, after⟩]) after := by
  obtain ⟨hmessages, hbytes⟩ := h.unopened hunopened
  have hmessages : messagesTo id source (actions ++ [.watch none]) = [] := by
    rw [messagesTo_concat, hmessages]
    rfl
  have hbytes : bytesRead id source (steps ++ [⟨system, .watch none, after⟩]) = [] := by
    rw [bytesRead_concat, hbytes]
    rfl
  refine ⟨fun _ => ⟨hmessages, hbytes⟩, ?_, fun hnone => by simp [hafter] at hnone⟩
  intro thread hthread later
  obtain rfl := Option.some.inj (hafter.symm.trans hthread)
  rw [hmessages, hbytes]
  rfl

theorem sent (h : Taken id source actions steps system) {message : Message} {thread : ReaderThread}
    (hclosed : ¬after.Unopened id source) (hfind : system.findReader id source = some thread)
    (hafter : after.findReader id source =
      some { thread with stream := thread.stream ++ [message] }) :
    Taken id source (actions ++ [.send id source message])
      (steps ++ [⟨system, .send id source message, after⟩]) after := by
  have hmessages : messagesTo id source (actions ++ [.send id source message]) =
      messagesTo id source actions ++ [message] := by
    rw [messagesTo_concat]
    simp [messagesTo]
  have hbytes : bytesRead id source (steps ++ [⟨system, .send id source message, after⟩]) =
      bytesRead id source steps := by
    rw [bytesRead_concat]
    exact List.append_nil _
  refine ⟨fun hopen => absurd hopen hclosed, ?_, fun hnone => by simp [hafter] at hnone⟩
  intro changed hchanged later
  obtain rfl := Option.some.inj (hafter.symm.trans hchanged)
  rw [hmessages, hbytes, List.append_assoc, List.append_assoc]
  exact h.reading thread hfind ([message] ++ later)

theorem readEnd (h : Taken id source actions steps system) {thread : ReaderThread} {rest : Stream}
    (hunopened : after.Unopened id source → system.Unopened id source)
    (hfind : system.findReader id source = some thread)
    (hread : thread.stream.read (Stream.request system.config.chunkSize) = some (.ended, rest))
    (hafter : after.findReader id source = none) :
    Taken id source (actions ++ [.read id source]) (steps ++ [⟨system, .read id source, after⟩])
      after := by
  have hmessages : messagesTo id source (actions ++ [.read id source]) =
      messagesTo id source actions := by
    rw [messagesTo_concat]
    exact List.append_nil _
  have hbytes : bytesRead id source (steps ++ [⟨system, .read id source, after⟩]) =
      bytesRead id source steps := by
    rw [bytesRead_concat, piece_of_read hfind hread]
    exact List.append_nil _
  refine ⟨?_, fun changed hchanged => by simp [hafter] at hchanged, fun _ => ?_⟩
  · rw [hmessages, hbytes]
    exact fun hopen => h.unopened (hunopened hopen)
  · have hall := h.reading thread hfind []
    rw [(Stream.content_of_ended hread []).1, List.append_nil, List.append_nil] at hall
    rw [hmessages, hbytes, hall]

theorem readChunk (h : Taken id source actions steps system) {thread changed : ReaderThread}
    {bytes : List UInt8} {rest : Stream} (hclosed : ¬after.Unopened id source)
    (hfind : system.findReader id source = some thread)
    (hread : thread.stream.read (Stream.request system.config.chunkSize) =
      some (.chunk bytes, rest))
    (hafter : after.findReader id source = some changed) (hrest : changed.stream = rest) :
    Taken id source (actions ++ [.read id source]) (steps ++ [⟨system, .read id source, after⟩])
      after := by
  have hmessages : messagesTo id source (actions ++ [.read id source]) =
      messagesTo id source actions := by
    rw [messagesTo_concat]
    exact List.append_nil _
  have hbytes : bytesRead id source (steps ++ [⟨system, .read id source, after⟩]) =
      bytesRead id source steps ++ bytes := by
    rw [bytesRead_concat, piece_of_read hfind hread]
    rfl
  refine ⟨fun hopen => absurd hopen hclosed, ?_, fun hnone => by simp [hafter] at hnone⟩
  intro thread' hthread' later
  obtain rfl := Option.some.inj (hafter.symm.trans hthread')
  rw [hmessages, hbytes, hrest, List.append_assoc, ← (Stream.content_of_chunk hread later).1]
  exact h.reading thread hfind later

theorem transition (h : Taken id source actions steps system) (hconsistent : Consistent system)
    (hstep : Transition system action after) :
    Taken id source (actions ++ [action]) (steps ++ [⟨system, action, after⟩]) after := by
  have hopened : after.Unopened id source → system.Unopened id source :=
    hconsistent.unopened_of_after hstep
  have hclosed : ∀ {thread}, after.findReader id source = some thread →
      ¬after.Unopened id source := fun hsome hopen => by
    simp [(hconsistent.transition hstep).findReader_of_unopened hopen] at hsome
  cases hconsistent.readerTurn hstep id source with
  | aside hattends hfind =>
      obtain ⟨hpiece, hmessages⟩ : (Step.mk system action after).piece? id source = none ∧
        messagesTo id source [action] = [] := still_of_aside hattends
      exact h.keep hpiece hmessages hopened
        (fun thread hthread => ⟨thread, hfind.symm.trans hthread, fun _ => rfl⟩)
        (fun hnone => hfind.symm.trans hnone)
  | opened hunopened hafter => exact h.opened hunopened hafter
  | sent hfind hafter => exact h.sent (hclosed hafter) hfind hafter
  | readAgain hfind hidle hread hsame hafter =>
      refine h.keep (piece_of_read hfind hread) rfl hopened (fun changed hchanged => ?_)
        (fun hnone => by simp [hafter] at hnone)
      obtain rfl := Option.some.inj (hafter.symm.trans hchanged)
      exact ⟨_, hfind, fun later => (Stream.content_of_again hread later).1⟩
  | readEnd hfind hidle hread hafter => exact h.readEnd hopened hfind hread hafter
  | readChunk hfind hidle hread hput hafter =>
      exact h.readChunk (hclosed hafter) hfind hread hafter rfl
  | announced hsource hfind htold hafter =>
      refine h.keep rfl rfl hopened (fun changed hchanged => ?_)
        (fun hnone => by simp [hafter] at hnone)
      obtain rfl := Option.some.inj (hafter.symm.trans hchanged)
      exact ⟨_, hfind, fun _ => rfl⟩

end Taken

theorem Execution.taken (h : Execution config actions system) (id : Nat) (source : Source) :
    Taken id source actions (history config actions) system := by
  induction h with
  | initial => exact .initial config id source
  | step hbefore hact ih =>
      rw [hbefore.history_concat hact]
      exact ih.transition hbefore.consistent (System.transition_of_act hact)

end Overseer.Supervisor
