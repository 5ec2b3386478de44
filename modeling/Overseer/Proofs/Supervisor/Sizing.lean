import Overseer.Proofs.Supervisor.Agreement
import Overseer.Proofs.Supervisor.Intake
import Overseer.Proofs.Supervisor.Integrity
import Overseer.Proofs.Supervisor.Quiescence
import Overseer.Proofs.Supervisor.Readiness

namespace Overseer.Supervisor

open Overseer.Output Overseer.Text

-- How many bytes a read asks for. Every size that there is a buffer for gives
-- the same text and the same news of the marker; with a size that there is none
-- for, nobody reads anything.

variable {config : Config} {actions : List Action} {system : System} {environment : Environment}
  {id : Nat} {source : Source}

-- The environment has a number for the size of a read, and no buffer is that long.
def AsksTooMuch (environment : Environment) : Prop :=
  ∃ size, (environment.text? "LAUNCHER_READ_CHUNK").bind unsigned = some size ∧
    Stream.largestRequest < size

theorem chunkSize_ofEnvironment_pos (environment : Environment) :
    0 < (Config.ofEnvironment environment).chunkSize := by
  have hdefault : 0 < defaultChunkSize := by decide
  unfold Config.ofEnvironment
  cases (environment.text? "LAUNCHER_READ_CHUNK").bind unsigned with
  | none => exact hdefault
  | some size =>
      by_cases hzero : size = 0
      · simpa [hzero] using hdefault
      · simpa [hzero] using Nat.pos_of_ne_zero hzero

theorem asksTooMuch_iff :
    AsksTooMuch environment ↔
      Stream.largestRequest < (Config.ofEnvironment environment).chunkSize := by
  have hdefault : ¬Stream.largestRequest < defaultChunkSize := by decide
  unfold AsksTooMuch Config.ofEnvironment
  cases (environment.text? "LAUNCHER_READ_CHUNK").bind unsigned with
  | none => simpa using hdefault
  | some size =>
      by_cases hzero : size = 0
      · simp [hzero, hdefault]
      · simp [hzero]

theorem System.hasBuffer_iff :
    System.hasBuffer config = true ↔ config.chunkSize ≤ Stream.largestRequest := by
  refine ⟨fun hbuffer => ?_, System.hasBuffer_of_le⟩
  have hrequest : Stream.request config.chunkSize ≤ Stream.largestRequest := by
    simpa [System.hasBuffer] using hbuffer
  exact Nat.le_trans (Nat.le_max_left _ _) hrequest

-- Nobody reads a run that is over, or is going to.
theorem Consistent.unread_of_over (h : Consistent system)
    (hover : system.core.isAttached id = false) (source : Source) :
    system.findReader id source = none ∧ system.isUnread id source = false := by
  have habsent : ∀ run handle, system.core.run = some run → run.handle = some handle →
      run.id ≠ id := by
    intro run handle hrun hhandle hid
    simp [Core.isAttached_iff.mpr ⟨run, hrun, hid, handle, hhandle⟩] at hover
  constructor
  · cases hfind : system.findReader id source with
    | none => rfl
    | some thread =>
        obtain ⟨hmem, hid, -⟩ := System.findReader_eq_some hfind
        obtain ⟨run, handle, hrun, hhandle, hattached⟩ := h.reader_owner hmem
        have howner := (hattached.fits thread hmem).owner.symm.trans hid
        exact absurd howner (habsent run handle hrun hhandle)
  · cases hunread : system.isUnread id source with
    | false => rfl
    | true =>
        obtain ⟨unread, hlock, -⟩ := System.lock_of_isUnread hunread
        obtain ⟨run, handle, hrun, hhandle, hid, -⟩ := h.attaching hlock
        exact absurd hid (habsent run handle hrun hhandle)

-- With a buffer every stream whose turn comes gets a reader.
theorem Execution.opens (h : Execution config actions system)
    (hsize : config.chunkSize ≤ Stream.largestRequest) {rest : List Source}
    (hlock : system.lock = some (.attaching id (source :: rest))) :
    ∃ after, system.act (.watch none) = .moved after ∧
      after.findReader id source = some (System.newReader config id source) := by
  have hturn : system.Unopened id source := .inr (.inr (by simp [System.isUnread, hlock]))
  have hbuffer : System.hasBuffer system.config = true := by
    rw [h.config_eq]
    exact System.hasBuffer_of_le hsize
  refine ⟨{ system with
    lock := some (.attaching id rest)
    core := system.core.addReader source
    readers :=
      if System.hasBuffer system.config then
        system.readers ++ [System.newReader system.config id source]
      else system.readers }, by simp only [System.act, System.onWatch, hlock], ?_⟩
  rw [System.findReader_watched, h.consistent.findReader_of_unopened hturn, Option.none_or,
    if_pos ⟨hbuffer, rfl, rfl⟩, h.config_eq]

-- An execution after which nobody reads the stream any more, if anybody did.
def Spent (config : Config) (actions : List Action) (id : Nat) (source : Source) : Prop :=
  ∃ system, Execution config actions system ∧ system.findReader id source = none

namespace Spent

-- The size of the reads has no part in what was forwarded by then,
theorem join_outputs (h : Spent config actions id source) (hsource : source ≠ .supervisor) :
    String.join (outputs id source (notices (history config actions))) =
      Utf8.text (Stream.content (messagesTo id source actions)) := by
  obtain ⟨system, hexecution, hgone⟩ := h
  have htext := (hexecution.conveyed hsource id).settled hgone
  rw [← String.toList_inj, String.toList_join, Utf8.text, String.toList_ofList, htext]
  rfl

-- nor in whether the marker was seen.
theorem announced (h : Spent config actions id .stdout) :
    announcements id actions ≤ 1 ∧
      (announcements id actions = 1 ↔
        HasMarkedLine (Utf8.encode config.marker)
          (Stream.content (messagesTo id .stdout actions))) := by
  obtain ⟨system, hexecution, hgone⟩ := h
  have hscanned := hexecution.scanned id
  have honce := hscanned.once
  have hdue := hscanned.due
  rw [System.isAnnouncing_of_none hgone, Bool.toNat_false, Nat.add_zero] at honce hdue
  rw [hexecution.config_eq, ← (hexecution.taken id .stdout).settled hgone] at hdue
  exact ⟨honce, hdue⟩

end Spent

-- A supervisor whose readers are of use.
structure Legible (config : Config) : Prop where
  -- The buffer has a length, and can be had.
  size : 0 < config.chunkSize ∧ config.chunkSize ≤ Stream.largestRequest
  -- Every stream whose turn comes gets its reader, unless the thread is refused,
  opens : ∀ {actions system id source rest}, Execution config actions system →
    system.lock = some (.attaching id (source :: rest)) →
    ∃ after, system.act (.watch none) = .moved after ∧
      after.findReader id source = some (System.newReader config id source)
  -- and the reader reads on while it has something to read and nothing to tell.
  reads : ∀ {actions system id source thread}, Execution config actions system →
    system.findReader id source = some thread → thread.announcing = false →
    thread.stream ≠ [] → ∃ after, system.act (.read id source) = .moved after
  -- A run is not over before all its readers are gone,
  finished : ∀ {actions system id}, Execution config actions system →
    system.core.isAttached id = false → ∀ source, Spent config actions id source
  -- and by then they have read whatever its process wrote.
  complete : ∀ {actions system id handle source written}, Execution config actions system →
    system.core.isAttached id = false → .attach id handle ∈ actions →
    source ∈ handle.streams → (∀ reason, .watch (some reason) ∉ actions) →
    messagesTo id source actions <+: written →
    Stream.ends (messagesTo id source actions) = true ∧
      Stream.content (messagesTo id source actions) = Stream.content written
  -- Wherever the same bytes came, reads of the usual size make the same text of
  -- them,
  text : ∀ {actions others id twin source}, Spent config actions id source →
    Spent (config.withChunkSize defaultChunkSize) others twin source → source ≠ .supervisor →
    Stream.content (messagesTo id source actions) =
      Stream.content (messagesTo twin source others) →
    String.join (outputs id source (notices (history config actions))) =
      String.join (outputs twin source
        (notices (history (config.withChunkSize defaultChunkSize) others)))
  -- and find the marker in the same.
  ready : ∀ {actions others id twin}, Spent config actions id .stdout →
    Spent (config.withChunkSize defaultChunkSize) others twin .stdout →
    Stream.content (messagesTo id .stdout actions) =
      Stream.content (messagesTo twin .stdout others) →
    announcements id actions = announcements twin others

theorem legible_of_le (hpos : 0 < config.chunkSize)
    (hsize : config.chunkSize ≤ Stream.largestRequest) : Legible config where
  size := ⟨hpos, hsize⟩
  opens := fun h hlock => h.opens hsize hlock
  reads := by
    intro actions system id source thread h hfind hidle hsome
    obtain ⟨hmem, rfl, rfl⟩ := System.findReader_eq_some hfind
    exact h.consistent.read_moves hmem hidle hsome
  finished := fun h hover source => ⟨_, h, (h.consistent.unread_of_over hover source).1⟩
  complete := by
    rintro actions system id handle source _ h hover hattach hprovided hread ⟨later, rfl⟩
    have hsource : source ≠ .supervisor := fun heq =>
      handle.supervisor_not_mem_streams (heq ▸ hprovided)
    have hbuffer : System.hasBuffer system.config = true := by
      rw [h.config_eq]
      exact System.hasBuffer_of_le hsize
    obtain ⟨hgone, hunread⟩ := h.consistent.unread_of_over hover source
    have hends : Stream.ends (messagesTo id source actions) = true :=
      (h.conveyed hsource id).ended hread hbuffer handle hattach hprovided hunread hgone
    exact ⟨hends, (Stream.content_append_of_ends hends later).symm⟩
  text := by
    intro actions others id twin source h husual hsource hsame
    rw [h.join_outputs hsource, husual.join_outputs hsource, hsame]
  ready := by
    intro actions others id twin h husual hsame
    obtain ⟨honce, hdue⟩ := h.announced
    obtain ⟨honce', hdue'⟩ := husual.announced
    rw [hsame] at hdue
    have hiff : announcements id actions = 1 ↔ announcements twin others = 1 :=
      hdue.trans hdue'.symm
    omega

-- A supervisor that reads nothing.
structure Mute (config : Config) : Prop where
  size : Stream.largestRequest < config.chunkSize
  -- No process ever has a reader, and nothing that it writes is taken.
  readers : ∀ {actions system}, Execution config actions system → system.readers = []
  unread : ∀ {actions system}, Execution config actions system → ∀ id source message,
    system.act (.send id source message) = .blocked
  text : ∀ {actions system}, Execution config actions system → ∀ id source,
    source ≠ .supervisor → outputs id source (notices (history config actions)) = []
  ready : ∀ {actions system}, Execution config actions system → ∀ id,
    announcements id actions = 0
  -- No run gets past its start before it is stopped or over.
  never : ∀ {actions system}, Execution config actions system →
    .stateChanged .running ∉ system.queue.events

-- Without a buffer the list of readers stays empty, whatever is done.
theorem Execution.readers_nil (h : Execution config actions system)
    (hbuffer : System.hasBuffer config = false) : system.readers = [] := by
  induction h with
  | initial => rfl
  | @step actions before after action hbefore hact ih =>
      have hmissing : System.hasBuffer before.config = false := by rwa [hbefore.config_eq]
      have hnone : ∀ id source, before.findReader id source = none := by
        simp [System.findReader, ih]
      cases hreading : action.isReading with
      | false => exact ((System.transition_of_act hact).readers_eq hreading).trans ih
      | true =>
          cases System.transition_of_act hact with
          | watched => simp [hmissing, ih]
          | unwatched => exact ih
          | sent hfind | readAgain hfind | readChunk hfind | readEnd hfind =>
              simp [hnone] at hfind
          | announcedInVain hlock hfind | announced hlock hfind => simp [hnone] at hfind
          | _ => cases hreading

-- Nothing is done that needs a reader.
theorem Execution.unattended (h : Execution config actions system)
    (hbuffer : System.hasBuffer config = false) :
    ∀ action ∈ actions, ∀ id source, action.attends id source = false := by
  induction h with
  | initial => simp
  | @step actions before after action hbefore hact ih =>
      have hnone : ∀ id source, before.findReader id source = none := by
        simp [System.findReader, hbefore.readers_nil hbuffer]
      intro taken htaken id source
      rcases List.mem_append.mp htaken with htaken | htaken
      · exact ih taken htaken id source
      · rw [List.mem_singleton.mp htaken]
        cases System.transition_of_act hact with
        | sent hfind | readAgain hfind | readChunk hfind | readEnd hfind => simp [hnone] at hfind
        | announcedInVain hlock hfind | announced hlock hfind => simp [hnone] at hfind
        | _ => rfl

theorem messagesTo_of_unattended
    (h : ∀ action ∈ actions, action.attends id source = false) :
    messagesTo id source actions = [] := by
  refine List.filterMap_eq_nil_iff.mpr fun action haction => ?_
  have hattends := h action haction
  cases action with
  | send run origin message =>
      have hkey : ¬(run = id ∧ origin = source) := by simpa [Action.attends] using hattends
      simp [hkey]
  | _ => rfl

theorem announcements_of_unattended
    (h : ∀ action ∈ actions, action.attends id .stdout = false) : announcements id actions = 0 := by
  refine List.countP_eq_zero.mpr fun action haction => ?_
  have hattends := h action haction
  cases action with
  | announce run => simpa [Action.attends] using hattends
  | _ => simp

-- Then nothing is forwarded from a process.
theorem Execution.outputs_of_unattended (h : Execution config actions system)
    (hsource : source ≠ .supervisor)
    (hunattended : ∀ action ∈ actions, action.attends id source = false) :
    outputs id source (notices (history config actions)) = [] := by
  induction h with
  | initial => rfl
  | @step actions before after action hbefore hact ih =>
      have hbeforehand := ih fun earlier hearlier =>
        hunattended earlier (List.mem_append_left _ hearlier)
      have hattends := hunattended action (List.mem_append_right _ (List.mem_singleton.mpr rfl))
      rw [hbefore.history_concat hact, notices_concat, outputs_concat, hbeforehand, List.nil_append]
      refine outputs_of_other hbefore.consistent (System.transition_of_act hact) ?_
      cases action with
      | read run origin =>
          have hkey : run = id → origin ≠ source := by simpa [Action.attends] using hattends
          by_cases hrun : run = id
          · exact .inl (hkey hrun)
          · exact .inr (by simpa [Step.run] using hrun)
      | _ => exact .inl hsource.symm

-- Only what was read makes a run ready.
theorem Execution.not_running_of_unattended (h : Execution config actions system)
    (hgone : ∀ id, system.findReader id .stdout = none)
    (hunattended : ∀ action ∈ actions, ∀ id, action.attends id .stdout = false) :
    .stateChanged .running ∉ system.queue.events := by
  intro hmem
  obtain ⟨id, hnotice⟩ := h.run_of_event hmem
  have hmarked : HasMarkedLine (Utf8.encode config.marker)
      (bytesRead id .stdout (history config actions)) := h.marker_read_of_running hnotice
  rw [← (h.taken id .stdout).settled (hgone id),
    messagesTo_of_unattended fun action haction => hunattended action haction id] at hmarked
  exact HasMarkedLine.not_nil hmarked

theorem mute_of_lt (hsize : Stream.largestRequest < config.chunkSize) : Mute config := by
  have hbuffer : System.hasBuffer config = false := by
    rw [← Bool.not_eq_true, System.hasBuffer_iff]
    exact Nat.not_le.mpr hsize
  have hgone : ∀ {actions system}, Execution config actions system → ∀ id source,
      system.findReader id source = none := fun h _ _ => by
    simp [System.findReader, h.readers_nil hbuffer]
  refine ⟨hsize, fun h => h.readers_nil hbuffer, ?_, ?_, ?_, ?_⟩
  · intro actions system h id source message
    simp only [System.act, System.onSend, hgone h]
  · intro actions system h id source hsource
    exact h.outputs_of_unattended hsource fun action haction =>
      h.unattended hbuffer action haction id source
  · intro actions system h id
    exact announcements_of_unattended fun action haction =>
      h.unattended hbuffer action haction id .stdout
  · intro actions system h
    exact h.not_running_of_unattended (fun id => hgone h id .stdout) fun action haction id =>
      h.unattended hbuffer action haction id .stdout

-- Whether the readers of a supervisor that is configured by its environment are
-- of use is decided by the size of the read that is asked for, and by nothing
-- else.
theorem readers_are_usable_iff (environment : Environment) :
    (Legible (Config.ofEnvironment environment) ↔ ¬AsksTooMuch environment) ∧
      (Mute (Config.ofEnvironment environment) ↔ AsksTooMuch environment) := by
  rw [asksTooMuch_iff]
  refine ⟨⟨fun hlegible => Nat.not_lt.mpr hlegible.size.2, fun hfits => ?_⟩,
    ⟨fun hmute => hmute.size, mute_of_lt⟩⟩
  exact legible_of_le (chunkSize_ofEnvironment_pos environment) (Nat.not_lt.mp hfits)

-- A request for one byte more than the longest buffer has.
def oversized : Environment := ⟨[("LAUNCHER_READ_CHUNK", Utf8.encode "9223372036854775808")]⟩

theorem ofEnvironment_oversized :
    Config.ofEnvironment oversized = ⟨defaultMarker, Nat.pow 2 63, defaultMaxLine⟩ := by
  have hmarker : oversized.text? "LAUNCHER_READINESS_MARKER" = none := rfl
  have hchunk : oversized.text? "LAUNCHER_READ_CHUNK" = some "9223372036854775808" := by
    simpa [Environment.text?, oversized] using Utf8.strict_eq_some_iff.mpr rfl
  have hsize : unsigned "9223372036854775808" = some (Nat.pow 2 63) := by decide
  simp only [Config.ofEnvironment, hmarker, hchunk, Option.bind_some, hsize]
  rfl

-- A process that says where it listens and exits; and the same one when nobody
-- takes what it says.

def servedRun : List Action :=
  [.start] ++ installing 1 ⟨7, true, false⟩ ++
    [.send 1 .stdout (.data (Utf8.encode "Listening on: 80\n")), .read 1 .stdout, .announce 1,
      .send 1 .stdout .closed, .read 1 .stdout, .report 1 (.ofCode 0), .teardown 1]

def unservedRun : List Action :=
  [.start] ++ installing 1 ⟨7, true, false⟩ ++ [.report 1 (.ofCode 0), .teardown 1]

theorem readers_are_of_no_use_of_oversized :
    System.hasBuffer (Config.ofEnvironment oversized) = false ∧
      ¬Legible (Config.ofEnvironment oversized) ∧
      (∃ system, Execution (Config.ofEnvironment oversized) unservedRun system ∧
        system.core.state = .stopped ∧ .stateChanged .running ∉ system.queue.events ∧
        outputs 1 .stdout (notices (history (Config.ofEnvironment oversized) unservedRun)) = []) ∧
      ∃ system, Execution ((Config.ofEnvironment oversized).withChunkSize defaultChunkSize)
          servedRun system ∧
        system.core.state = .stopped ∧ .stateChanged .running ∈ system.queue.events ∧
        outputs 1 .stdout (notices (history
          ((Config.ofEnvironment oversized).withChunkSize defaultChunkSize) servedRun)) =
            ["Listening on: 80\n"] := by
  rw [ofEnvironment_oversized]
  have hunserved : ∃ system,
      (System.new ⟨defaultMarker, Nat.pow 2 63, defaultMaxLine⟩).actAll unservedRun =
        some system ∧
      system.core.state = .stopped ∧ .stateChanged .running ∉ system.queue.events :=
    ⟨_, rfl, by decide⟩
  have hserved : ∃ system, (System.new .default).actAll servedRun = some system ∧
      system.core.state = .stopped ∧ .stateChanged .running ∈ system.queue.events :=
    ⟨_, rfl, by decide⟩
  obtain ⟨unserved, hunserved, hover, hnever⟩ := hunserved
  obtain ⟨served, hserved, hover', hready⟩ := hserved
  refine ⟨by decide, fun hlegible => absurd hlegible.size.2 (by decide), ?_, ?_⟩
  · exact ⟨unserved, .of_actAll hunserved, hover, hnever, by decide⟩
  · exact ⟨served, .of_actAll hserved, hover', hready, by decide⟩

end Overseer.Supervisor
