import Overseer.Proofs.Supervisor.Reading

namespace Overseer.Supervisor

open Overseer.Output Overseer.Text

-- Nothing that a process writes is lost, doubled or put elsewhere.

variable {config : Config} {actions : List Action} {steps : List Step} {system : System}
  {closed : List Chapter} {body : List Event} {source : Source}

-- The texts of a stream in a chapter.

def Chapter.outputs (chapter : Chapter) (source : Source) : List String :=
  chapter.body.filterMap (textFrom source)

-- A chapter opens and ends with lines of the supervisor's own.
theorem Chapter.filterMap_events (hsource : source ≠ .supervisor) (chapter : Chapter) :
    chapter.events.filterMap (textFrom source) = chapter.outputs source := by
  have hopening : (opening chapter.handle).filterMap (textFrom source) = [] := by
    simp [opening, startedLine, textFrom, hsource.symm]
  have hending : (ending chapter.exit).filterMap (textFrom source) = [] := by
    cases chapter.exit with
    | none => rfl
    | some exit => simp [ending, stoppedLine, textFrom, hsource.symm]
  rw [events, List.filterMap_append, List.filterMap_append, hopening, hending, List.append_nil]
  rfl

theorem Chapter.outputs_notices (hsource : source ≠ .supervisor) (chapter : Chapter) (id : Nat) :
    Supervisor.outputs id source chapter.notices =
      if chapter.run = id then chapter.outputs source else [] := by
  rw [← chapter.filterMap_events hsource, Supervisor.outputs, notices, List.filterMap_map]
  by_cases hid : chapter.run = id
  · simp [hid]
  · simp [hid]

-- Runs have their chapters to themselves.
theorem outputs_chapters (hsource : source ≠ .supervisor) {chapters : List Chapter}
    (horder : (chapters.map Chapter.run).Pairwise (· < ·)) {chapter : Chapter}
    (hchapter : chapter ∈ chapters) :
    outputs chapter.run source (chapters.flatMap Chapter.notices) = chapter.outputs source := by
  have hnone : ∀ others : List Chapter, (∀ other ∈ others, other.run ≠ chapter.run) →
      outputs chapter.run source (others.flatMap Chapter.notices) = [] := by
    intro others hothers
    induction others with
    | nil => rfl
    | cons other others ih =>
        rw [List.flatMap_cons, outputs_concat, Chapter.outputs_notices hsource,
          if_neg (hothers other List.mem_cons_self),
          ih fun later hlater => hothers later (List.mem_cons_of_mem _ hlater)]
        rfl
  obtain ⟨earlier, later, rfl⟩ := List.append_of_mem hchapter
  rw [List.map_append, List.map_cons, List.pairwise_append, List.pairwise_cons] at horder
  obtain ⟨-, ⟨hlater, -⟩, hearlier⟩ := horder
  rw [List.flatMap_append, List.flatMap_cons, outputs_concat, outputs_concat,
    Chapter.outputs_notices hsource, if_pos rfl, hnone earlier, hnone later, List.append_nil]
  · rfl
  · intro other hother
    exact Nat.ne_of_gt (hlater _ (List.mem_map_of_mem hother))
  · intro other hother
    exact Nat.ne_of_lt (hearlier _ (List.mem_map_of_mem hother) _ List.mem_cons_self)

theorem Orderly.forwarded {handle : Handle} {body : List Event} (h : Orderly actions handle body)
    (hsource : source ≠ .supervisor) {text : String}
    (htext : text ∈ body.filterMap (textFrom source)) : source ∈ handle.streams ∧ text ≠ "" := by
  obtain ⟨event, hevent, htext⟩ := List.mem_filterMap.mp htext
  have hforwarded : Forwarded handle event → source ∈ handle.streams ∧ text ≠ "" := by
    rintro ⟨other, output, hprovided, hsome, rfl⟩
    obtain ⟨rfl, rfl⟩ : other = source ∧ output = text := by simpa [textFrom] using htext
    exact ⟨hprovided, hsome⟩
  obtain ⟨early, late, rfl, hearly, -, hlate⟩ := h
  rcases List.mem_append.mp hevent with hevent | hevent
  · rcases hearly event hevent with hkind | ⟨other, reason, -, -, rfl⟩ | rfl
    · exact hforwarded hkind
    · simp [textFrom, unreadLine, hsource.symm] at htext
    · simp [textFrom] at htext
  · rcases hlate with rfl | ⟨rest, rfl, hrest⟩
    · cases hevent
    · rcases List.mem_cons.mp hevent with rfl | hevent
      · simp [textFrom] at htext
      · rcases hrest event hevent with hkind | ⟨fault, -, rfl⟩
        · exact hforwarded hkind
        · simp [textFrom, refusedLine, hsource.symm] at htext

-- A run whose chapter is closed is not the one that is there.
theorem Chronicle.run_ne_of_closed (h : Chronicle actions steps system closed body)
    (hconsistent : Consistent system) {chapter : Chapter} (hchapter : chapter ∈ closed) {run : Run}
    (hrun : system.core.run = some run) : run.id ≠ chapter.run := by
  have hstanding : system.core.standing = some (run.id, run.handle) := by
    simp [Core.standing, hrun]
  have hlt := h.standing_lt hchapter hstanding
  have hcurrent := hconsistent.current run hrun
  omega

theorem System.hasBuffer_of_le (h : config.chunkSize ≤ Stream.largestRequest) :
    System.hasBuffer config = true := by
  have hone : 1 ≤ Stream.largestRequest := by decide
  have hrequest : Stream.request config.chunkSize ≤ Stream.largestRequest :=
    Nat.max_le.mpr ⟨h, hone⟩
  simpa [System.hasBuffer] using hrequest

-- What the chapter of a run that is over says of one of its streams.
structure Chapter.Faithful (config : Config) (actions : List Action) (chapter : Chapter)
    (source : Source) : Prop where
  -- The pieces make up the text of the bytes that came before the stream's end.
  text : String.join (chapter.outputs source) =
    Utf8.text (Stream.content (messagesTo chapter.run source actions))
  nonempty : ∀ text ∈ chapter.outputs source, text ≠ ""
  absent : source ∉ chapter.handle.streams → chapter.outputs source = []
  -- The stream was read to its end, if there was a thread and a buffer to read it.
  complete : source ∈ chapter.handle.streams → (∀ reason, .watch (some reason) ∉ actions) →
    config.chunkSize ≤ Stream.largestRequest →
    Stream.ends (messagesTo chapter.run source actions) = true

-- In every order of steps the chapter of a run that is over is faithful to the
-- streams of its process.
theorem outputs_are_faithful (h : Execution config actions system) :
    ∃ chapters, Book config actions system chapters ∧
      ∀ chapter ∈ chapters, chapter.exit ≠ none → ∀ source, source ≠ .supervisor →
        chapter.Faithful config actions source := by
  obtain ⟨closed, body, hchronicle⟩ := h.chronicle
  have hbook := hchronicle.book h.consistent
  refine ⟨_, hbook, fun chapter hchapter hexit source hsource => ?_⟩
  have hconveyed := h.conveyed hsource chapter.run
  have hclosed : chapter ∈ closed := by
    rcases List.mem_append.mp hchapter with hclosed | hopen
    · exact hclosed
    · exact absurd (Core.mem_openChapter hopen).2.2 hexit
  have hgone : system.findReader chapter.run source = none := by
    cases hfind : system.findReader chapter.run source with
    | none => rfl
    | some thread =>
        obtain ⟨hmem, hid, -⟩ := System.findReader_eq_some hfind
        obtain ⟨run, handle, hrun, -, hattached⟩ := h.consistent.reader_owner hmem
        have hother := hchronicle.run_ne_of_closed h.consistent hclosed hrun
        exact absurd ((hattached.fits thread hmem).owner.symm.trans hid) hother
  have hread : system.isUnread chapter.run source = false := by
    cases hunread : system.isUnread chapter.run source with
    | false => rfl
    | true =>
        obtain ⟨unread, hlock, -⟩ := System.lock_of_isUnread hunread
        obtain ⟨run, -, hrun, -, hid, -⟩ := h.consistent.attaching hlock
        exact absurd hid (hchronicle.run_ne_of_closed h.consistent hclosed hrun)
  have horderly := hbook.bodies chapter hchapter
  refine ⟨?_, ?_, ?_, ?_⟩
  · have htext := hconveyed.settled hgone
    rw [forwarded, hbook.origins, outputs_chapters hsource hbook.order hchapter] at htext
    rw [← String.toList_inj, String.toList_join, ← htext, Utf8.text, String.toList_ofList]
  · exact fun text htext => (horderly.forwarded hsource htext).2
  · intro hmissing
    refine List.eq_nil_iff_forall_not_mem.mpr fun text htext => ?_
    exact hmissing (horderly.forwarded hsource htext).1
  · intro hprovided hrefused hsize
    have hpair : (chapter.run, chapter.handle) ∈ attachments actions := by
      rw [← hbook.runs]
      exact List.mem_map_of_mem (f := fun chapter => (chapter.run, chapter.handle)) hchapter
    refine hconveyed.ended hrefused ?_ chapter.handle (mem_attachments.mp hpair) hprovided hread
      hgone
    rw [h.config_eq]
    exact System.hasBuffer_of_le hsize

-- A character that arrives in two reads, the second of them after the exit was
-- reported.
def splitRun : List Action :=
  [.start] ++ installing 1 ⟨7, true, false⟩ ++
    [.send 1 .stdout (.data [0xC3, 0xA9]), .read 1 .stdout, .report 1 (.ofCode 0),
      .send 1 .stdout .interrupted, .read 1 .stdout, .read 1 .stdout, .send 1 .stdout .closed,
      .read 1 .stdout, .teardown 1]

theorem outputs_are_faithful_of_split :
    ∃ system, Execution ⟨defaultMarker, 1, defaultMaxLine⟩ splitRun system ∧
      ∃ chapters, Book ⟨defaultMarker, 1, defaultMaxLine⟩ splitRun system chapters ∧
        ∀ chapter ∈ chapters, chapter.exit ≠ none → ∀ source, source ≠ .supervisor →
          chapter.Faithful ⟨defaultMarker, 1, defaultMaxLine⟩ splitRun source := by
  have hall : ∃ system,
      (System.new ⟨defaultMarker, 1, defaultMaxLine⟩).actAll splitRun = some system :=
    Option.isSome_iff_exists.mp (by decide)
  obtain ⟨system, hall⟩ := hall
  exact ⟨system, .of_actAll hall, outputs_are_faithful (.of_actAll hall)⟩

end Overseer.Supervisor
