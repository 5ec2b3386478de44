import Overseer.Proofs.Rehearsal.Starting
import Overseer.Proofs.Supervisor.Launching
import Overseer.Proofs.Supervisor.Replay
import Overseer.Proofs.Supervisor.Service

namespace Overseer.Supervisor

-- Start calls that get no process: what others can do while the process is being
-- spawned, what is left when it cannot be, and how everything goes on as if
-- nobody had tried.

-- The second part of a start call.
def Action.isSecond : Action → Bool
  | attach _ _ | fail _ => true
  | _ => false

-- What goes on beside start calls: events are handed over, and callers come to
-- wait.
def Action.isBeside : Action → Bool
  | deliver | settle | await _ => true
  | _ => false

def Action.requested? : Action → Option Signal
  | request signal => some signal
  | _ => none

-- The system while a process is being spawned for it, given what was asked for
-- meanwhile.
def System.inSpawn (system : System) (asked : List Signal) (waiters : List Waiter)
    (records : List Log.RunRecord) : System :=
  { system with
    core :=
      ⟨.starting, some ⟨system.core.lastRun + 1, none, [], strongest asked, false⟩,
        system.core.lastRun + 1⟩
    windows := [system.core.lastRun + 1]
    waiters := waiters
    records := records }

-- The system once its process could not be spawned.
def System.afterFailure (system : System) (waiters : List Waiter) (records : List Log.RunRecord) :
    System :=
  { system with
    core := ⟨.stopped, none, system.core.lastRun + 1⟩
    waiters := waiters
    records := records }

inductive Amid (asked : List Signal) (apart : System) : System → Prop
  | intro (waiters : List Waiter) (records : List Log.RunRecord) :
      Idle apart → apart.closing = .open → waiters.length = apart.waiters.length →
      Amid asked apart (apart.inSpawn asked waiters records)

variable {config : Config} {actions inside : List Action} {asked : List Signal}
  {system apart amid after : System} {action : Action}

theorem Idle.beside (h : Idle system) (queue : Queue) (waiters : List Waiter) :
    Idle { system with queue := queue, waiters := waiters } :=
  ⟨h.state, h.lock, h.windows, h.readers, h.reportable, h.teardowns⟩

namespace Amid

theorem begin (hidle : Idle system) (hopen : system.closing = .open) :
    ∃ first, system.act .start = .moved first ∧ Amid [] system first := by
  refine ⟨_, ?_, .intro (system.waiters.map Waiter.roused)
    (system.records ++ [Log.RunRecord.new (system.core.lastRun + 1)]) hidle hopen
    (List.length_map _)⟩
  simp [System.act, System.onStart, System.isFree, System.isOpen, Core.begin?, System.notifyAll,
    System.inSpawn, strongest, hidle.lock, hidle.state, hidle.windows, hopen, Waiter.roused]

-- Another start call does nothing, and a request is only recorded.

theorem act_start (h : Amid asked apart amid) : amid.act .start = .moved amid := by
  obtain ⟨waiters, records, hidle, hopen, hlength⟩ := h
  simp [System.act, System.onStart, System.isFree, System.isOpen, Core.begin?, System.inSpawn,
    hidle.lock, hopen]

theorem act_request (h : Amid asked apart amid) (signal : Signal) :
    ∃ next, amid.act (.request signal) = .moved next ∧ Amid (asked ++ [signal]) apart next := by
  obtain ⟨waiters, records, hidle, hopen, hlength⟩ := h
  refine ⟨_, ?_, .intro waiters records hidle hopen hlength⟩
  simp [System.act, System.onRequest, System.isFree, System.isOpen, Core.request, System.inSpawn,
    hidle.lock, hopen, strongest_concat]

theorem act_fail (h : Amid asked apart amid) :
    ∃ failed, amid.act (.fail (apart.core.lastRun + 1)) = .moved failed ∧
      failed = apart.afterFailure failed.waiters failed.records ∧
      failed.waiters.length = apart.waiters.length := by
  obtain ⟨waiters, records, hidle, hopen, hlength⟩ := h
  refine ⟨apart.afterFailure (waiters.map Waiter.roused) records, ?_, rfl, ?_⟩
  · simp [System.act, System.onFail, System.isFree, System.inSpawn, System.afterFailure,
      System.notifyAll, Core.abandon, hidle.lock, hidle.windows, hopen, Waiter.roused]
  · simpa [System.afterFailure] using hlength

-- Nothing else can go on inside but what goes on beside as well, and those who
-- wait looking at the state.
theorem step (h : Amid asked apart amid) (hfirst : action.isSecond = false)
    (hact : amid.act action = .moved after) :
    ∃ next later, apart.actAll ([action].filter Action.isBeside) = some next ∧
      later = asked ++ [action].filterMap Action.requested? ∧ Amid later next after := by
  have hrequest := h.act_request
  obtain ⟨waiters, records, hidle, hopen, hlength⟩ := h
  have hnobody : ∀ id source,
      (apart.inSpawn asked waiters records).findReader id source = none := by
    intro id source
    simp [System.findReader, System.inSpawn, hidle.readers]
  have hlock : (apart.inSpawn asked waiters records).lock = none := hidle.lock
  have hclosing : (apart.inSpawn asked waiters records).closing = .open := hopen
  cases System.transition_of_act hact with
  | startIgnored =>
      exact ⟨apart, asked, rfl, (List.append_nil _).symm, .intro _ _ hidle hopen hlength⟩
  | @requested signal =>
      obtain ⟨next, hnext, hamid⟩ := hrequest signal
      cases hnext.symm.trans hact
      exact ⟨apart, _, rfl, rfl, hamid⟩
  | @delivered queue hdeliver =>
      have hbeside : apart.act .deliver = .moved { apart with queue := queue } := by
        have hdeliver : apart.queue.deliver = some queue := hdeliver
        simp [System.act, System.onDeliver, hdeliver]
      exact ⟨_, asked, System.actAll_singleton hbeside, (List.append_nil _).symm,
        .intro waiters records (hidle.beside queue apart.waiters) hopen hlength⟩
  | settled hbusy hfree =>
      have hbeside : apart.act .settle = .moved { apart with queue := apart.queue.settle } := by
        have hbusy : apart.queue.busy = true := hbusy
        simp [System.act, System.onSettle, Closing.holdsCallback, hbusy, hopen]
      exact ⟨_, asked, System.actAll_singleton hbeside, (List.append_nil _).symm,
        .intro waiters records (hidle.beside _ apart.waiters) hopen hlength⟩
  | @awaited target =>
      have hbeside : apart.act (.await target) =
          .moved { apart with waiters := apart.waiters ++ [⟨target, .entering⟩] } := by
        simp [System.act, System.onAwait, System.isOpen, hopen]
      exact ⟨_, asked, System.actAll_singleton hbeside, (List.append_nil _).symm,
        .intro (waiters ++ [⟨target, .entering⟩]) records
          (hidle.beside apart.queue (apart.waiters ++ [⟨target, .entering⟩])) hopen
          (by simp [hlength])⟩
  | looked | expired =>
      exact ⟨apart, asked, rfl, (List.append_nil _).symm,
        .intro (waiters.set _ _) records hidle hopen (by simpa using hlength)⟩
  | failed | attached => cases hfirst
  | begun _ _ hstopped => cases hstopped
  | watched hheld => cases hlock.symm.trans hheld
  | unwatched hheld => cases hlock.symm.trans hheld
  | letGo hheld => cases hlock.symm.trans hheld
  | takenUp hheld => cases hlock.symm.trans hheld
  | concluded hheld => cases hlock.symm.trans hheld
  | sent hfind => cases (hnobody _ _).symm.trans hfind
  | readAgain hfind => cases (hnobody _ _).symm.trans hfind
  | readEnd hfind => cases (hnobody _ _).symm.trans hfind
  | readChunk hfind => cases (hnobody _ _).symm.trans hfind
  | announcedInVain _ hfind => cases (hnobody _ _).symm.trans hfind
  | announced _ hfind => cases (hnobody _ _).symm.trans hfind
  | reportedInVain _ hid => simp [System.inSpawn, hidle.reportable] at hid
  | reported _ hid => simp [System.inSpawn, hidle.reportable] at hid
  | tornDown _ hfind => simp [System.inSpawn, hidle.teardowns] at hfind
  | disposed _ hwindows => cases hwindows
  | disposeRequested hclosing' => cases hclosing.symm.trans hclosing'
  | disposeLooked _ hclosing' => cases hclosing.symm.trans hclosing'
  | disposeClosed hclosing' => cases hclosing.symm.trans hclosing'

theorem steps (h : Amid asked apart amid) (hfirst : ∀ action ∈ inside, action.isSecond = false)
    (hall : amid.actAll inside = some after) :
    ∃ next, apart.actAll (inside.filter Action.isBeside) = some next ∧
      Amid (asked ++ inside.filterMap Action.requested?) next after := by
  induction inside generalizing asked apart amid with
  | nil =>
      obtain rfl : amid = after := by simpa [System.actAll] using hall
      exact ⟨apart, rfl, by simpa using h⟩
  | cons action inside ih =>
      obtain ⟨next, hact, hall⟩ := System.actAll_cons.mp hall
      obtain ⟨beside, later, hbeside, rfl, hnext⟩ := h.step (hfirst action List.mem_cons_self) hact
      obtain ⟨last, hlast, hafter⟩ :=
        ih hnext (fun action hmem => hfirst action (List.mem_cons_of_mem _ hmem)) hall
      refine ⟨last, ?_, ?_⟩
      · rw [← List.singleton_append, List.filter_append, System.actAll_append hbeside, hlast]
      · rwa [← List.singleton_append, List.filterMap_append, ← List.append_assoc]

-- Calls that are made inside all go through.
theorem actAll_calls (h : Amid asked apart amid)
    (hcalls : ∀ action ∈ inside, action = .start ∨ ∃ signal, action = .request signal) :
    ∃ after, amid.actAll inside = some after := by
  induction inside generalizing asked amid with
  | nil => exact ⟨amid, rfl⟩
  | cons action inside ih =>
      have hrest := fun action hmem => hcalls action (List.mem_cons_of_mem _ hmem)
      rcases hcalls action List.mem_cons_self with rfl | ⟨signal, rfl⟩
      · obtain ⟨after, hafter⟩ := ih h hrest
        exact ⟨after, System.actAll_cons.mpr ⟨amid, h.act_start, hafter⟩⟩
      · obtain ⟨next, hnext, hamid⟩ := h.act_request signal
        obtain ⟨after, hafter⟩ := ih hamid hrest
        exact ⟨after, System.actAll_cons.mpr ⟨next, hnext, hafter⟩⟩

end Amid

theorem System.takeAll_of_actAll (hall : system.actAll actions = some after) :
    system.takeAll actions = after := by
  induction actions generalizing system with
  | nil => simpa [System.actAll, System.takeAll] using hall
  | cons action actions ih =>
      obtain ⟨next, hact, hall⟩ := System.actAll_cons.mp hall
      rw [System.takeAll, List.foldl_cons, System.take, hact]
      exact ih hall

-- In a rehearsal all that is asked inside a start call is taken.
theorem Idle.actAll_start (hidle : Idle system) (hopen : system.closing = .open)
    (calls : List Rehearsal.Call) :
    system.actAll (.start :: calls.flatMap Rehearsal.Call.actions) =
      some ((system.take .start).takeAll (calls.flatMap Rehearsal.Call.actions)) := by
  obtain ⟨first, hstart, hbegun⟩ := Amid.begin hidle hopen
  obtain ⟨amid, hcalls⟩ := hbegun.actAll_calls fun action =>
    @Rehearsal.Call.mem_flatMap_actions calls action
  have hall := System.actAll_cons.mpr ⟨first, hstart, hcalls⟩
  rw [hall, ← System.takeAll_of_actAll hall]
  rfl

theorem Idle.opening (hidle : Idle system) (hopen : system.closing = .open) :
    system.opening? = some (system.core.lastRun + 1) :=
  System.opening?_eq_some_iff.mpr ⟨hidle.lock, hopen, hidle.state, rfl⟩

theorem Action.isSecond_of_call
    (h : action = .start ∨ ∃ signal, action = .request signal) : action.isSecond = false := by
  rcases h with rfl | ⟨signal, rfl⟩ <;> rfl

-- What goes on beside start calls leaves the run alone and puts nothing in the
-- queue.
theorem System.actAll_beside (hbeside : ∀ action ∈ actions, action.isBeside = true)
    (hall : system.actAll actions = some apart) :
    apart.core = system.core ∧ apart.signals = system.signals ∧
      apart.queue.events = system.queue.events := by
  induction actions generalizing system with
  | nil =>
      obtain rfl : system = apart := by simpa [System.actAll] using hall
      exact ⟨rfl, rfl, rfl⟩
  | cons action actions ih =>
      obtain ⟨next, hact, hall⟩ := System.actAll_cons.mp hall
      obtain ⟨hcore, hsignals, hevents⟩ :=
        ih (fun action hmem => hbeside action (List.mem_cons_of_mem _ hmem)) hall
      have hfirst := hbeside action List.mem_cons_self
      cases System.transition_of_act hact with
      | delivered hdeliver =>
          exact ⟨hcore, hsignals, hevents.trans (Queue.events_deliver hdeliver)⟩
      | settled | awaited => exact ⟨hcore, hsignals, hevents⟩
      | _ => cases hfirst

-- No signal was ever sent to a run that there has not been.
theorem Execution.signalled_le (h : Execution config actions system) {id : Nat}
    (hsignals : system.signalsTo id ≠ []) : id ≤ system.core.lastRun := by
  induction h with
  | initial => exact absurd rfl hsignals
  | @step actions before after action hbefore hact ih =>
      have hstep := System.transition_of_act hact
      by_cases hsame : after.signalsTo id = before.signalsTo id
      · rw [hsame] at hsignals
        exact Nat.le_trans (ih hsignals) (hbefore.consistent.turn hstep).lastRun_le
      · obtain ⟨-, handle, hstanding⟩ := hbefore.consistent.signalled hstep hsame
        exact Nat.le_of_eq ((hbefore.step hact).consistent.standing_current hstanding)

-- The system in which a start failed is like the one in which there was none.
theorem Execution.alike_afterFailure (h : Execution config actions system)
    (hrun : system.core.run = none) {waiters : List Waiter}
    (hlength : waiters.length = system.waiters.length) (records : List Log.RunRecord) :
    Alike system.core.lastRun system.waiters.length system
      (system.afterFailure waiters records) where
  fork_le := Nat.le_refl _
  agree := .of_length hlength
  same := by
    have hsignals : system.signals.map (fun sent => (bump system.core.lastRun sent.1, sent.2)) =
        system.signals := by
      refine (Array.map_congr_left fun sent hsent => ?_).trans (Array.map_id _)
      have hsent : system.signalsTo sent.1 ≠ [] := by
        refine List.ne_nil_of_mem (List.mem_map_of_mem (a := sent) ?_)
        simpa using hsent
      rw [bump_of_le (h.signalled_le hsent)]
      rfl
    have hidle := h.consistent.idle hrun
    simp only [System.afterFailure, System.renumber, hsignals, hidle.lock, hidle.windows,
      hidle.readers, hidle.reportable, hidle.teardowns, Core.renumber, hidle.state, hrun,
      Option.map_none, List.map_nil]

-- The system inside the spawn, the one in which nobody tried, and what becomes of
-- the former when the process cannot be had.
structure Foiled (system : System) (inside : List Action) (amid apart failed : System) :
    Prop where
  beside : system.actAll (inside.filter Action.isBeside) = some apart
  -- All that the two differ in is the run that is being started, with what was
  -- asked for it, and when those who wait looked at the state.
  within : Amid (inside.filterMap Action.requested?) apart amid
  ignored : amid.act .start = .moved amid
  recorded : ∀ signal, ∃ next, amid.act (.request signal) = .moved next ∧
    Amid (inside.filterMap Action.requested? ++ [signal]) apart next
  fails : amid.act (.fail (system.core.lastRun + 1)) = .moved failed
  core : failed.core = ⟨.stopped, none, system.core.lastRun + 1⟩
  idle : Idle failed
  queue : failed.queue = apart.queue
  events : failed.queue.events = system.queue.events
  signals : failed.signals = system.signals
  forgotten : Interchangeable system.core.lastRun apart.waiters.length apart failed

theorem Execution.foiled (h : Execution config actions system) (hrun : system.core.run = none)
    (hopen : system.closing = .open) (hfirst : ∀ action ∈ inside, action.isSecond = false)
    (hall : system.actAll (.start :: inside) = some amid) :
    ∃ apart failed, Foiled system inside amid apart failed := by
  obtain ⟨first, hstart, hbegun⟩ := Amid.begin (h.consistent.idle hrun) hopen
  simp only [System.actAll, hstart] at hall
  obtain ⟨apart, hapart, hamid⟩ := hbegun.steps hfirst hall
  rw [List.nil_append] at hamid
  obtain ⟨hcore, hsignals, hevents⟩ :=
    System.actAll_beside (fun action hmem => (List.mem_filter.mp hmem).2) hapart
  have hrun' : apart.core.run = none := by rw [hcore, hrun]
  obtain ⟨failed, hfail, hfailed, hlength⟩ := hamid.act_fail
  have hexecution := h.append hapart
  have hidle := hexecution.consistent.idle hrun'
  have halike := hexecution.alike_afterFailure hrun' hlength failed.records
  rw [← hfailed, hcore] at halike
  rw [hcore] at hfail
  exact ⟨apart, failed,
    { beside := hapart
      within := hamid
      ignored := hamid.act_start
      recorded := hamid.act_request
      fails := hfail
      core := by rw [hfailed, System.afterFailure, hcore]
      idle := by
        rw [hfailed]
        exact ⟨rfl, hidle.lock, hidle.windows, hidle.readers, hidle.reportable, hidle.teardowns⟩
      queue := by
        rw [hfailed]
        rfl
      events := by
        rw [hfailed]
        exact hevents
      signals := by
        rw [hfailed]
        exact hsignals
      forgotten := halike.interchangeable hidle.lock }⟩

theorem Execution.foiled_start (h : Execution config actions system)
    (hstopped : system.core.state = .stopped) (hopen : system.closing = .open)
    (hfirst : ∀ action ∈ inside, action.isSecond = false)
    (hall : system.actAll (.start :: inside) = some amid) {τ : Type} {fault : Fault}
    {launch : τ → Except Fault Handle × τ} {means next : τ}
    (hlaunch : launch means = (.error fault, next)) :
    ∃ apart failed, Foiled system inside amid apart failed ∧
      system.startAmid launch inside means = (.error fault, failed, next) := by
  have hrun := h.consistent.stopped_iff.mp hstopped
  obtain ⟨apart, failed, hfoiled⟩ := h.foiled hrun hopen hfirst hall
  have hamid : (system.take .start).takeAll inside = amid :=
    show system.takeAll (.start :: inside) = amid from System.takeAll_of_actAll hall
  refine ⟨apart, failed, hfoiled, ?_⟩
  rw [System.startAmid_of_error inside ((h.consistent.idle hrun).opening hopen) hlaunch, hamid,
    System.take, hfoiled.fails]

structure Traceless (system : System) : Prop where
  begun : ∃ first, system.act .start = .moved first
  -- Inside, everybody may do anything but the second part of the call.
  foiled : ∀ inside amid, (∀ action ∈ inside, action.isSecond = false) →
    system.actAll (.start :: inside) = some amid →
    ∃ apart failed, Foiled system inside amid apart failed
  -- Whatever the check of the runtime and the spawner are, their error is given
  -- back; without a loader there is only the spawner's.
  checked : ∀ {σ τ : Type} (opener : Loader.Opener σ) (spawner : Spawner τ)
    (means next : Means σ τ) options fault inside amid,
    means.launch opener spawner options = (.error fault, next) →
    (∀ action ∈ inside, action.isSecond = false) →
    system.actAll (.start :: inside) = some amid →
    ∃ apart failed, Foiled system inside amid apart failed ∧
      system.startAmid (fun means => means.launch opener spawner options) inside means =
        (.error fault, failed, next)
  unchecked : ∀ {τ : Type} (spawner : Spawner τ) (spawning next : τ) (options : Options) fault
    inside amid, spawner spawning options.arguments = (.error fault, next) →
    (∀ action ∈ inside, action.isSecond = false) →
    system.actAll (.start :: inside) = some amid →
    ∃ apart failed, Foiled system inside amid apart failed ∧
      system.startAmid (fun spawning => spawner spawning options.arguments) inside spawning =
        (.error fault, failed, next)
  -- And so in a rehearsal, where the calls inside are those that a script makes.
  answered : ∀ (stage : Rehearsal.Stage) options fault, stage.system = system →
    stage.refusal options = some fault →
    (stage.start options).1 = .failed fault ∧
    ∃ inside amid apart, (∀ action ∈ inside, action = .start ∨ ∃ signal, action = .request signal) ∧
      system.actAll (.start :: inside) = some amid ∧
      Foiled system inside amid apart (stage.start options).2.system

-- A start call that fails leaves no trace. A supervisor that is being disposed of
-- takes no such calls.
theorem failed_start_leaves_no_trace (h : Execution config actions system)
    (hstopped : system.core.state = .stopped) (hopen : system.closing = .open) :
    Traceless system := by
  have hrun := h.consistent.stopped_iff.mp hstopped
  obtain ⟨first, hstart, -⟩ := Amid.begin (h.consistent.idle hrun) hopen
  refine ⟨⟨first, hstart⟩, fun inside amid => h.foiled hrun hopen,
    fun opener spawner means next options fault inside amid hlaunch hfirst hall =>
      h.foiled_start hstopped hopen hfirst hall hlaunch,
    fun spawner spawning next options fault inside amid hlaunch hfirst hall =>
      h.foiled_start hstopped hopen hfirst hall hlaunch, ?_⟩
  rintro stage options fault rfl hrefusal
  have hidle := h.consistent.idle hrun
  obtain ⟨calls, hreply, hsystem⟩ :=
    Rehearsal.Stage.start_of_refusal hrefusal (hidle.opening hopen)
  have hcalls := fun action => @Rehearsal.Call.mem_flatMap_actions calls action
  have hall := hidle.actAll_start hopen calls
  obtain ⟨apart, failed, hfoiled⟩ := h.foiled hrun hopen
    (fun action hmem => Action.isSecond_of_call (hcalls action hmem)) hall
  rw [System.take, hfoiled.fails] at hsystem
  rw [hsystem]
  exact ⟨hreply, _, _, apart, hcalls, hall, hfoiled⟩

-- A run is over and somebody waits for the next one to start.
def expectantRun : List Action :=
  [.start] ++ installing 1 ⟨7, false, false⟩ ++
    [.report 1 (.ofCode 0), .teardown 1, .await .starting, .look 0]

-- Who waited has seen the start, the observer is told of the first run, and all
-- others ask for something.
def busySpawn : List Action :=
  [.look 0, .request .force, .deliver, .start, .request .graceful]

-- There is no library, and an opener that counts how often it was asked.
def barrenOpener : Loader.Opener Nat := fun count path symbol =>
  (.error (.symbolMissing path symbol "not there"), count + 1)

def idleSpawner : Spawner Unit := fun spawning _ => (.ok ⟨7, false, false⟩, spawning)

theorem failed_start_leaves_no_trace_of_busy :
    ∃ system amid, Execution .default expectantRun system ∧ system.core.state = .stopped ∧
      system.actAll (.start :: busySpawn) = some amid ∧
      (∃ apart failed, Foiled system busySpawn amid apart failed) ∧
      (∃ fault loader apart failed, Foiled system busySpawn amid apart failed ∧
        system.startAmid
            (fun means : Means Nat Unit =>
              means.launch barrenOpener idleSpawner (.new "/a" "server.jar"))
            busySpawn ⟨.new .standard, 0, ()⟩ =
          (.error (.runtime fault), failed, ⟨loader, 1, ()⟩)) ∧
      ∃ stage : Rehearsal.Stage, stage.system = system ∧
        (stage.start .empty).1 = .failed (.io "out of memory") := by
  have hall : ∃ system amid, (System.new .default).actAll expectantRun = some system ∧
      system.actAll (.start :: busySpawn) = some amid ∧ system.core.state = .stopped ∧
      system.closing = .open :=
    ⟨_, _, rfl, rfl, rfl, rfl⟩
  obtain ⟨system, amid, hall, hinside, hstopped, hopen⟩ := hall
  have htraceless := failed_start_leaves_no_trace (.of_actAll hall) hstopped hopen
  let spawning : Rehearsal.Spawning :=
    { Rehearsal.Spawning.plain with failure := some (.broken "out of memory"), during := [.kill] }
  let stage : Rehearsal.Stage := { Rehearsal.Stage.new .default none [] [spawning] [] with system }
  exact ⟨system, amid, .of_actAll hall, hstopped, hinside,
    htraceless.foiled busySpawn amid (by decide) hinside,
    ⟨_, _, htraceless.checked barrenOpener idleSpawner ⟨.new .standard, 0, ()⟩ _
      (.new "/a" "server.jar") _ busySpawn amid rfl (by decide) hinside⟩, stage, rfl,
    (htraceless.answered stage .empty (.io "out of memory") rfl rfl).1⟩

end Overseer.Supervisor
