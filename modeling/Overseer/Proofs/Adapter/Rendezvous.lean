import Mathlib.Data.List.Basic
import Mathlib.Data.List.Induction
import Overseer.Adapter.ExitWatch

namespace Overseer.Adapter

-- The exit of a process and the first callback that is registered for it meet
-- once, whichever comes first and whether or not the handle is still there by
-- then. No other callback is ever invoked.

variable {κ : Type} {actions more : List (WatchAction κ)} {action : WatchAction κ}
  {watch before after later : ExitWatch κ} {callback : κ} {report : Exit}

-- The callbacks that were registered, in order.
def registrations (actions : List (WatchAction κ)) : List κ :=
  actions.filterMap fun
    | .register callback => some callback
    | _ => none

def exits (actions : List (WatchAction κ)) : List Exit :=
  actions.filterMap fun
    | .exit report => some report
    | _ => none

def WatchAction.isWatchers : WatchAction κ → Bool
  | reap | receive => true
  | _ => false

theorem registrations_append (actions more : List (WatchAction κ)) :
    registrations (actions ++ more) = registrations actions ++ registrations more :=
  List.filterMap_append

theorem exits_append (actions more : List (WatchAction κ)) :
    exits (actions ++ more) = exits actions ++ exits more :=
  List.filterMap_append

-- The watcher makes nothing happen that it waits for.
theorem quiet_of_watchers (h : ∀ action ∈ actions, action.isWatchers = true) :
    registrations actions = [] ∧ exits actions = [] := by
  constructor
  all_goals
    refine List.filterMap_eq_nil_iff.mpr fun action haction => ?_
    have hown := h action haction
    cases action <;> first | rfl | cases hown

-- What a step does, one case for each way in which it can go.
inductive WatchStep (watch : ExitWatch κ) : WatchAction κ → ExitWatch κ → Prop
  | exited {report : Exit} :
      watch.exited = none →
      WatchStep watch (.exit report) { watch with exited := some report }
  | reaped {report : Exit} :
      watch.watcher = .waiting → watch.exited = some report →
      WatchStep watch .reap { watch with watcher := .holding report }
  | invoked {callback : κ} {report : Exit} :
      watch.watcher = .holding report → watch.slot = some callback →
      WatchStep watch .receive
        { watch with
          slot := none, watcher := .over, invoked := watch.invoked ++ [(callback, report)] }
  | disconnected {report : Exit} :
      watch.watcher = .holding report → watch.slot = none → watch.sender ≠ .kept →
      WatchStep watch .receive { watch with watcher := .over }
  | registered {callback : κ} :
      watch.handle = true → watch.sender = .kept →
      WatchStep watch (.register callback)
        { watch with
          registered := watch.registered ++ [callback], sender := .spent, slot := some callback }
  | disregarded {callback : κ} :
      watch.handle = true → watch.sender ≠ .kept →
      WatchStep watch (.register callback)
        { watch with registered := watch.registered ++ [callback] }
  | terminated {signal : Signal} :
      watch.handle = true →
      WatchStep watch (.terminate signal) { watch with signals := watch.signals ++ [signal] }
  | released :
      watch.handle = true →
      WatchStep watch .release
        { watch with
          handle := false, sender := if watch.sender = .kept then .released else watch.sender }

theorem step_of_act (h : watch.act action = some after) : WatchStep watch action after := by
  cases action with
  | exit report =>
      simp only [ExitWatch.act] at h
      split at h
      · cases h
      · rename_i hexited
        cases h
        exact .exited hexited
  | reap =>
      simp only [ExitWatch.act] at h
      split at h
      · rename_i report hwatcher hexited
        cases h
        exact .reaped hwatcher hexited
      · cases h
  | receive =>
      simp only [ExitWatch.act] at h
      split at h
      · rename_i report callback hwatcher hslot
        cases h
        exact .invoked hwatcher hslot
      · rename_i report hwatcher hslot
        split at h
        · cases h
        · rename_i hsender
          cases h
          exact .disconnected hwatcher hslot hsender
      · cases h
  | register callback =>
      simp only [ExitWatch.act] at h
      split at h
      · cases h
      · rename_i hhandle
        have hhandle : watch.handle = true := by simpa using hhandle
        split at h
        · rename_i hsender
          cases h
          exact .registered hhandle hsender
        · rename_i hsender
          cases h
          exact .disregarded hhandle hsender
  | terminate signal =>
      simp only [ExitWatch.act] at h
      split at h
      · rename_i hhandle
        cases h
        exact .terminated hhandle
      · cases h
  | release =>
      simp only [ExitWatch.act] at h
      split at h
      · cases h
      · rename_i hhandle
        cases h
        exact .released (by simpa using hhandle)

theorem watched_concat :
    Watched (actions ++ [action]) after ↔
      ∃ before, Watched actions before ∧ before.act action = some after := by
  constructor
  · intro h
    generalize hall : actions ++ [action] = all at h
    cases h with
    | new => simp at hall
    | step hbefore hact =>
        obtain ⟨rfl, hsame⟩ := List.append_inj' hall rfl
        obtain rfl : action = _ := by simpa using hsame
        exact ⟨_, hbefore, hact⟩
  · rintro ⟨before, hbefore, hact⟩
    exact .step hbefore hact

theorem Watched.of_foldlM (h : actions.foldlM ExitWatch.act .new = some watch) :
    Watched actions watch := by
  induction actions using List.reverseRecOn generalizing watch with
  | nil =>
      obtain rfl : .new = watch := by simpa using h
      exact .new
  | append_singleton actions action ih =>
      rw [List.foldlM_append] at h
      obtain ⟨before, hbefore, hact⟩ := Option.bind_eq_some_iff.mp h
      exact .step (ih hbefore) (by simpa using hact)

-- The steps leave their traces in the state.

theorem WatchStep.exited_eq (h : WatchStep watch action after) :
    after.exited.toList = watch.exited.toList ++ exits [action] := by
  cases h <;> simp_all [exits]

theorem WatchStep.registered_eq (h : WatchStep watch action after) :
    after.registered = watch.registered ++ registrations [action] := by
  cases h <;> simp [registrations]

theorem WatchStep.handle_eq (h : WatchStep watch action after) :
    after.handle = false ↔ watch.handle = false ∨ action = .release := by
  cases h <;> simp

namespace Watched

theorem exits_eq (h : Watched actions watch) : exits actions = watch.exited.toList := by
  induction h with
  | new => rfl
  | step _ hact ih => rw [exits_append, ih, (step_of_act hact).exited_eq]

theorem registrations_eq (h : Watched actions watch) :
    registrations actions = watch.registered := by
  induction h with
  | new => rfl
  | step _ hact ih => rw [registrations_append, ih, (step_of_act hact).registered_eq]

theorem released_iff (h : Watched actions watch) :
    .release ∈ actions ↔ watch.handle = false := by
  induction h with
  | new => simp [ExitWatch.new]
  | step _ hact ih =>
      rw [(step_of_act hact).handle_eq, ← ih, List.mem_append, List.mem_singleton, eq_comm]

end Watched

-- What holds of the channel and of the watcher at any time.
structure Sound (watch : ExitWatch κ) : Prop where
  -- The handle can send for as long as it has not sent.
  kept : watch.sender = .kept ↔ watch.handle = true ∧ watch.registered = []
  -- The first callback is on its way or was invoked, and no other one is.
  first : watch.slot.toList ++ watch.invoked.map Prod.fst = watch.registered.head?.toList
  waiting : watch.watcher = .waiting → watch.invoked = []
  holding : ∀ report, watch.watcher = .holding report →
    watch.exited = some report ∧ watch.invoked = []
  ended : watch.watcher = .over → watch.slot = none ∧ watch.sender ≠ .kept
  reports : ∀ call ∈ watch.invoked, watch.exited = some call.2

namespace Sound

theorem new : Sound (.new : ExitWatch κ) where
  kept := by simp [ExitWatch.new]
  first := rfl
  waiting := fun _ => rfl
  holding := by simp [ExitWatch.new]
  ended := by simp [ExitWatch.new]
  reports := by simp [ExitWatch.new]

theorem step (h : Sound watch) (hstep : WatchStep watch action after) : Sound after := by
  obtain ⟨hkept, hfirst, hwaiting, hholding, hended, hreports⟩ := h
  cases hstep with
  | exited hnone =>
      have hquiet : watch.invoked = [] := by
        refine List.eq_nil_iff_forall_not_mem.mpr fun call hcall => ?_
        simp [hreports call hcall] at hnone
      refine ⟨hkept, hfirst, hwaiting, fun report hwatcher => ?_, hended, by simp [hquiet]⟩
      simp [(hholding report hwatcher).1] at hnone
  | reaped hwatcher hexited =>
      refine ⟨hkept, hfirst, by simp, fun report hreport => ?_, by simp, hreports⟩
      obtain rfl := Watcher.holding.inj hreport
      exact ⟨hexited, hwaiting hwatcher⟩
  | invoked hwatcher hslot =>
      obtain ⟨hexited, hquiet⟩ := hholding _ hwatcher
      have hspent : watch.sender ≠ .kept := by
        intro hsender
        simp [hslot, (hkept.mp hsender).2] at hfirst
      refine ⟨hkept, ?_, by simp, by simp, fun _ => ⟨rfl, hspent⟩, by simp [hquiet, hexited]⟩
      rw [← hfirst, hslot, hquiet]
      rfl
  | disconnected hwatcher hslot hsender =>
      exact ⟨hkept, hfirst, by simp, by simp, fun _ => ⟨hslot, hsender⟩, hreports⟩
  | registered hhas hsender =>
      have hnone := (hkept.mp hsender).2
      obtain ⟨hempty, hquiet⟩ : watch.slot = none ∧ watch.invoked = [] := by
        simpa [hnone] using hfirst
      have hrunning : watch.watcher ≠ .over := fun hend => (hended hend).2 hsender
      exact ⟨by simp, by simp [hquiet, hnone], hwaiting, hholding,
        fun hend => absurd hend hrunning, hreports⟩
  | disregarded hhas hsender =>
      have hsome : watch.registered ≠ [] := fun hnone => hsender (hkept.mpr ⟨hhas, hnone⟩)
      refine ⟨by simp [hsender], ?_, hwaiting, hholding, hended, hreports⟩
      rw [hfirst, List.head?_append_of_ne_nil _ hsome]
  | terminated hhas => exact ⟨hkept, hfirst, hwaiting, hholding, hended, hreports⟩
  | released hhas =>
      have hgone : (if watch.sender = .kept then Sender.released else watch.sender) ≠ .kept := by
        split <;> simp_all
      exact ⟨by simp [hgone], hfirst, hwaiting, hholding, fun hend => ⟨(hended hend).1, hgone⟩,
        hreports⟩

end Sound

-- The watcher has nothing to do before something else happens.
def ExitWatch.AtRest (watch : ExitWatch κ) : Prop :=
  watch.act .reap = none ∧ watch.act .receive = none

namespace Sound

-- Once both have come to pass, a watcher that is at rest has brought them together.
theorem invoked_of_rest (h : Sound watch) (hexited : watch.exited = some report)
    (hregistered : watch.registered.head? = some callback) (hrest : watch.AtRest) :
    watch.invoked = [(callback, report)] := by
  obtain ⟨hreap, hreceive⟩ := hrest
  have hfirst : watch.slot.toList ++ watch.invoked.map Prod.fst = [callback] := by
    rw [h.first, hregistered, Option.toList_some]
  cases hwatcher : watch.watcher with
  | waiting => simp [ExitWatch.act, hwatcher, hexited] at hreap
  | holding held =>
      have hsent : watch.slot = some callback := by
        simpa [(h.holding held hwatcher).2] using hfirst
      simp [ExitWatch.act, hwatcher, hsent] at hreceive
  | _ =>
      have hcalls : watch.invoked.map Prod.fst = [callback] := by
        simpa [(h.ended hwatcher).1] using hfirst
      obtain ⟨call, hcall, rfl⟩ := List.map_eq_singleton_iff.mp hcalls
      have hreport := h.reports call (by simp [hcall])
      rw [hcall, Option.some.inj (hexited.symm.trans hreport)]

-- Nobody can register a callback any more, so the watcher gives up.
theorem over_of_rest (h : Sound watch) (hexited : watch.exited = some report)
    (hgone : watch.handle = false) (hrest : watch.AtRest) : watch.watcher = .over := by
  obtain ⟨hreap, hreceive⟩ := hrest
  have hsender : watch.sender ≠ .kept := by
    intro hkept
    have hthere := (h.kept.mp hkept).1
    simp [hgone] at hthere
  cases hwatcher : watch.watcher with
  | waiting => simp [ExitWatch.act, hwatcher, hexited] at hreap
  | holding held =>
      cases hslot : watch.slot <;> simp [ExitWatch.act, hwatcher, hslot, hsender] at hreceive
  | _ => rfl

end Sound

theorem Watched.sound (h : Watched actions watch) : Sound watch := by
  induction h with
  | new => exact .new
  | step _ hact ih => exact ih.step (step_of_act hact)

-- The watcher's own steps, taken one after the other, bring it to rest.

theorem Watched.attempt (h : Watched actions watch) (action : WatchAction κ) :
    ∃ own, own ⊆ [action] ∧ Watched (actions ++ own) ((watch.act action).getD watch) := by
  cases hact : watch.act action with
  | none => exact ⟨[], by simp, by simpa using h⟩
  | some next => exact ⟨[action], by simp, .step h hact⟩

theorem Watched.left_alone (h : Watched actions watch) :
    ∃ own, (∀ action ∈ own, action.isWatchers = true) ∧ Watched (actions ++ own) watch.watch := by
  obtain ⟨reaping, hreaping, hreaped⟩ := h.attempt .reap
  obtain ⟨receiving, hreceiving, hreceived⟩ := hreaped.attempt .receive
  rw [List.append_assoc] at hreceived
  refine ⟨reaping ++ receiving, fun action haction => ?_, hreceived⟩
  rcases List.mem_append.mp haction with haction | haction
  · obtain rfl := List.mem_singleton.mp (hreaping haction)
    rfl
  · obtain rfl := List.mem_singleton.mp (hreceiving haction)
    rfl

theorem ExitWatch.atRest_watch (watch : ExitWatch κ) : watch.watch.AtRest := by
  have hreceive : ∀ {watch : ExitWatch κ}, watch.act .reap = none →
      ((watch.act .receive).getD watch).AtRest := by
    intro watch hreap
    cases hact : watch.act .receive with
    | none => exact ⟨hreap, hact⟩
    | some next => cases step_of_act hact <;> exact ⟨rfl, rfl⟩
  unfold ExitWatch.watch
  refine hreceive ?_
  cases hact : watch.act .reap with
  | none => exact hact
  | some next =>
      cases step_of_act hact
      rfl

-- Without its handle a process has no more callbacks than it had.
theorem Watched.registrations_of_released (h : Watched (actions ++ more) later)
    (hreleased : .release ∈ actions) :
    registrations (actions ++ more) = registrations actions := by
  induction more using List.reverseRecOn generalizing later with
  | nil => rw [List.append_nil]
  | append_singleton more action ih =>
      rw [← List.append_assoc] at h ⊢
      obtain ⟨before, hbefore, hact⟩ := watched_concat.mp h
      have hgone := hbefore.released_iff.mp (List.mem_append_left _ hreleased)
      have hquiet : registrations [action] = [] := by
        cases step_of_act hact with
        | registered hhas | disregarded hhas => simp [hgone] at hhas
        | _ => rfl
      rw [registrations_append, ih hbefore, hquiet, List.append_nil]

structure Rendezvous (actions : List (WatchAction κ)) (watch : ExitWatch κ) : Prop where
  -- One invocation at most: of the first callback, with the report of the exit.
  once : watch.invoked = [] ∨ ∃ callback report, watch.invoked = [(callback, report)] ∧
    (registrations actions).head? = some callback ∧ exits actions = [report]
  -- It is a step of the watcher, and by then both have come to pass.
  invoking : ∀ action after, watch.act action = some after → after.invoked ≠ watch.invoked →
    action = .receive ∧ watch.invoked = [] ∧
      ∃ callback report, after.invoked = [(callback, report)] ∧
        (registrations actions).head? = some callback ∧ exits actions = [report]
  -- A watcher that has no step left has not missed it.
  rest : watch.AtRest → ∀ callback report, (registrations actions).head? = some callback →
    exits actions = [report] → watch.invoked = [(callback, report)]
  -- It needs nobody for its steps, and the handle may be gone.
  alone : ∀ callback report, (registrations actions).head? = some callback →
    exits actions = [report] → ∃ own, (∀ action ∈ own, action.isWatchers = true) ∧
      Watched (actions ++ own) watch.watch ∧ watch.watch.invoked = [(callback, report)]
  dropped : ∀ after, watch.act .release = some after → ∀ callback report,
    (registrations actions).head? = some callback → exits actions = [report] →
    after.watch.invoked = [(callback, report)]
  -- A handle that is dropped without a callback leaves nothing to invoke, and the
  -- watcher gives up as soon as the process has exited.
  cancelled : .release ∈ actions → registrations actions = [] →
    ∀ more later, Watched (actions ++ more) later → later.invoked = [] ∧
      (exits (actions ++ more) ≠ [] → later.watch.watcher = .over ∧ later.watch.invoked = [])

namespace Watched

theorem exited_of_exits (h : Watched actions watch) (hexits : exits actions = [report]) :
    watch.exited = some report := by
  rw [h.exits_eq] at hexits
  exact Option.toList_eq_singleton_iff.mp hexits

theorem once (h : Watched actions watch) :
    watch.invoked = [] ∨ ∃ callback report, watch.invoked = [(callback, report)] ∧
      (registrations actions).head? = some callback ∧ exits actions = [report] := by
  rw [h.registrations_eq, h.exits_eq]
  have hfirst := h.sound.first
  cases hcalls : watch.invoked with
  | nil => exact .inl rfl
  | cons call calls =>
      have hexited := h.sound.reports call (by simp [hcalls])
      have hslot : watch.slot = none := by
        cases hslot : watch.slot with
        | none => rfl
        | some sent =>
            cases hhead : watch.registered.head? <;> simp [hcalls, hslot, hhead] at hfirst
      obtain ⟨hhead, rfl⟩ : watch.registered.head? = some call.1 ∧ calls = [] := by
        cases hhead : watch.registered.head? <;> simp_all
      exact .inr ⟨call.1, call.2, rfl, hhead, by rw [hexited, Option.toList_some]⟩

theorem alone (h : Watched actions watch)
    (hregistered : (registrations actions).head? = some callback)
    (hexits : exits actions = [report]) :
    ∃ own, (∀ action ∈ own, action.isWatchers = true) ∧ Watched (actions ++ own) watch.watch ∧
      watch.watch.invoked = [(callback, report)] := by
  obtain ⟨own, hown, hwatched⟩ := h.left_alone
  obtain ⟨hunregistered, hunexited⟩ := quiet_of_watchers hown
  have hexited : watch.watch.exited = some report :=
    hwatched.exited_of_exits (by rw [exits_append, hunexited, List.append_nil, hexits])
  have hhead : watch.watch.registered.head? = some callback := by
    rw [← hwatched.registrations_eq, registrations_append, hunregistered, List.append_nil,
      hregistered]
  exact ⟨own, hown, hwatched, hwatched.sound.invoked_of_rest hexited hhead watch.atRest_watch⟩

theorem uninvoked (h : Watched actions watch) (hnone : registrations actions = []) :
    watch.invoked = [] := by
  rcases h.once with hcalls | ⟨callback, report, -, hhead, -⟩
  · exact hcalls
  · simp [hnone] at hhead

theorem cancelled (h : Watched actions watch) (hreleased : .release ∈ actions)
    (hnone : registrations actions = []) (hexits : exits actions ≠ []) :
    watch.watch.watcher = .over ∧ watch.watch.invoked = [] := by
  obtain ⟨own, hown, hwatched⟩ := h.left_alone
  obtain ⟨hunregistered, -⟩ := quiet_of_watchers hown
  have hsome : exits (actions ++ own) ≠ [] := by simp [exits_append, hexits]
  rw [hwatched.exits_eq] at hsome
  obtain ⟨report, hexited⟩ : ∃ report, watch.watch.exited = some report :=
    Option.ne_none_iff_exists'.mp fun hrunning => hsome (by rw [hrunning, Option.toList_none])
  have hgone : watch.watch.handle = false :=
    hwatched.released_iff.mp (List.mem_append_left _ hreleased)
  exact ⟨hwatched.sound.over_of_rest hexited hgone watch.atRest_watch,
    hwatched.uninvoked (by rw [registrations_append, hnone, hunregistered, List.append_nil])⟩

end Watched

-- In every order of steps the callback that was registered first and the exit of
-- the process find each other, and nothing else comes of either.
theorem exit_is_told_once (h : Watched actions watch) : Rendezvous actions watch where
  once := h.once
  invoking := by
    intro action after hact hchanged
    cases step_of_act hact with
    | invoked hwatcher hslot =>
        have hquiet := (h.sound.holding _ hwatcher).2
        rcases (Watched.step h hact).once with hcalls | ⟨callback, report, hcalls, hhead, hexits⟩
        · simp at hcalls
        · rw [registrations_append, registrations] at hhead
          rw [exits_append] at hexits
          exact ⟨rfl, hquiet, callback, report, hcalls, by simpa [registrations] using hhead,
            by simpa [exits] using hexits⟩
    | _ => exact absurd rfl hchanged
  rest := by
    intro hrest callback report hhead hexits
    rw [h.registrations_eq] at hhead
    exact h.sound.invoked_of_rest (h.exited_of_exits hexits) hhead hrest
  alone := fun _ _ hhead hexits => h.alone hhead hexits
  dropped := by
    intro after hact callback report hhead hexits
    have hafter : Watched (actions ++ [.release]) after := .step h hact
    have hregistered : (registrations (actions ++ [.release])).head? = some callback := by
      rw [registrations_append]
      simpa [registrations] using hhead
    have hreported : exits (actions ++ [.release]) = [report] := by
      rw [exits_append]
      simpa [exits] using hexits
    obtain ⟨own, -, -, hcalls⟩ := hafter.alone hregistered hreported
    exact hcalls
  cancelled := by
    intro hreleased hnone more later hlater
    have hstill : registrations (actions ++ more) = [] :=
      (hlater.registrations_of_released hreleased).trans hnone
    exact ⟨hlater.uninvoked hstill, hlater.cancelled (List.mem_append_left _ hreleased) hstill⟩

-- A handle that is dropped while the process runs, with two callbacks.
def droppedEarly : List (WatchAction Nat) :=
  [.register 1, .terminate .graceful, .register 2, .release, .exit (.ofCode 3), .reap, .receive]

theorem exit_is_told_once_of_dropped :
    ∃ watch, Watched droppedEarly watch ∧ watch.invoked = [(1, .ofCode 3)] ∧
      Rendezvous droppedEarly watch := by
  have hsteps : ∃ watch : ExitWatch Nat,
      droppedEarly.foldlM ExitWatch.act .new = some watch ∧ watch.invoked = [(1, .ofCode 3)] :=
    ⟨_, rfl, rfl⟩
  obtain ⟨watch, hsteps, hinvoked⟩ := hsteps
  exact ⟨watch, .of_foldlM hsteps, hinvoked, exit_is_told_once (.of_foldlM hsteps)⟩

end Overseer.Adapter
