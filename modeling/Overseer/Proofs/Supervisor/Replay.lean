import Overseer.Proofs.Supervisor.History
import Overseer.Proofs.Supervisor.Likeness

namespace Overseer.Supervisor

open Overseer.Output

-- Two supervisors that are alike go on in the same way. The first callers who
-- wait may look at the state at other times in one than in the other, so their
-- steps are left out; nothing but disposal has to wait for them, and once they
-- have gone away not even that.

variable {fork early index : Nat} {system other after final : System} {action : Action}
  {more : List Action}

def late (early : Nat) (actions : List Action) : List Action :=
  actions.filter fun action => !action.isEarly early

theorem late_cons_of_early (h : action.isEarly early = true) :
    late early (action :: more) = late early more := by
  simp [late, h]

theorem late_cons_of_not_early (h : action.isEarly early = false) :
    late early (action :: more) = action :: late early more := by
  simp [late, h]

theorem Action.isEarly_succ (h : action.isEarly early = true) :
    action.isEarly (early + 1) = true := by
  cases action with
  | look | expire =>
      simp only [isEarly, decide_eq_true_eq] at h ⊢
      exact Nat.lt_succ_of_lt h
  | _ => cases h

@[simp] theorem Action.isEarly_renumber (fork early : Nat) (action : Action) :
    (action.renumber fork).isEarly early = action.isEarly early := by
  cases action <;> rfl

-- The first callers have gone away.
def System.Dismissed (early : Nat) (system : System) : Prop :=
  ∀ index waiter, index < early → system.waiters[index]? = some waiter →
    System.hasReturned waiter = true

-- What a step does to those who wait.
theorem Transition.waiters (hstep : Transition system action after) :
    after.waiters = system.waiters ∨ after.waiters = system.waiters.map Waiter.roused ∨
      (∃ waiter, after.waiters = system.waiters ++ [waiter]) ∨
      ∃ index waiter changed, system.waiters[index]? = some waiter ∧
        System.hasReturned waiter = false ∧
        after.waiters = system.waiters.set index changed := by
  have hrequest : ∀ {signal : Signal} {next : System}, Requesting system signal next →
      next.waiters = system.waiters ∨ next.waiters = system.waiters.map Waiter.roused := by
    intro signal next hrequest
    cases hrequest with
    | entered => exact .inr rfl
    | _ => exact .inl rfl
  cases hstep with
  | begun | failed | takenUp | announced | tornDown => exact .inr (.inl rfl)
  | requested hopen hstep => exact (hrequest hstep).imp_right .inl
  | disposeRequested hclosing hstep => exact (hrequest hstep).imp_right .inl
  | awaited => exact .inr (.inr (.inl ⟨_, rfl⟩))
  | @looked index waiter hlock hwaiter hphase =>
      have hwaits : System.hasReturned waiter = false := by
        rcases hphase with hphase | hphase <;> simp [System.hasReturned, hphase]
      exact .inr (.inr (.inr ⟨index, waiter, _, hwaiter, hwaits, rfl⟩))
  | @expired index waiter hlock hwaiter hphase =>
      have hwaits : System.hasReturned waiter = false := by
        rcases hphase with hphase | hphase <;> simp [System.hasReturned, hphase]
      exact .inr (.inr (.inr ⟨index, waiter, _, hwaiter, hwaits, rfl⟩))
  | _ => exact .inl rfl

-- Who has gone away does not come back.
theorem System.Dismissed.act (h : system.Dismissed early) (hlength : early ≤ system.waiters.length)
    (hact : system.act action = .moved after) : after.Dismissed early := by
  intro index waiter hindex hwaiter
  rcases (System.transition_of_act hact).waiters with
    hsame | hroused | ⟨new, hnew⟩ | ⟨place, old, changed, hold, hwaits, hset⟩
  · rw [hsame] at hwaiter
    exact h index waiter hindex hwaiter
  · rw [hroused, List.getElem?_map, Option.map_eq_some_iff] at hwaiter
    obtain ⟨old, hold, rfl⟩ := hwaiter
    have hreturned := h index old hindex hold
    unfold System.hasReturned at hreturned
    split at hreturned
    · rename_i hphase
      simp [Waiter.roused, System.wake, System.hasReturned, hphase]
    · cases hreturned
  · rw [hnew, List.getElem?_append_left (Nat.lt_of_lt_of_le hindex hlength)] at hwaiter
    exact h index waiter hindex hwaiter
  · have hne : place ≠ index := by
      rintro rfl
      simp [h place old hindex hold] at hwaits
    rw [hset, List.getElem?_set_ne hne] at hwaiter
    exact h index waiter hindex hwaiter

theorem AgreeFrom.all_returned (h : AgreeFrom early system.waiters other.waiters)
    (hdismissed : other.Dismissed early)
    (hall : system.waiters.all System.hasReturned = true) :
    other.waiters.all System.hasReturned = true := by
  rw [List.all_eq_true] at hall ⊢
  intro waiter hmem
  obtain ⟨index, hwaiter⟩ := List.mem_iff_getElem?.mp hmem
  rcases Nat.lt_or_ge index early with hindex | hindex
  · exact hdismissed index waiter hindex hwaiter
  · rw [h.getElem? hindex] at hwaiter
    exact hall waiter (List.mem_of_getElem? hwaiter)

-- A step of one of the first callers.
theorem System.act_of_early (hearly : action.isEarly early = true)
    (hact : system.act action = .moved after) :
    ∃ index waiter, index < early ∧ after = system.setWaiter index waiter := by
  cases System.transition_of_act hact with
  | @looked index => exact ⟨index, _, by simpa [Action.isEarly] using hearly, rfl⟩
  | @expired index => exact ⟨index, _, by simpa [Action.isEarly] using hearly, rfl⟩
  | _ => cases hearly

namespace Alike

theorem early_left (h : Alike fork early system other) (hearly : action.isEarly early = true)
    (hact : system.act action = .moved after) : Alike fork early after other := by
  obtain ⟨index, waiter, hindex, rfl⟩ := System.act_of_early hearly hact
  exact ⟨h.fork_le, h.agree.set_left hindex waiter, h.same⟩

theorem early_right (h : Alike fork early system other) (hearly : action.isEarly early = true)
    (hact : other.act action = .moved after) : Alike fork early system after := by
  obtain ⟨index, waiter, hindex, rfl⟩ := System.act_of_early hearly hact
  exact ⟨h.fork_le, h.agree.set_right hindex waiter,
    congrArg (fun same : System => same.setWaiter index waiter) h.same⟩

-- Actions that can be taken only name runs that there are.
theorem exists_run (h : Alike fork early system other) (hact : other.act action = .moved after)
    {id : Nat} (hnamed : action.run? = some id) : ∃ run, bump fork run = id := by
  have hwindow : ∀ id ∈ other.windows, ∃ run, bump fork run = id := by
    intro id hid
    rw [h.same] at hid
    obtain ⟨run, -, hrun⟩ := List.mem_map.mp hid
    exact ⟨run, hrun⟩
  have hreportable : ∀ id ∈ other.reportable, ∃ run, bump fork run = id := by
    intro id hid
    rw [h.same] at hid
    obtain ⟨run, -, hrun⟩ := List.mem_map.mp hid
    exact ⟨run, hrun⟩
  have hreader : ∀ {id : Nat} {source : Source} {thread : ReaderThread},
      other.findReader id source = some thread → ∃ run, bump fork run = id := by
    intro id source thread hfind
    rw [h.same] at hfind
    obtain ⟨reader, -, hthread⟩ := List.mem_map.mp (List.mem_of_find?_eq_some hfind)
    have hkey : thread.run = id ∧ thread.source = source := by
      simpa using List.find?_some hfind
    exact ⟨reader.run, (congrArg ReaderThread.run hthread).trans hkey.1⟩
  have hteardown : ∀ {id : Nat} {teardown : Teardown},
      other.teardowns.find? (fun teardown => teardown.run = id) = some teardown →
      ∃ run, bump fork run = id := by
    intro id teardown hfind
    rw [h.same] at hfind
    obtain ⟨origin, -, horigin⟩ := List.mem_map.mp (List.mem_of_find?_eq_some hfind)
    have hid : teardown.run = id := by simpa using List.find?_some hfind
    exact ⟨origin.run, (congrArg Teardown.run horigin).trans hid⟩
  cases System.transition_of_act hact with
  | failed hlock hid => cases hnamed; exact hwindow _ hid
  | attached hlock hid => cases hnamed; exact hwindow _ hid
  | sent hfind => cases hnamed; exact hreader hfind
  | readAgain hfind => cases hnamed; exact hreader hfind
  | readEnd hfind => cases hnamed; exact hreader hfind
  | readChunk hfind => cases hnamed; exact hreader hfind
  | announcedInVain hlock hfind => cases hnamed; exact hreader hfind
  | announced hlock hfind => cases hnamed; exact hreader hfind
  | reportedInVain hlock hid => cases hnamed; exact hreportable _ hid
  | reported hlock hid => cases hnamed; exact hreportable _ hid
  | tornDown hlock hfind => cases hnamed; exact hteardown hfind
  | _ => cases hnamed

theorem exists_action (h : Alike fork early system other)
    (hact : other.act action = .moved after) :
    ∃ origin : Action, origin.renumber fork = action := by
  cases hnamed : action.run? with
  | none => exact ⟨action, Action.renumber_of_run?_eq_none hnamed⟩
  | some id =>
      obtain ⟨run, rfl⟩ := h.exists_run hact hnamed
      exact Action.exists_renumber hnamed

theorem act (h : Alike fork early system other) (hlate : action.isEarly early = false)
    (hwaiters : ∀ inside, action = .dispose inside →
      other.waiters.all System.hasReturned = system.waiters.all System.hasReturned) :
    Move.Matches fork early (system.act action) (other.act (action.renumber fork)) := by
  rw [h.same]
  exact System.act_matches h.fork_le h.agree action hlate hwaiters

theorem replay (h : Alike fork early system other) (hdismissed : other.Dismissed early)
    (hall : system.actAll more = some final) :
    ∃ final', other.actAll ((late early more).map (Action.renumber fork)) = some final' ∧
      Alike fork early final final' := by
  induction more generalizing system other with
  | nil =>
      obtain rfl : system = final := by simpa [System.actAll] using hall
      exact ⟨other, rfl, h⟩
  | cons action more ih =>
      obtain ⟨next, hact, hall⟩ := System.actAll_cons.mp hall
      cases hearly : action.isEarly early with
      | true =>
          rw [late_cons_of_early hearly]
          exact ih (h.early_left hearly hact) hdismissed hall
      | false =>
          have hwaiters : ∀ inside, action = .dispose inside →
              other.waiters.all System.hasReturned = system.waiters.all System.hasReturned := by
            rintro inside rfl
            cases System.transition_of_act hact with
            | disposed hclosing hwindows hreturned =>
                rw [hreturned, h.agree.all_returned hdismissed hreturned]
          have hmatches := h.act hearly hwaiters
          rw [hact] at hmatches
          generalize hact' : other.act (action.renumber fork) = move at hmatches
          cases hmatches with
          | moved hnext =>
              have hlength := h.agree.symm.early_le
              obtain ⟨final', hall', hfinal⟩ := ih hnext (hdismissed.act hlength hact') hall
              refine ⟨final', ?_, hfinal⟩
              simpa only [late_cons_of_not_early hearly, List.map_cons, System.actAll, hact']
                using hall'

theorem origin (h : Alike fork early system other) (hdismissed : system.Dismissed early)
    (hall : other.actAll more = some final) :
    ∃ actions first, system.actAll actions = some first ∧
      actions.map (Action.renumber fork) = late early more ∧ Alike fork early first final := by
  induction more generalizing system other with
  | nil =>
      obtain rfl : other = final := by simpa [System.actAll] using hall
      exact ⟨[], system, rfl, rfl, h⟩
  | cons action more ih =>
      obtain ⟨next, hact, hmore⟩ := System.actAll_cons.mp hall
      cases hearly : action.isEarly early with
      | true =>
          rw [late_cons_of_early hearly]
          exact ih (h.early_right hearly hact) hdismissed hmore
      | false =>
          obtain ⟨action, rfl⟩ := h.exists_action hact
          have hearly' : action.isEarly early = false := by
            rw [← Action.isEarly_renumber fork, hearly]
          have hwaiters : ∀ inside, action = .dispose inside →
              other.waiters.all System.hasReturned = system.waiters.all System.hasReturned := by
            rintro inside rfl
            cases System.transition_of_act hact with
            | disposed hclosing hwindows hreturned =>
                rw [hreturned, h.agree.symm.all_returned hdismissed hreturned]
          have hmatches := h.act hearly' hwaiters
          rw [hact] at hmatches
          generalize hact' : system.act action = move at hmatches
          cases hmatches with
          | moved hnext =>
              obtain ⟨actions, first, hall', hlate, hfinal⟩ :=
                ih hnext (hdismissed.act h.agree.early_le hact') hmore
              refine ⟨action :: actions, first, ?_, ?_, hfinal⟩
              · simp only [System.actAll, hact', hall']
              · rw [late_cons_of_not_early hearly, List.map_cons, hlate]

end Alike

-- How the callers who wait can go away.

namespace System

-- Whoever waits may find that the time is up, having looked once.
theorem exists_expiry {waiter : Waiter} (hlock : system.lock = none)
    (hwaiter : system.waiters[index]? = some waiter) :
    ∃ leaving changed, system.actAll leaving = some (system.setWaiter index changed) ∧
      hasReturned changed = true ∧
      ∀ action ∈ leaving, action = .look index ∨ action = .expire index := by
  obtain ⟨target, phase⟩ := waiter
  have hlt : index < system.waiters.length := (List.getElem?_eq_some_iff.mp hwaiter).1
  cases phase with
  | returned reached =>
      refine ⟨[], ⟨target, .returned reached⟩, ?_, rfl, by simp⟩
      obtain ⟨hlt, hget⟩ := List.getElem?_eq_some_iff.mp hwaiter
      have hsame : system.waiters.set index ⟨target, .returned reached⟩ = system.waiters := by
        rw [← hget, List.set_getElem_self]
      rw [setWaiter, hsame]
      rfl
  | asleep | woken =>
      exact ⟨[.expire index], ⟨target, .returned (system.core.state = target)⟩,
        by simp [actAll, act, onExpire, isFree, hlock, hwaiter], rfl, by simp⟩
  | entering =>
      by_cases hstate : system.core.state = target
      · exact ⟨[.look index], ⟨target, .returned true⟩,
          by simp [actAll, act, onLook, isFree, hlock, hwaiter, hstate], rfl, by simp⟩
      · exact ⟨[.look index, .expire index], ⟨target, .returned false⟩,
          by simp [actAll, act, onLook, onExpire, setWaiter, isFree, hlock, hwaiter, hstate,
            List.getElem?_set_self hlt],
          rfl, by simp⟩

theorem exists_dismissal (hlock : system.lock = none) {count : Nat}
    (hcount : count ≤ system.waiters.length) :
    ∃ leaving waiters, system.actAll leaving = some { system with waiters := waiters } ∧
      (∀ action ∈ leaving, action.isEarly count = true) ∧
      Dismissed count { system with waiters := waiters } ∧
      AgreeFrom count system.waiters waiters := by
  induction count with
  | zero =>
      exact ⟨[], system.waiters, rfl, by simp, fun index waiter hindex => absurd hindex (by omega),
        .refl hcount⟩
  | succ count ih =>
      obtain ⟨leaving, waiters, hall, hearly, hdismissed, hagree⟩ := ih (by omega)
      have hlt : count < waiters.length := by
        rw [hagree.length]
        exact hcount
      let sooner : System := { system with waiters := waiters }
      have hwaiter : sooner.waiters[count]? = some waiters[count] := List.getElem?_eq_getElem hlt
      have hfree : sooner.lock = none := hlock
      obtain ⟨last, changed, hlast, hreturned, hsteps⟩ := exists_expiry hfree hwaiter
      refine ⟨leaving ++ last, waiters.set count changed, ?_, ?_, ?_, ?_⟩
      · rw [actAll_append hall, hlast]
        rfl
      · intro action hmem
        rcases List.mem_append.mp hmem with hmem | hmem
        · exact Action.isEarly_succ (hearly action hmem)
        · rcases hsteps action hmem with rfl | rfl <;> simp [Action.isEarly]
      · intro index waiter hindex hwaiter
        rcases Nat.lt_succ_iff_lt_or_eq.mp hindex with hbefore | rfl
        · rw [List.getElem?_set_ne (Nat.ne_of_gt hbefore)] at hwaiter
          exact hdismissed index waiter hbefore hwaiter
        · rw [List.getElem?_set_self hlt] at hwaiter
          cases hwaiter
          exact hreturned
      · exact (hagree.mono (Nat.le_succ count) hcount).set_right (Nat.lt_succ_self count) changed

end System

-- Whatever happens to one of two supervisors can happen to the other, once the
-- first callers have gone away from there.
structure Interchangeable (fork early : Nat) (system other : System) : Prop where
  onward : ∃ leaving, (∀ action ∈ leaving, action.isEarly early = true) ∧
    ∀ more final, system.actAll more = some final →
      ∃ last, other.actAll (leaving ++ (late early more).map (Action.renumber fork)) = some last ∧
        Alike fork early final last
  back : ∃ leaving, (∀ action ∈ leaving, action.isEarly early = true) ∧
    ∀ more last, other.actAll more = some last →
      ∃ actions final, system.actAll (leaving ++ actions) = some final ∧
        actions.map (Action.renumber fork) = late early more ∧ Alike fork early final last

namespace Alike

theorem interchangeable (h : Alike fork early system other) (hlock : system.lock = none) :
    Interchangeable fork early system other where
  onward := by
    have hfree : other.lock = none := by rw [h.same, System.renumber, hlock, Option.map_none]
    obtain ⟨leaving, waiters, hleaving, hearly, hdismissed, hagree⟩ :=
      System.exists_dismissal hfree h.agree.symm.early_le
    refine ⟨leaving, hearly, fun more final hall => ?_⟩
    rw [System.actAll_append hleaving]
    have hgone : Alike fork early system { other with waiters := waiters } :=
      ⟨h.fork_le, h.agree.trans hagree,
        congrArg (fun same : System => { same with waiters := waiters }) h.same⟩
    exact hgone.replay hdismissed hall
  back := by
    obtain ⟨leaving, waiters, hleaving, hearly, hdismissed, hagree⟩ :=
      System.exists_dismissal hlock h.agree.early_le
    refine ⟨leaving, hearly, fun more last hall => ?_⟩
    simp only [System.actAll_append hleaving]
    have hgone : Alike fork early { system with waiters := waiters } other :=
      ⟨h.fork_le, hagree.symm.trans h.agree, h.same⟩
    exact hgone.origin hdismissed hall

end Alike

end Overseer.Supervisor
