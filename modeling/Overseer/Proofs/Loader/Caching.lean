import Overseer.Proofs.Loader.Exchanges

namespace Overseer.Loader

-- Which library a loader keeps: the one that the last opening gave, unless
-- something let go of it since.

variable {σ : Type}

namespace Exchange

def releases (exchange : Exchange) : Bool :=
  match exchange.operation, exchange.outcome with
  | .setHome _, _ | .unload, _ => true
  | .ensureHome _, .changed changed => changed
  | _, _ => false

def Opens (exchange : Exchange) : Prop :=
  ∃ attempt ∈ exchange.attempts, ∃ runtime, attempt.answer = .ok runtime

end Exchange

-- Some opening succeeded and nothing was let go of since.
def Unreleased (past : List Exchange) : Prop :=
  ∃ earlier exchange later, past = earlier ++ exchange :: later ∧ exchange.Opens ∧
    ∀ other ∈ later, other.releases = false

-- The library was opened under this home, in this spelling, and both stand.
def OpenedUnder (layout : Layout) (home : Path) (runtime : Runtime) (past : List Exchange) : Prop :=
  ∃ earlier exchange later, past = earlier ++ exchange :: later ∧
    exchange.attempts = [⟨home.join layout.library, layout.symbol, .ok runtime⟩] ∧
    ∀ other ∈ later, other.releases = false ∧ other.after.home = some home

theorem OpenedUnder.unreleased {layout : Layout} {home : Path} {runtime : Runtime}
    {past : List Exchange} (h : OpenedUnder layout home runtime past) : Unreleased past := by
  obtain ⟨earlier, exchange, later, hpast, hattempts, hlater⟩ := h
  refine ⟨earlier, exchange, later, hpast, ?_, fun other hother => (hlater other hother).1⟩
  exact ⟨_, by rw [hattempts]; exact List.mem_singleton_self _, runtime, rfl⟩

-- What a loader keeps, seen from the calls that were made.
structure Kept (layout : Layout) (past : List Exchange) (loader : Loader) : Prop where
  ofLayout : loader.layout = layout
  opened : ∀ runtime, loader.loaded = some runtime →
    ∃ home, loader.home = some home ∧ OpenedUnder layout home runtime past
  unreleased : Unreleased past → loader.loaded ≠ none

namespace Kept

variable {layout : Layout} {past : List Exchange} {loader : Loader} {exchange : Exchange}

theorem initial (layout : Layout) : Kept layout [] (new layout) := by
  refine ⟨rfl, by simp [new], ?_⟩
  rintro ⟨earlier, exchange, later, hpast, -⟩
  simp at hpast

theorem unreleased_concat (h : Unreleased (past ++ [exchange])) :
    exchange.Opens ∨ Unreleased past ∧ exchange.releases = false := by
  obtain ⟨earlier, opening, later, hpast, hopens, hlater⟩ := h
  rcases List.eq_nil_or_concat later with rfl | ⟨between, last, rfl⟩
  · have hlast : exchange = opening := by simpa using congrArg List.getLast? hpast
    exact .inl (hlast ▸ hopens)
  · rw [List.concat_eq_append, ← List.cons_append, ← List.append_assoc] at hpast
    obtain ⟨hfront, hlast⟩ := List.append_inj' hpast rfl
    obtain rfl : exchange = last := by simpa using hlast
    refine .inr ⟨⟨earlier, opening, between, hfront, hopens, fun other hother => ?_⟩, ?_⟩
    · exact hlater other (by simp [hother])
    · exact hlater exchange (by simp)

-- A call that lets go leaves nothing behind.
theorem emptied (h : Kept layout past loader) (hlayout : exchange.after.layout = loader.layout)
    (hloaded : exchange.after.loaded = none) (hreleases : exchange.releases = true)
    (hattempts : exchange.attempts = []) : Kept layout (past ++ [exchange]) exchange.after where
  ofLayout := hlayout.trans h.ofLayout
  opened := by simp [hloaded]
  unreleased := by
    intro hunreleased
    rcases unreleased_concat hunreleased with ⟨attempt, hattempt, -⟩ | ⟨-, hkeeps⟩
    · simp [hattempts] at hattempt
    · simp [hreleases] at hkeeps

theorem idle (h : Kept layout past loader) (hafter : exchange.after = loader)
    (hreleases : exchange.releases = false) (hopens : ¬ exchange.Opens) :
    Kept layout (past ++ [exchange]) exchange.after where
  ofLayout := hafter ▸ h.ofLayout
  opened := by
    rw [hafter]
    intro runtime hloaded
    obtain ⟨home, hhome, earlier, opening, later, hpast, hattempts, hlater⟩ :=
      h.opened runtime hloaded
    refine ⟨home, hhome, earlier, opening, later ++ [exchange], by simp [hpast], hattempts, ?_⟩
    intro other hother
    rcases List.mem_append.mp hother with hother | hother
    · exact hlater other hother
    · rw [List.mem_singleton.mp hother, hafter]
      exact ⟨hreleases, hhome⟩
  unreleased := by
    rw [hafter]
    intro hunreleased
    rcases unreleased_concat hunreleased with hopened | ⟨hearlier, -⟩
    · exact absurd hopened hopens
    · exact h.unreleased hearlier

theorem concat (h : Kept layout past exchange.before) (hserved : exchange.Served) :
    Kept layout (past ++ [exchange]) exchange.after := by
  obtain ⟨before, operation, outcome, attempts, after⟩ := exchange
  simp only [Exchange.Served] at hserved
  cases hserved with
  | rehomed | unloaded => exact h.emptied rfl rfl rfl rfl
  | moved => exact h.emptied rfl rfl rfl rfl
  | stayed | reused | homeless | told => exact h.idle rfl rfl (by simp [Exchange.Opens])
  | refused => exact h.idle rfl rfl (by simp [Exchange.Opens])
  | @opened home runtime hloaded hhome =>
      refine ⟨h.ofLayout, ?_, by simp⟩
      rintro other hother
      obtain rfl : runtime = other := by simpa using hother
      exact ⟨home, hhome, past, _, [], rfl, by rw [h.ofLayout], by simp⟩

theorem exchanges (h : Kept layout past loader) (opener : Opener σ) (state : σ)
    (operations : List Operation) :
    Kept layout (past ++ Loader.exchanges opener state loader operations)
      (performAll opener state loader operations).2.1 := by
  induction operations generalizing past loader state with
  | nil => simpa [Loader.exchanges, performAll] using h
  | cons operation rest ih =>
      have hnext := concat h (served opener state loader operation)
      rw [after_exchange] at hnext
      have hrest := ih hnext (perform opener state loader operation).2.2
      simpa only [Loader.exchanges, performAll, List.append_assoc, List.singleton_append]
        using hrest

end Kept

theorem sameHome_none {home : Option Path} (h : sameHome home none = true) : home = none := by
  cases home with
  | none => rfl
  | some home => cases h

-- How a request for the entry point is answered, by what it finds.
structure Exchange.Resolved (layout : Layout) (exchange : Exchange) : Prop where
  reused : ∀ runtime, exchange.before.loaded = some runtime →
    exchange.outcome = .entry runtime ∧ exchange.attempts = [] ∧
      exchange.after = exchange.before
  homeless : exchange.before.loaded = none → exchange.before.home = none →
    exchange.outcome = .failed .homeNotSet ∧ exchange.attempts = [] ∧
      exchange.after = exchange.before
  asked : ∀ home, exchange.before.loaded = none → exchange.before.home = some home →
    ∃ path answer, exchange.before.libraryPath = .ok path ∧ path = home.join layout.library ∧
      exchange.attempts = [⟨path, layout.symbol, answer⟩] ∧
      exchange.outcome = .ofEntry answer ∧ exchange.after = exchange.before.keep answer

theorem Exchange.Served.resolved {exchange : Exchange} (h : exchange.Served)
    (hentry : exchange.operation = .entryPoint) : exchange.Resolved exchange.before.layout := by
  obtain ⟨before, operation, outcome, attempts, after⟩ := exchange
  simp only [Exchange.Served] at h
  obtain rfl : operation = .entryPoint := hentry
  cases h with
  | @reused runtime hloaded =>
      refine ⟨?_, by simp [hloaded], by simp [hloaded]⟩
      intro other hother
      obtain rfl : runtime = other := by simpa [hloaded] using hother
      exact ⟨rfl, rfl, rfl⟩
  | homeless hloaded hhome =>
      exact ⟨by simp [hloaded], fun _ _ => ⟨rfl, rfl, rfl⟩, by simp [hhome]⟩
  | @opened home runtime hloaded hhome =>
      refine ⟨by simp [hloaded], by simp [hhome], ?_⟩
      intro other _ hother
      obtain rfl : home = other := by simpa [hhome] using hother
      exact ⟨_, .ok runtime, libraryPath_eq_ok hhome, rfl, rfl, rfl, rfl⟩
  | @refused home fault hloaded hhome =>
      refine ⟨by simp [hloaded], by simp [hhome], ?_⟩
      intro other _ hother
      obtain rfl : home = other := by simpa [hhome] using hother
      exact ⟨_, .error fault, libraryPath_eq_ok hhome, rfl, rfl, rfl, rfl⟩

theorem Exchange.Resolved.again {layout : Layout} {first second : Exchange}
    (hfirst : first.Resolved layout) (hsecond : second.Resolved layout)
    (hchain : second.before = first.after) {attempt : Attempt}
    (hattempt : attempt ∈ first.attempts) {fault : LoadFault}
    (hfault : attempt.answer = .error fault) : second.attempts.length = 1 := by
  cases hloaded : first.before.loaded with
  | some runtime => simp [(hfirst.reused runtime hloaded).2.1] at hattempt
  | none =>
      cases hhome : first.before.home with
      | none => simp [(hfirst.homeless hloaded hhome).2.1] at hattempt
      | some home =>
          obtain ⟨path, answer, -, -, hattempts, -, hafter⟩ := hfirst.asked home hloaded hhome
          rw [hattempts, List.mem_singleton] at hattempt
          obtain rfl : answer = .error fault := by simpa [hattempt] using hfault
          -- The failure left the loader as it was.
          have hsame : second.before = first.before := hchain.trans hafter
          rw [← hsame] at hloaded hhome
          obtain ⟨_, _, -, -, hagain, -⟩ := hsecond.asked home hloaded hhome
          rw [hagain, List.length_singleton]

namespace Exchange.Served

variable {exchange : Exchange}

theorem silent (h : exchange.Served) (hother : exchange.operation ≠ .entryPoint) :
    exchange.attempts = [] := by
  obtain ⟨before, operation, outcome, attempts, after⟩ := exchange
  simp only [Exchange.Served] at h
  cases h <;> first | rfl | exact absurd rfl hother

theorem told (h : exchange.Served) (hlook : exchange.operation = .libraryPath) :
    exchange.outcome = .ofPath exchange.before.libraryPath ∧ exchange.after = exchange.before := by
  obtain ⟨before, operation, outcome, attempts, after⟩ := exchange
  simp only [Exchange.Served] at h
  obtain rfl : operation = .libraryPath := hlook
  cases h
  exact ⟨rfl, rfl⟩

theorem cleared (h : exchange.Served) {home : Path} (hempty : home.bytes = [])
    (hclears : exchange.operation = .setHome home ∨ exchange.operation = .ensureHome home) :
    exchange.after.home = none := by
  have hconfigured : configured home = none := by simp [configured, hempty]
  obtain ⟨before, operation, outcome, attempts, after⟩ := exchange
  simp only [Exchange.Served] at h
  obtain rfl | rfl : operation = .setHome home ∨ operation = .ensureHome home := hclears
  · cases h
    exact hconfigured
  · cases h with
    | moved => exact hconfigured
    | stayed hsame => exact sameHome_none (hconfigured ▸ hsame)

end Exchange.Served

structure Coherent (layout : Layout) (past : List Exchange) (loader : Loader) : Prop where
  kept : loader.loaded ≠ none ↔ Unreleased past
  opened : ∀ runtime, loader.loaded = some runtime →
    ∃ home, loader.home = some home ∧ OpenedUnder layout home runtime past
  resolved : ∀ exchange ∈ past, exchange.operation = .entryPoint → exchange.Resolved layout
  -- After a failure the opener is asked again.
  retried : ∀ earlier first second later, past = earlier ++ first :: second :: later →
    first.operation = .entryPoint → second.operation = .entryPoint →
    (∃ attempt ∈ first.attempts, ∃ fault, attempt.answer = .error fault) →
    second.attempts.length = 1
  -- Nobody else asks the opener, and whoever only looks changes nothing.
  silent : ∀ exchange ∈ past, exchange.operation ≠ .entryPoint → exchange.attempts = []
  told : ∀ exchange ∈ past, exchange.operation = .libraryPath →
    exchange.outcome = .ofPath exchange.before.libraryPath ∧ exchange.after = exchange.before
  cleared : ∀ exchange ∈ past, ∀ home : Path, home.bytes = [] →
    exchange.operation = .setHome home ∨ exchange.operation = .ensureHome home →
    exchange.after.home = none

-- Whatever the opener does, every sequence of calls leaves the library that was
-- opened for the home which is still set, or none.
theorem cache_is_coherent (opener : Opener σ) (state : σ) (layout : Layout)
    (operations : List Operation) :
    (exchanges opener state (new layout) operations).map Exchange.operation = operations ∧
      (exchanges opener state (new layout) operations).map Exchange.outcome =
        (performAll opener state (new layout) operations).1 ∧
      Coherent layout (exchanges opener state (new layout) operations)
        (performAll opener state (new layout) operations).2.1 := by
  have hkept := (Kept.initial layout).exchanges opener state operations
  rw [List.nil_append] at hkept
  have hresolved : ∀ exchange ∈ exchanges opener state (new layout) operations,
      exchange.operation = .entryPoint → exchange.Resolved layout := by
    intro exchange hmem hentry
    obtain ⟨hserved, hlayout⟩ := served_of_mem hmem
    have hexchange := hserved.resolved hentry
    rwa [hlayout] at hexchange
  refine ⟨operations_exchanges opener state _ operations,
    outcomes_exchanges opener state _ operations, ⟨?_, hkept.unreleased⟩, hkept.opened, hresolved,
    ?_, ?_, ?_, ?_⟩
  · intro hsome
    obtain ⟨runtime, hloaded⟩ := Option.ne_none_iff_exists'.mp hsome
    obtain ⟨home, -, hopened⟩ := hkept.opened runtime hloaded
    exact hopened.unreleased
  · rintro earlier first second later hpast hfirst hsecond ⟨attempt, hattempt, fault, hfault⟩
    have hone := hresolved first (by simp [hpast]) hfirst
    have htwo := hresolved second (by simp [hpast]) hsecond
    exact hone.again htwo (before_eq_after hpast) hattempt hfault
  · exact fun exchange hmem => (served_of_mem hmem).1.silent
  · exact fun exchange hmem => (served_of_mem hmem).1.told
  · exact fun exchange hmem home => (served_of_mem hmem).1.cleared

end Overseer.Loader
