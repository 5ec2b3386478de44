import Overseer.Proofs.Loader.Spellings

namespace Overseer.Loader

-- The check before a spawn on a loader that nobody else uses: a library that is
-- kept for the home is taken, and otherwise one is asked for.

variable {σ : Type} {opener : Opener σ} {state : σ} {loader : Loader} {named home : Path}

-- A library is kept and this is the home that is set, in some spelling.
def CachedFor (loader : Loader) (home : Path) : Prop :=
  loader.loaded ≠ none ∧ ∃ stored, loader.home = some stored ∧ stored.components = home.components

-- The ways in which the check for a home can go.
inductive Checked (loader : Loader) (home : Path) :
    Except LoadFault Runtime → List Attempt → Loader → Prop
  | homeless : home.bytes = [] → Checked loader home (.error .homeNotSet) [] (new loader.layout)
  | reused {runtime : Runtime} :
      home.bytes ≠ [] → loader.CachedFor home → loader.loaded = some runtime →
      Checked loader home (.ok runtime) [] loader
  -- An earlier spelling of the home stays.
  | asked {stored : Path} {answer : Except LoadFault Runtime} :
      home.bytes ≠ [] → ¬ loader.CachedFor home → stored.components = home.components →
      loader.home = some stored ∨ stored = home →
      Checked loader home answer
        [⟨stored.join loader.layout.library, loader.layout.symbol, answer⟩]
        (Loader.keep ⟨loader.layout, some stored, none⟩ answer)

theorem HomeIs.cachedFor_iff (h : loader.HomeIs named)
    (hset : loader.home = none → loader.loaded = none) :
    loader.CachedFor home ↔ loader.loaded ≠ none ∧ named.components = home.components := by
  obtain ⟨stored, hhome, hnamed⟩ := h
  rw [← hnamed]
  constructor
  · rintro ⟨hloaded, other, hother, hcomponents⟩
    obtain ⟨rfl, -⟩ := (configured_eq_some_iff stored other).mp (hhome.symm.trans hother)
    exact ⟨hloaded, hcomponents⟩
  · rintro ⟨hloaded, hcomponents⟩
    obtain ⟨other, hother⟩ := Option.ne_none_iff_exists'.mp (mt hset hloaded)
    obtain ⟨rfl, -⟩ := (configured_eq_some_iff stored other).mp (hhome.symm.trans hother)
    exact ⟨hloaded, stored, hother, hcomponents⟩

theorem preflight_eq (opener : Opener σ) (state : σ) (loader : Loader) (home : Path) :
    preflight opener state loader home = (loader.ensureHome home).2.entryPoint opener state := rfl

-- Remembering changes nothing else.
theorem preflight_recorded {answer : Except LoadFault Runtime} {after : Loader} {next : σ}
    (h : preflight opener state loader home = (answer, after, next)) :
    ∃ attempts, preflight opener.recorded (state, []) loader home =
      (answer, after, next, attempts) := by
  rw [preflight_eq] at h ⊢
  generalize (loader.ensureHome home).2 = ready at h ⊢
  cases hloaded : ready.loaded with
  | some runtime =>
      simp only [entryPoint_of_loaded _ _ hloaded, Prod.mk.injEq] at h ⊢
      exact ⟨[], h.1, h.2.1, h.2.2, rfl⟩
  | none =>
      cases hhome : ready.home with
      | none =>
          simp only [entryPoint_of_homeless _ _ hloaded hhome, Prod.mk.injEq] at h ⊢
          exact ⟨[], h.1, h.2.1, h.2.2, rfl⟩
      | some stored =>
          simp only [entryPoint_of_home _ _ hloaded hhome, Prod.mk.injEq] at h ⊢
          exact ⟨_, h.1, h.2.1, Prod.ext h.2.2 rfl⟩

-- Where nothing is kept, the loader comes down to its layout and its home.
theorem eq_of_unloaded (hloaded : loader.loaded = none) :
    loader = ⟨loader.layout, loader.home, none⟩ := by
  rw [← hloaded]

theorem asked_of_home {stored : Path} (hloaded : loader.loaded = none)
    (hhome : loader.home = some stored) :
    ∃ answer next, loader.entryPoint opener.recorded (state, []) =
      (answer, Loader.keep ⟨loader.layout, some stored, none⟩ answer, next,
        [⟨stored.join loader.layout.library, loader.layout.symbol, answer⟩]) := by
  rw [entryPoint_of_home _ _ hloaded hhome, ← hhome, ← eq_of_unloaded hloaded]
  exact ⟨_, _, rfl⟩

theorem homeless_of_unset (hloaded : loader.loaded = none) (hhome : loader.home = none) :
    loader.entryPoint opener.recorded (state, []) =
      (.error .homeNotSet, new loader.layout, state, []) := by
  rw [entryPoint_of_homeless _ _ hloaded hhome, new, ← hhome, ← eq_of_unloaded hloaded]

theorem checked (hhome : loader.HomeIs named) (hset : loader.home = none → loader.loaded = none)
    (opener : Opener σ) (state : σ) (home : Path) :
    ∃ answer after next attempts,
      preflight opener.recorded (state, []) loader home = (answer, after, next, attempts) ∧
        Checked loader home answer attempts after := by
  rw [preflight_eq]
  by_cases hsame : named.components = home.components
  · rw [ensureHome_of_same hhome hsame]
    by_cases hempty : home.bytes = []
    · have hhomeless := hhome.home_eq_none_iff.mpr
        ((Path.bytes_eq_nil_iff_of_components hsame).mpr hempty)
      exact ⟨_, _, _, _, homeless_of_unset (hset hhomeless) hhomeless, .homeless hempty⟩
    · obtain ⟨stored, hstored, -, hcomponents⟩ :=
        hhome.exists_home (mt (Path.bytes_eq_nil_iff_of_components hsame).mp hempty)
      cases hloaded : loader.loaded with
      | some runtime =>
          refine ⟨.ok runtime, loader, state, [], ?_, .reused hempty ?_ hloaded⟩
          · exact entryPoint_of_loaded _ _ hloaded
          · exact (hhome.cachedFor_iff hset).mpr ⟨by simp [hloaded], hsame⟩
      | none =>
          obtain ⟨answer, next, hanswer⟩ := asked_of_home hloaded hstored
          exact ⟨_, _, _, _, hanswer,
            .asked hempty (fun hcached => hcached.1 hloaded) (hcomponents.trans hsame)
              (.inl hstored)⟩
  · rw [ensureHome_of_other hhome hsame]
    by_cases hempty : home.bytes = []
    · exact ⟨_, _, _, _, homeless_of_unset rfl (configured_of_empty hempty),
        .homeless hempty⟩
    · obtain ⟨answer, next, hanswer⟩ := asked_of_home
        (show (loader.setHome home).loaded = none from rfl) (configured_of_nonempty hempty)
      refine ⟨_, _, _, _, hanswer, .asked hempty (fun hcached => ?_) rfl (.inr rfl)⟩
      exact hsame ((hhome.cachedFor_iff hset).mp hcached).2

end Overseer.Loader
