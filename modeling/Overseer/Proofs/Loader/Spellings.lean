import Overseer.Proofs.Loader.Caching
import Overseer.Proofs.Path.Components

namespace Overseer.Loader

-- A home may be spelled in many ways. What is loaded is kept as long as the
-- spellings have the same components, and then it is what the new spelling
-- leads to.

variable {σ : Type} {loader : Loader} {named : Path}

theorem configured_of_empty {home : Path} (h : home.bytes = []) : configured home = none := by
  simp [configured, h]

theorem configured_of_nonempty {home : Path} (h : home.bytes ≠ []) :
    configured home = some home := by
  simp [configured, h]

theorem configured_eq_some_iff (home stored : Path) :
    configured home = some stored ↔ home = stored ∧ home.bytes ≠ [] := by
  simp [configured, and_comm]

-- An unset home is the same as no other, and only the empty path has no
-- components.
theorem sameHome_configured_iff (stored asked : Path) :
    sameHome (configured stored) (configured asked) = true ↔
      stored.components = asked.components := by
  by_cases hstored : stored.bytes = []
  · rw [configured_of_empty hstored, (Path.components_eq_nil_iff stored).mpr hstored]
    by_cases hasked : asked.bytes = []
    · rw [configured_of_empty hasked, (Path.components_eq_nil_iff asked).mpr hasked]
      simp [sameHome]
    · rw [configured_of_nonempty hasked, eq_comm (a := []), Path.components_eq_nil_iff]
      simp [sameHome, hasked]
  · rw [configured_of_nonempty hstored]
    by_cases hasked : asked.bytes = []
    · rw [configured_of_empty hasked, (Path.components_eq_nil_iff asked).mpr hasked,
        Path.components_eq_nil_iff]
      simp [sameHome, hstored]
    · rw [configured_of_nonempty hasked]
      exact Path.same_iff stored asked

-- The home that is set is the one that was named, in some spelling.
def HomeIs (loader : Loader) (named : Path) : Prop :=
  ∃ stored, loader.home = configured stored ∧ stored.components = named.components

theorem homeIs_new (layout : Layout) : (new layout).HomeIs ⟨[]⟩ := ⟨⟨[]⟩, rfl, rfl⟩

theorem homeIs_setHome (loader : Loader) (home : Path) : (loader.setHome home).HomeIs home :=
  ⟨home, rfl, rfl⟩

theorem HomeIs.home_eq_none_iff (h : loader.HomeIs named) :
    loader.home = none ↔ named.bytes = [] := by
  obtain ⟨stored, hhome, hcomponents⟩ := h
  rw [hhome, ← Path.bytes_eq_nil_iff_of_components hcomponents]
  simp [configured]

theorem HomeIs.exists_home (h : loader.HomeIs named) (hnamed : named.bytes ≠ []) :
    ∃ stored, loader.home = some stored ∧ stored.bytes ≠ [] ∧
      stored.components = named.components := by
  obtain ⟨stored, hhome, hcomponents⟩ := h
  have hstored : stored.bytes ≠ [] := mt (Path.bytes_eq_nil_iff_of_components hcomponents).mp hnamed
  exact ⟨stored, hhome.trans (configured_of_nonempty hstored), hstored, hcomponents⟩

theorem HomeIs.sameHome_iff (h : loader.HomeIs named) (asked : Path) :
    sameHome loader.home (configured asked) = true ↔ named.components = asked.components := by
  obtain ⟨stored, hhome, hcomponents⟩ := h
  rw [hhome, sameHome_configured_iff, hcomponents]

-- The two ways in which asking for a home can go.

theorem ensureHome_of_same (h : loader.HomeIs named) {asked : Path}
    (hsame : named.components = asked.components) : loader.ensureHome asked = (false, loader) := by
  simp [ensureHome, (h.sameHome_iff asked).mpr hsame]

theorem ensureHome_of_other (h : loader.HomeIs named) {asked : Path}
    (hother : named.components ≠ asked.components) :
    loader.ensureHome asked = (true, loader.setHome asked) := by
  have hdiffers : ¬ sameHome loader.home (configured asked) = true := by
    rwa [h.sameHome_iff]
  simp [ensureHome, hdiffers]

theorem HomeIs.ensureHome (h : loader.HomeIs named) (asked : Path) :
    (loader.ensureHome asked).2.HomeIs asked := by
  by_cases hsame : named.components = asked.components
  · obtain ⟨stored, hhome, hcomponents⟩ := h
    rw [ensureHome_of_same ⟨stored, hhome, hcomponents⟩ hsame]
    exact ⟨stored, hhome, hcomponents.trans hsame⟩
  · rw [ensureHome_of_other h hsame]
    exact homeIs_setHome loader asked

-- The home that a call names.
def Operation.home? : Operation → Option Path
  | setHome home | ensureHome home => some home
  | _ => none

-- The home that was named last, in these calls or before them.
def lastNamed (named : Path) (operations : List Operation) : Path :=
  operations.foldl (fun named operation => operation.home?.getD named) named

theorem home_entryPoint (opener : Opener σ) (state : σ) (loader : Loader) :
    (loader.entryPoint opener state).2.1.home = loader.home := by
  cases hloaded : loader.loaded with
  | some runtime => rw [entryPoint_of_loaded _ _ hloaded]
  | none =>
      cases hhome : loader.home with
      | none => rw [entryPoint_of_homeless _ _ hloaded hhome, hhome]
      | some home => rw [entryPoint_of_home _ _ hloaded hhome, home_keep, hhome]

theorem HomeIs.perform (h : loader.HomeIs named) (opener : Opener σ) (state : σ)
    (operation : Operation) :
    (perform opener state loader operation).2.1.HomeIs (operation.home?.getD named) := by
  cases operation with
  | setHome home => exact homeIs_setHome loader home
  | ensureHome home => exact h.ensureHome home
  | unload | libraryPath => exact h
  | entryPoint =>
      obtain ⟨stored, hhome, hcomponents⟩ := h
      exact ⟨stored, (home_entryPoint opener state loader).trans hhome, hcomponents⟩

theorem HomeIs.performAll (h : loader.HomeIs named) (opener : Opener σ) (state : σ)
    (operations : List Operation) :
    (performAll opener state loader operations).2.1.HomeIs (lastNamed named operations) := by
  induction operations generalizing loader named state with
  | nil => exact h
  | cons operation rest ih => exact ih (h.perform opener state operation) _

-- Asking for a home where this one is stored.
structure Spared (loader : Loader) (stored asked : Path) : Prop where
  unchanged_iff : (loader.ensureHome asked).1 = false ↔
    stored.bytes = [] ∧ asked.bytes = [] ∨
      stored.bytes ≠ [] ∧ asked.bytes ≠ [] ∧ stored.components = asked.components
  untouched : (loader.ensureHome asked).1 = false →
    (loader.ensureHome asked).2 = loader ∧
      (asked.join loader.layout.library).components =
        (stored.join loader.layout.library).components
  replaced : (loader.ensureHome asked).1 = true →
    (loader.ensureHome asked).2.loaded = none ∧
      (loader.ensureHome asked).2.home = if asked.bytes = [] then none else some asked
  again : ∀ other : Path, other.components = asked.components →
    (loader.ensureHome asked).2.ensureHome other = (false, (loader.ensureHome asked).2)

theorem unchanged_iff_components (h : loader.HomeIs named) (asked : Path) :
    (loader.ensureHome asked).1 = false ↔ named.components = asked.components := by
  by_cases hsame : named.components = asked.components
  · simp [ensureHome_of_same h hsame, hsame]
  · simp [ensureHome_of_other h hsame, hsame]

theorem spared {stored : Path} (h : loader.home = configured stored) (asked : Path) :
    Spared loader stored asked := by
  have hhome : loader.HomeIs stored := ⟨stored, h, rfl⟩
  refine ⟨?_, fun hunchanged => ?_, fun hchanged => ?_, fun other hother => ?_⟩
  · exact (unchanged_iff_components hhome asked).trans (Path.components_eq_iff stored asked)
  · have hsame := (unchanged_iff_components hhome asked).mp hunchanged
    exact ⟨by rw [ensureHome_of_same hhome hsame], Path.components_join_congr hsame.symm _⟩
  · have hother : stored.components ≠ asked.components := by
      intro hsame
      simp [ensureHome_of_same hhome hsame] at hchanged
    rw [ensureHome_of_other hhome hother]
    exact ⟨rfl, by simp [setHome, configured]⟩
  · exact ensureHome_of_same (hhome.ensureHome asked) hother.symm

-- Whatever is stored and however the home is spelled that is asked for. In a
-- loader that was used before, what is kept was opened where the new spelling
-- leads to.
theorem skipped_reload_is_safe (opener : Opener σ) (state : σ) (layout : Layout)
    (loaded : Option Runtime) (stored asked : Path) (operations : List Operation) :
    Spared ⟨layout, configured stored, loaded⟩ stored asked ∧
      let used := (performAll opener state (new layout) operations).2.1
      ∃ home, used.home = configured home ∧ Spared used home asked ∧
        ∀ runtime, used.loaded = some runtime → (used.ensureHome asked).1 = false →
          OpenedUnder layout home runtime (exchanges opener state (new layout) operations) ∧
            (asked.join layout.library).components = (home.join layout.library).components := by
  refine ⟨spared rfl asked, ?_⟩
  obtain ⟨home, hhome, -⟩ := (homeIs_new layout).performAll opener state operations
  have hkept := (Kept.initial layout).exchanges opener state operations
  rw [List.nil_append] at hkept
  refine ⟨home, hhome, spared hhome asked, fun runtime hloaded hunchanged => ?_⟩
  obtain ⟨under, hunder, hopened⟩ := hkept.opened runtime hloaded
  obtain ⟨rfl, -⟩ := (configured_eq_some_iff home under).mp (hhome.symm.trans hunder)
  refine ⟨hopened, ?_⟩
  have hjoined := ((spared hhome asked).untouched hunchanged).2
  rwa [hkept.ofLayout] at hjoined

end Overseer.Loader
