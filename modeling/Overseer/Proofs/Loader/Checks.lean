import Overseer.Options
import Overseer.Proofs.Loader.Spellings

namespace Overseer.Loader

-- The check before a spawn on a loader that others use as well. Between its two
-- calls they may name another home, and then that is where the runtime comes
-- from: the home that was named last decides.

variable {σ : Type} {opener : Opener σ} {loader after : Loader} {state next : σ}
  {runtime : Runtime}

-- The opener gives the library of the path that it is asked for.
def Opener.Faithful (opener : Opener σ) : Prop :=
  ∀ state path symbol runtime next,
    opener state path symbol = (.ok runtime, next) → runtime.path = path

-- What is kept was opened under the home that is set.
def KeptAtHome (loader : Loader) : Prop :=
  ∀ runtime, loader.loaded = some runtime →
    ∃ home, loader.home = some home ∧ runtime.path = home.join loader.layout.library

theorem keptAtHome_of_empty (h : loader.loaded = none) : loader.KeptAtHome := by
  simp [KeptAtHome, h]

-- An entry that is given out is the one that is kept from then on.
theorem loaded_of_entryPoint (h : loader.entryPoint opener state = (.ok runtime, after, next)) :
    after.loaded = some runtime := by
  cases hloaded : loader.loaded with
  | some kept =>
      simp only [entryPoint_of_loaded _ _ hloaded, Prod.mk.injEq, Except.ok.injEq] at h
      rw [← h.2.1, hloaded, h.1]
  | none =>
      cases hhome : loader.home with
      | none => simp [entryPoint_of_homeless _ _ hloaded hhome] at h
      | some home =>
          simp only [entryPoint_of_home _ _ hloaded hhome, Prod.mk.injEq] at h
          rw [← h.2.1, h.1]
          rfl

theorem KeptAtHome.entryPoint (h : loader.KeptAtHome) (hfaithful : opener.Faithful) (state : σ) :
    (loader.entryPoint opener state).2.1.KeptAtHome := by
  cases hloaded : loader.loaded with
  | some kept => rwa [entryPoint_of_loaded _ _ hloaded]
  | none =>
      cases hhome : loader.home with
      | none =>
          rw [entryPoint_of_homeless _ _ hloaded hhome]
          exact keptAtHome_of_empty hloaded
      | some home =>
          rw [entryPoint_of_home _ _ hloaded hhome]
          cases hanswer : (opener state (home.join loader.layout.library)
              loader.layout.symbol).1 with
          | error fault => exact keptAtHome_of_empty hloaded
          | ok opened =>
              intro runtime hruntime
              obtain rfl : opened = runtime := by simpa [keep] using hruntime
              exact ⟨home, hhome, hfaithful _ _ _ _ _ (Prod.ext hanswer rfl)⟩

theorem KeptAtHome.perform (h : loader.KeptAtHome) (hfaithful : opener.Faithful) (state : σ)
    (operation : Operation) : (perform opener state loader operation).2.1.KeptAtHome := by
  cases operation with
  | setHome | unload => exact keptAtHome_of_empty rfl
  | libraryPath => exact h
  | entryPoint => exact h.entryPoint hfaithful state
  | ensureHome home =>
      simp only [Loader.perform, Loader.ensureHome]
      split
      · exact h
      · exact keptAtHome_of_empty rfl

theorem KeptAtHome.performAll (h : loader.KeptAtHome) (hfaithful : opener.Faithful) (state : σ)
    (operations : List Operation) :
    (performAll opener state loader operations).2.1.KeptAtHome := by
  induction operations generalizing loader state with
  | nil => exact h
  | cons operation rest ih => exact ih (h.perform hfaithful state operation) _

-- The check and what others do amid it are calls one after the other.
theorem performAll_preflightAmid (opener : Opener σ) (state : σ) (loader : Loader) (home : Path)
    (between : List Operation) :
    (performAll opener state loader (.ensureHome home :: between ++ [.entryPoint])).2 =
      (preflightAmid opener state loader home between).2 := by
  rw [performAll_append]
  rfl

theorem lastNamed_preflightAmid (earlier home : Path) (between : List Operation) :
    lastNamed earlier (.ensureHome home :: between ++ [.entryPoint]) = lastNamed home between := by
  rw [lastNamed, List.foldl_append]
  rfl

-- Where the runtime came from that a check found.
structure Found (layout : Layout) (asked : Path) (between : List Operation) (runtime : Runtime)
    (after : Loader) : Prop where
  kept : after.loaded = some runtime
  origin : ∃ home, after.home = some home ∧
    home.components = (lastNamed asked between).components ∧
    runtime.path = home.join layout.library
  -- It is the runtime of the home that was asked for, in some spelling, if that
  -- is what was named last, and otherwise only if the library is in one place
  -- for all homes.
  asked_iff : (∃ home : Path, home.components = asked.components ∧
      runtime.path = home.join layout.library) ↔
    layout.library.isAbsolute = true ∨ (lastNamed asked between).components = asked.components
  undisturbed : (∀ operation ∈ between, ∀ home, operation.home? = some home →
      home.components = asked.components) →
    ∃ home : Path, home.components = asked.components ∧ runtime.path = home.join layout.library

theorem lastNamed_of_undisturbed {asked named : Path} {between : List Operation}
    (hnamed : named.components = asked.components)
    (h : ∀ operation ∈ between, ∀ home, operation.home? = some home →
      home.components = asked.components) :
    (lastNamed named between).components = asked.components := by
  induction between generalizing named with
  | nil => exact hnamed
  | cons operation rest ih =>
      refine ih ?_ fun other hother => h other (List.mem_cons_of_mem _ hother)
      cases hhome : operation.home? with
      | none => simpa [hhome] using hnamed
      | some home => simpa [hhome] using h operation List.mem_cons_self home hhome

-- Homes apart from each other have their libraries in different files.
theorem join_eq_iff {home asked : Path} (hhome : home.bytes ≠ []) (library : Path) :
    (∃ other : Path, other.components = asked.components ∧
        home.join library = other.join library) ↔
      library.isAbsolute = true ∨ home.components = asked.components := by
  constructor
  · rintro ⟨other, hother, hjoin⟩
    cases habsolute : library.isAbsolute with
    | true => exact .inl rfl
    | false =>
        have hnonempty : other.bytes ≠ [] := by
          intro hempty
          have hright : other.join library = library := by
            simp [Path.join, habsolute, hempty]
          exact Path.join_ne_right hhome habsolute (hjoin.trans hright)
        refine .inr ((Path.components_of_join_eq hhome hnonempty habsolute ?_).trans hother)
        rw [hjoin]
  · rintro (habsolute | hsame)
    · exact ⟨asked, rfl, by rw [Path.join_of_absolute habsolute, Path.join_of_absolute habsolute]⟩
    · exact ⟨home, hsame, rfl⟩

theorem found_of_preflightAmid {earlier asked : Path} {between : List Operation}
    (hfaithful : opener.Faithful) (hhome : loader.HomeIs earlier) (hkept : loader.KeptAtHome)
    (h : preflightAmid opener state loader asked between = (.ok runtime, after, next)) :
    Found loader.layout asked between runtime after := by
  have hcalls : (performAll opener state loader
      (.ensureHome asked :: between ++ [.entryPoint])).2.1 = after := by
    rw [performAll_preflightAmid, h]
  have hhomeAfter := hhome.performAll opener state (.ensureHome asked :: between ++ [.entryPoint])
  have hkeptAfter := hkept.performAll hfaithful state
    (.ensureHome asked :: between ++ [.entryPoint])
  have hlayout := layout_performAll opener state loader
    (.ensureHome asked :: between ++ [.entryPoint])
  rw [hcalls] at hhomeAfter hkeptAfter hlayout
  rw [lastNamed_preflightAmid] at hhomeAfter
  have hloaded : after.loaded = some runtime := loaded_of_entryPoint h
  obtain ⟨home, hset, hpath⟩ := hkeptAfter runtime hloaded
  obtain ⟨stored, hstored, hnamed⟩ := hhomeAfter
  obtain ⟨rfl, hnonempty⟩ := (configured_eq_some_iff stored home).mp (hstored.symm.trans hset)
  rw [hlayout] at hpath
  have hiff : (∃ other : Path, other.components = asked.components ∧
      runtime.path = other.join loader.layout.library) ↔
        loader.layout.library.isAbsolute = true ∨
          (lastNamed asked between).components = asked.components := by
    rw [hpath, join_eq_iff hnonempty, hnamed]
  exact ⟨hloaded, ⟨stored, hset, hnamed, hpath⟩, hiff,
    fun hundisturbed => hiff.mpr (.inr (lastNamed_of_undisturbed rfl hundisturbed))⟩

-- However others use the loader before the check and between its two calls.
theorem last_home_named_is_checked (hfaithful : opener.Faithful) (state : σ) (layout : Layout)
    (past between : List Operation) (options : Options)
    (h : preflightAmid opener (performAll opener state (new layout) past).2.2
        (performAll opener state (new layout) past).2.1 (Path.ofText options.runtimeHome) between =
      (.ok runtime, after, next)) :
    Found layout (Path.ofText options.runtimeHome) between runtime after := by
  have hfound := found_of_preflightAmid hfaithful
    ((homeIs_new layout).performAll opener state past)
    ((keptAtHome_of_empty rfl).performAll hfaithful state past) h
  rwa [layout_performAll] at hfound

def Opener.obliging : Opener Unit := fun state path _ => (.ok ⟨path, false⟩, state)

theorem faithful_obliging : Opener.obliging.Faithful := by
  rintro state path symbol runtime next hopen
  cases hopen
  rfl

-- Others load from a home of theirs before the check, and have another one set
-- for a while between its calls.

def contention : List Operation := [.setHome (Path.ofText "/x"), .entryPoint]

def interference : List Operation :=
  [.ensureHome (Path.ofText "/b"), .entryPoint, .ensureHome (Path.ofText "/a/"), .unload]

theorem last_home_named_is_checked_of_contended :
    Opener.obliging.Faithful ∧ ∃ runtime after,
      preflightAmid Opener.obliging
          (performAll Opener.obliging () (new .standard) contention).2.2
          (performAll Opener.obliging () (new .standard) contention).2.1
          (Path.ofText (Options.new "/a" "server.jar").runtimeHome) interference =
        (.ok runtime, after, ()) ∧
      runtime.path = Path.ofText "/a/lib/server/libjvm.so" ∧
      Found .standard (Path.ofText "/a") interference runtime after := by
  have hchecked : preflightAmid Opener.obliging
      (performAll Opener.obliging () (new .standard) contention).2.2
      (performAll Opener.obliging () (new .standard) contention).2.1
      (Path.ofText (Options.new "/a" "server.jar").runtimeHome) interference =
        (.ok ⟨(Path.ofText "/a/").join Layout.standard.library, false⟩,
          ⟨.standard, some (Path.ofText "/a/"),
            some ⟨(Path.ofText "/a/").join Layout.standard.library, false⟩⟩, ()) := rfl
  exact ⟨faithful_obliging, _, _, hchecked, by decide,
    last_home_named_is_checked faithful_obliging () .standard contention interference
      (Options.new "/a" "server.jar") hchecked⟩

-- A home set between the two calls: the check succeeds with the runtime of
-- another home than the one whose executable is spawned then.
theorem another_home_is_checked :
    Opener.obliging.Faithful ∧ ∃ runtime after,
      preflightAmid Opener.obliging () (new .standard)
          (Path.ofText (Options.new "/a" "server.jar").runtimeHome)
          [.setHome (Path.ofText "/b")] = (.ok runtime, after, ()) ∧
        runtime.path = Path.ofText "/b/lib/server/libjvm.so" ∧
        (¬ ∃ home : Path,
          home.components =
            (Path.ofText (Options.new "/a" "server.jar").runtimeHome).components ∧
          runtime.path = home.join Layout.standard.library) ∧
        (Options.new "/a" "server.jar").arguments.head? = some "/a/bin/java" := by
  have hchecked : preflightAmid Opener.obliging () (new .standard)
      (Path.ofText (Options.new "/a" "server.jar").runtimeHome) [.setHome (Path.ofText "/b")] =
        (.ok ⟨(Path.ofText "/b").join Layout.standard.library, false⟩,
          ⟨.standard, some (Path.ofText "/b"),
            some ⟨(Path.ofText "/b").join Layout.standard.library, false⟩⟩, ()) := rfl
  refine ⟨faithful_obliging, _, _, hchecked, by decide, ?_, by decide⟩
  rw [join_eq_iff (by decide) Layout.standard.library]
  decide

end Overseer.Loader
