import Mathlib.Data.List.Induction
import Overseer.Proofs.Loader.Locking

namespace Overseer.Loader.Sharing

-- A shared loader over a whole run. An entry that was handed out keeps its
-- library, and as long as nothing is let go of there is one library for all.

variable {σ : Type}

structure Step (σ : Type) where
  before : Sharing σ
  turn : Turn
  after : Sharing σ

-- The steps of any number of calls, in any order that the lock allows.
inductive Interleaving (opener : Opener σ) (origin : Sharing σ) :
    List (Step σ) → Sharing σ → Prop
  | start : Interleaving opener origin [] origin
  | step {steps : List (Step σ)} {before after : Sharing σ} {turn : Turn} :
      Interleaving opener origin steps before → before.act opener turn = some after →
      Interleaving opener origin (steps ++ [⟨before, turn, after⟩]) after

namespace Step

def releases (step : Step σ) : Bool :=
  match step.before.calls[step.turn.index]? with
  | some (call, .writing) => call ≠ .entryPoint
  | _ => false

def handedOut (step : Step σ) : Option Runtime :=
  match step.before.calls[step.turn.index]?, step.after.calls[step.turn.index]? with
  | some (_, .reading), some (_, .holding runtime) => some runtime
  | _, _ => none

def opened (step : Step (σ × List Attempt)) : List Runtime :=
  (step.after.opening.2.drop step.before.opening.2.length).filterMap fun attempt =>
    attempt.answer.toOption

end Step

-- A call that came to change the loader and has done so.
def hasAltered : Call × Stage → Bool
  | (.setHome _, .finished _) | (.unload, .finished _) => true
  | (.ensureHome _, .finished (.changed changed)) => changed
  | _ => false

-- The loader stays as it is, nothing is asked of the opener, and nobody who
-- came to change the loader has done so in the meantime.
structure Preserved (sharing after : Sharing σ) : Prop where
  loader : after.loader = sharing.loader
  opening : after.opening = sharing.opening
  unaltered : ∀ (other : Nat) (entry : Call × Stage), after.calls[other]? = some entry →
    hasAltered entry = true → sharing.calls[other]? = some entry

theorem Preserved.refl (sharing : Sharing σ) : Preserved sharing sharing :=
  ⟨rfl, rfl, fun _ _ hentry _ => hentry⟩

theorem Preserved.trans {sharing middle after : Sharing σ} (h : Preserved sharing middle)
    (hafter : Preserved middle after) : Preserved sharing after where
  loader := hafter.loader.trans h.loader
  opening := hafter.opening.trans h.opening
  unaltered := fun other entry hentry haltered =>
    h.unaltered other entry (hafter.unaltered other entry hentry haltered) haltered

variable {opener : Opener σ} {origin sharing after : Sharing σ} {index : Nat} {call : Call}
  {stage next : Stage} {runtime : Runtime} {turn : Turn} {loader : Loader} {opening : σ}

namespace Interleaving

variable {steps : List (Step σ)}

theorem sound (h : Interleaving opener origin steps sharing) (horigin : origin.Sound) :
    sharing.Sound := by
  induction h with
  | start => exact horigin
  | step _ hact ih => exact ih.act hact

theorem append {turns : List Turn} (h : Interleaving opener origin steps sharing)
    (hall : sharing.actAll opener turns = some after) :
    ∃ more, Interleaving opener origin (steps ++ more) after := by
  induction turns generalizing steps sharing with
  | nil =>
      obtain rfl : sharing = after := by simpa [actAll] using hall
      exact ⟨[], by simpa using h⟩
  | cons turn turns ih =>
      obtain ⟨next, hact, hrest⟩ := Option.bind_eq_some_iff.mp hall
      obtain ⟨more, hmore⟩ := ih (.step h hact) hrest
      exact ⟨_, by simpa using hmore⟩

theorem last {step : Step σ} (h : Interleaving opener origin (steps ++ [step]) sharing) :
    Interleaving opener origin steps step.before ∧
      step.before.act opener step.turn = some sharing ∧ step.after = sharing := by
  generalize hall : steps ++ [step] = all at h
  cases h with
  | start => simp at hall
  | step hbefore hact =>
      obtain ⟨rfl, hstep⟩ := List.append_inj' hall rfl
      obtain rfl := (List.cons.inj hstep).1
      exact ⟨hbefore, hact, rfl⟩

theorem front {earlier later : List (Step σ)}
    (h : Interleaving opener origin (earlier ++ later) sharing) :
    ∃ middle, Interleaving opener origin earlier middle := by
  induction later using List.reverseRecOn generalizing sharing with
  | nil => exact ⟨sharing, by simpa using h⟩
  | append_singleton later step ih =>
      rw [← List.append_assoc] at h
      exact ih h.last.1

end Interleaving

theorem Sound.loaded_of_holding (h : sharing.Sound)
    (hentry : sharing.calls[index]? = some (call, .holding runtime)) :
    sharing.loader.loaded = some runtime := by
  have hfits := h.fits index call _ hentry
  cases call with
  | entryPoint => exact hfits
  | _ => exact hfits.elim

theorem Sound.not_stranded (h : sharing.Sound) :
    sharing.calls[index]? ≠ some (call, .stranded) := by
  intro hentry
  have hfits := h.fits index call _ hentry
  cases call <;> exact hfits

theorem advance_of_holding (hentry : sharing.calls[index]? = some (call, .holding runtime)) :
    sharing.advance opener index = none := by
  cases call <;> simp [advance, hentry]

-- Only a writer gets through with a change.
theorem writing_of_hasAltered (hshift : Shift opener sharing call stage next loader opening)
    (hfits : Fits sharing.loader call stage) (haltered : hasAltered (call, next) = true) :
    stage = .writing := by
  cases hshift with
  | rehomed | unloaded | moved | opened | refused => rfl
  | givenBack =>
      cases call with
      | entryPoint => cases haltered
      | _ => exact hfits.elim
  | _ => simp [hasAltered] at haltered

theorem act_of_held (h : sharing.Sound)
    (hheld : sharing.calls[index]? = some (call, .holding runtime))
    (hact : sharing.act opener turn = some after) (hkept : turn ≠ .giveBack index) :
    Preserved sharing after ∧ after.calls[index]? = some (call, .holding runtime) := by
  obtain ⟨moving, stage, next, loader, opening, hentry, hshift, rfl⟩ := shift_of_act hact
  have hne : index ≠ turn.index := by
    rintro rfl
    cases turn with
    | giveBack => exact hkept rfl
    | advance index =>
        have hnone : sharing.act opener (.advance index) = none := advance_of_holding hheld
        rw [hnone] at hact
        cases hact
  -- Beside an entry nobody writes.
  have hreads : stage ≠ .writing := by
    rintro rfl
    have hadmits := h.apart index turn.index _ _ hne hheld hentry
    cases hadmits
  obtain ⟨hloader, hopening⟩ := hshift.unchanged.resolve_right hreads
  refine ⟨⟨hloader, hopening, ?_⟩, ?_⟩
  · intro other entry hother haltered
    by_cases hsame : other = turn.index
    · subst hsame
      obtain ⟨hlt, -⟩ := List.getElem?_eq_some_iff.mp hentry
      obtain rfl : (moving, next) = entry := by simpa [shifted, hlt] using hother
      exact absurd (writing_of_hasAltered hshift (h.fits _ _ _ hentry) haltered) hreads
    · simpa [shifted, List.getElem?_set_ne (Ne.symm hsame)] using hother
  · simpa [shifted, List.getElem?_set_ne hne.symm] using hheld

theorem actAll_of_held {turns : List Turn} (h : sharing.Sound)
    (hheld : sharing.calls[index]? = some (call, .holding runtime))
    (hall : sharing.actAll opener turns = some after) (hkept : .giveBack index ∉ turns) :
    Preserved sharing after ∧ after.calls[index]? = some (call, .holding runtime) := by
  induction turns generalizing sharing with
  | nil =>
      obtain rfl : sharing = after := by simpa [actAll] using hall
      exact ⟨.refl sharing, hheld⟩
  | cons turn turns ih =>
      obtain ⟨next, hact, hrest⟩ := Option.bind_eq_some_iff.mp hall
      have hturn : turn ≠ .giveBack index := fun heq => hkept (by simp [heq])
      obtain ⟨hnext, hstill⟩ := act_of_held h hheld hact hturn
      obtain ⟨hafter, hlast⟩ :=
        ih (h.act hact) hstill hrest fun hmem => hkept (List.mem_cons_of_mem _ hmem)
      exact ⟨hnext.trans hafter, hlast⟩

section Account

variable {origin sharing after : Sharing (σ × List Attempt)} {opening : σ × List Attempt}
  {steps : List (Step (σ × List Attempt))}

-- What a call asked of the opener is what was opened and is kept.
theorem loaded_of_shift
    (hshift : Shift opener.recorded sharing call stage next loader opening)
    (hfits : Fits sharing.loader call stage) :
    if stage = .writing ∧ call ≠ .entryPoint then loader.loaded = none
    else loader.loaded.toList = sharing.loader.loaded.toList ++
      (opening.2.drop sharing.opening.2.length).filterMap fun attempt =>
        attempt.answer.toOption := by
  cases hshift with
  | rehomed | unloaded | moved => rfl
  | @opened runtime _ _ hload | @refused fault _ _ hload =>
      have hnone : sharing.loader.loaded = none := hfits
      cases hhome : sharing.loader.home with
      | none =>
          simp only [load_of_homeless _ _ hhome, Prod.mk.injEq] at hload
          obtain ⟨hanswer, rfl, rfl⟩ := hload
          simp [hnone] at hanswer ⊢
      | some home =>
          simp only [load_of_home _ _ hhome, Prod.mk.injEq] at hload
          obtain ⟨hanswer, rfl, rfl⟩ := hload
          rw [hanswer]
          simp_all [Opener.recorded, keep, Except.toOption]
  | _ => simp

theorem releases_eq (hentry : sharing.calls[turn.index]? = some (call, stage)) :
    (Step.mk sharing turn after).releases = decide (stage = .writing ∧ call ≠ .entryPoint) := by
  cases stage <;> simp [Step.releases, hentry]

theorem loaded_of_act (h : sharing.Sound)
    (hact : sharing.act opener.recorded turn = some after) :
    if (Step.mk sharing turn after).releases then after.loader.loaded = none
    else after.loader.loaded.toList =
      sharing.loader.loaded.toList ++ (Step.mk sharing turn after).opened := by
  obtain ⟨call, stage, next, loader, opening, hentry, hshift, rfl⟩ := shift_of_act hact
  have hloaded := loaded_of_shift hshift (h.fits _ _ _ hentry)
  simpa only [releases_eq hentry, decide_eq_true_eq, Step.opened, shifted] using hloaded

theorem loaded_of_handedOut (h : after.Sound)
    (hhanded : (Step.mk sharing turn after).handedOut = some runtime) :
    after.loader.loaded = some runtime := by
  simp only [Step.handedOut] at hhanded
  split at hhanded
  · rename_i hholding
    obtain rfl := Option.some.inj hhanded
    exact h.loaded_of_holding hholding
  · cases hhanded

-- As long as nothing is let go of, what is kept is all that was opened, and
-- all that was handed out.
theorem account (horigin : origin.Sound) (hnone : origin.loader.loaded = none)
    {earlier period : List (Step (σ × List Attempt))}
    (h : Interleaving opener.recorded origin (earlier ++ period) sharing)
    (hfirst : ∀ step ∈ earlier.getLast?, step.releases = true)
    (hperiod : ∀ step ∈ period, step.releases = false) :
    period.flatMap Step.opened = sharing.loader.loaded.toList ∧
      ∀ step ∈ period, ∀ runtime, step.handedOut = some runtime →
        sharing.loader.loaded = some runtime := by
  induction period using List.reverseRecOn generalizing sharing with
  | nil =>
      rw [List.append_nil] at h
      suffices hempty : sharing.loader.loaded = none by simp [hempty]
      cases h with
      | start => exact hnone
      | step hbefore hact =>
          have hreleases := hfirst _ (List.getLast?_concat)
          simpa [hreleases] using loaded_of_act (hbefore.sound horigin) hact
  | append_singleton period step ih =>
      obtain ⟨before, turn, after⟩ := step
      rw [← List.append_assoc] at h
      obtain ⟨hbefore, hact, rfl⟩ := h.last
      have hkeeps := hperiod ⟨before, turn, after⟩ (by simp)
      obtain ⟨hopened, hhanded⟩ := ih hbefore fun step hstep => hperiod step (by simp [hstep])
      have hloaded := loaded_of_act (hbefore.sound horigin) hact
      simp only [hkeeps, Bool.false_eq_true, if_false] at hloaded
      refine ⟨by simp [hopened, hloaded], ?_⟩
      intro step hstep runtime hruntime
      rcases List.mem_append.mp hstep with hstep | hstep
      · -- What is kept already is kept on, and there is no room for another.
        rw [hhanded step hstep runtime hruntime] at hloaded
        cases hafter : after.loader.loaded <;> simp_all
      · obtain rfl := List.mem_singleton.mp hstep
        exact loaded_of_handedOut ((hbefore.sound horigin).act hact) hruntime

end Account

-- What holds after every run, and for every part of it.
structure Guarded (opener : Opener σ) (steps : List (Step (σ × List Attempt)))
    (sharing : Sharing (σ × List Attempt)) : Prop where
  cached : ∀ (index : Nat) (call : Call) (runtime : Runtime),
    sharing.calls[index]? = some (call, .holding runtime) → sharing.loader.loaded = some runtime
  lasting : ∀ (index : Nat) (call : Call) (runtime : Runtime) (turns : List Turn)
      (after : Sharing (σ × List Attempt)),
    sharing.calls[index]? = some (call, .holding runtime) →
    sharing.actAll opener.recorded turns = some after → .giveBack index ∉ turns →
    Preserved sharing after ∧ after.calls[index]? = some (call, .holding runtime)
  unbroken : ∀ (index : Nat) (call : Call), sharing.calls[index]? ≠ some (call, .stranded)
  -- From one release, or from the start, up to the next.
  single : ∀ earlier period later, steps = earlier ++ period ++ later →
    (∀ step ∈ earlier.getLast?, step.releases = true) →
    (∀ step ∈ period, step.releases = false) →
    ∃ library : Option Runtime, period.flatMap Step.opened = library.toList ∧
      ∀ step ∈ period, ∀ runtime, step.handedOut = some runtime → library = some runtime

theorem entry_never_outlives_library (opener : Opener σ) (state : σ) (layout : Layout)
    (calls : List Call) {steps : List (Step (σ × List Attempt))}
    {sharing : Sharing (σ × List Attempt)}
    (h : Interleaving opener.recorded (start (new layout) (state, []) calls) steps sharing) :
    Guarded opener steps sharing := by
  have hstart : (start (new layout) (state, ([] : List Attempt)) calls).Sound :=
    sound_start _ _ _
  have hsound := h.sound hstart
  refine ⟨fun index call runtime => hsound.loaded_of_holding, ?_,
    fun index call => hsound.not_stranded, ?_⟩
  · intro index call runtime turns after hheld hall hkept
    exact actAll_of_held hsound hheld hall hkept
  · intro earlier period later hsteps hfirst hperiod
    rw [hsteps] at h
    obtain ⟨middle, hmiddle⟩ := h.front
    obtain ⟨hopened, hhanded⟩ := account hstart rfl hmiddle hfirst hperiod
    exact ⟨middle.loader.loaded, hopened, hhanded⟩

-- Two requests race on a loader with nothing in it, and both entries are out
-- when the library is to be dropped.
theorem entry_never_outlives_library_of_racing :
    let opener : Opener Unit := fun state path _ => (.ok ⟨path, true⟩, state)
    let origin := start (new ⟨⟨[108]⟩, "entry"⟩) ((), [])
      [.setHome ⟨[47]⟩, .entryPoint, .entryPoint, .unload]
    ∃ steps sharing, Interleaving opener.recorded origin steps sharing ∧
      sharing.isHolding 1 = true ∧ sharing.isHolding 2 = true ∧
      sharing.advance opener.recorded 3 = none ∧ Guarded opener steps sharing := by
  intro opener origin
  obtain ⟨sharing, hall, hone, htwo, hwaits⟩ : ∃ sharing,
      origin.actAll opener.recorded
        (List.map .advance [0, 0, 1, 1, 1, 1, 2, 2, 1, 2, 2]) = some sharing ∧
      sharing.isHolding 1 = true ∧ sharing.isHolding 2 = true ∧
      sharing.advance opener.recorded 3 = none := ⟨_, rfl, rfl, rfl, rfl⟩
  obtain ⟨steps, hsteps⟩ := Interleaving.start.append hall
  exact ⟨_, sharing, hsteps, hone, htwo, hwaits,
    entry_never_outlives_library opener () _ _ hsteps⟩

end Overseer.Loader.Sharing
