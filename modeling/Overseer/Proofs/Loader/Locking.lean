import Overseer.Loader.Sharing
import Overseer.Proofs.Loader.Exchanges

namespace Overseer.Loader

-- Why what a call saw under the lock stays true until it is done: the calls that
-- have the lock admit each other, and each relies on what the others keep.

variable {σ : Type}

-- How much of the lock a call has.
inductive Grip
  | nothing
  | shared
  | upgradable
  | exclusive
deriving DecidableEq

def Stage.grip : Stage → Grip
  | waiting | finished _ => .nothing
  | upgradable | checked _ => .upgradable
  | writing => .exclusive
  | reading | holding _ | stranded => .shared

-- One of the calls that have the lock may be about to upgrade, and all others
-- read.
def Grip.admits : Grip → Grip → Bool
  | nothing, _ | _, nothing => true
  | shared, shared | shared, upgradable | upgradable, shared => true
  | _, _ => false

theorem Grip.admits_comm (one other : Grip) : one.admits other = other.admits one := by
  cases one <;> cases other <;> rfl

theorem Grip.nothing_admits (other : Grip) : Grip.nothing.admits other = true := by
  cases other <;> rfl

-- Whoever gives up a part of the lock is still admitted.
theorem Grip.shared_admits {grip other : Grip} (hgrip : grip ≠ .nothing)
    (hadmits : grip.admits other = true) : Grip.shared.admits other = true := by
  cases grip <;> cases other <;> simp_all [Grip.admits]

theorem Grip.eq_nothing_of_exclusive {other : Grip} (h : Grip.exclusive.admits other = true) :
    other = .nothing := by
  cases other <;> simp_all [Grip.admits]

-- What a call relies on in each of its stages.
def Fits (loader : Loader) : Call → Stage → Prop
  | _, .waiting | _, .finished _ => True
  | .entryPoint, .upgradable | .ensureHome _, .upgradable => True
  | .entryPoint, .checked found => found = loader.loaded.isSome
  | .ensureHome home, .checked found => found = sameHome loader.home (configured home)
  | .entryPoint, .writing => loader.loaded = none
  | .ensureHome home, .writing => sameHome loader.home (configured home) = false
  | .setHome _, .writing | .unload, .writing => True
  | .entryPoint, .reading => loader.loaded.isSome = true
  | .entryPoint, .holding runtime => loader.loaded = some runtime
  | _, _ => False

theorem fits_of_nothing {loader other : Loader} {call : Call} {stage : Stage}
    (hgrip : stage.grip = .nothing) (hfits : Fits loader call stage) : Fits other call stage := by
  cases stage <;> simp_all [Stage.grip, Fits]

-- Looks first and changes the loader only where it has to.
def Call.isCautious : Call → Bool
  | entryPoint | ensureHome _ => true
  | _ => false

def Call.isBlunt : Call → Bool
  | setHome _ | unload => true
  | _ => false

inductive Shift (opener : Opener σ) (sharing : Sharing σ) :
    Call → Stage → Stage → Loader → σ → Prop
  | entered {call : Call} :
      call.isCautious = true → sharing.hasWriter = false → sharing.hasUpgradable = false →
      Shift opener sharing call .waiting .upgradable sharing.loader sharing.opening
  | seized {call : Call} :
      call.isBlunt = true → sharing.hasWriter = false → sharing.hasUpgradable = false →
      sharing.hasReader = false →
      Shift opener sharing call .waiting .writing sharing.loader sharing.opening
  | glanced :
      Shift opener sharing .look .waiting (.finished .done) sharing.loader sharing.opening
  | checkedLibrary :
      Shift opener sharing .entryPoint .upgradable (.checked sharing.loader.loaded.isSome)
        sharing.loader sharing.opening
  | checkedHome {home : Path} :
      Shift opener sharing (.ensureHome home) .upgradable
        (.checked (sameHome sharing.loader.home (configured home))) sharing.loader sharing.opening
  | downgraded :
      Shift opener sharing .entryPoint (.checked true) .reading sharing.loader sharing.opening
  | stayed {home : Path} :
      Shift opener sharing (.ensureHome home) (.checked true) (.finished (.changed false))
        sharing.loader sharing.opening
  | upgraded {call : Call} :
      call.isCautious = true → sharing.hasReader = false →
      Shift opener sharing call (.checked false) .writing sharing.loader sharing.opening
  | opened {runtime : Runtime} {loader : Loader} {opening : σ} :
      load opener sharing.opening sharing.loader = (.ok runtime, loader, opening) →
      Shift opener sharing .entryPoint .writing .reading loader opening
  | refused {fault : LoadFault} {loader : Loader} {opening : σ} :
      load opener sharing.opening sharing.loader = (.error fault, loader, opening) →
      Shift opener sharing .entryPoint .writing (.finished (.failed fault)) loader opening
  | mapped {runtime : Runtime} :
      sharing.loader.loaded = some runtime →
      Shift opener sharing .entryPoint .reading (.holding runtime) sharing.loader sharing.opening
  | lost :
      sharing.loader.loaded = none →
      Shift opener sharing .entryPoint .reading .stranded sharing.loader sharing.opening
  | rehomed {home : Path} :
      Shift opener sharing (.setHome home) .writing (.finished .done)
        (sharing.loader.setHome home) sharing.opening
  | unloaded :
      Shift opener sharing .unload .writing (.finished .done) sharing.loader.unload sharing.opening
  | moved {home : Path} :
      Shift opener sharing (.ensureHome home) .writing (.finished (.changed true))
        (sharing.loader.setHome home) sharing.opening
  | givenBack {call : Call} {runtime : Runtime} :
      Shift opener sharing call (.holding runtime) (.finished .done) sharing.loader
        sharing.opening

theorem Shift.unchanged {opener : Opener σ} {sharing : Sharing σ} {call : Call}
    {stage next : Stage} {loader : Loader} {opening : σ}
    (h : Shift opener sharing call stage next loader opening) :
    loader = sharing.loader ∧ opening = sharing.opening ∨ stage = .writing := by
  cases h <;> simp

def Sharing.Turn.index : Sharing.Turn → Nat
  | advance index => index
  | giveBack index => index

namespace Sharing

variable {opener : Opener σ} {sharing after : Sharing σ} {index : Nat} {call : Call} {stage : Stage}

-- What a turn leaves behind when its call goes on to another stage.
def shifted (sharing : Sharing σ) (index : Nat) (call : Call) (next : Stage) (loader : Loader)
    (opening : σ) : Sharing σ :=
  ⟨loader, opening, sharing.calls.set index (call, next)⟩

theorem shift_of_waiting (hentry : sharing.calls[index]? = some (call, .waiting))
    (h : sharing.advance opener index = some after) :
    ∃ next loader opening, Shift opener sharing call .waiting next loader opening ∧
      after = sharing.shifted index call next loader opening := by
  cases call with
  | entryPoint | ensureHome =>
      simp only [advance, hentry, Option.ite_none_left_eq_some, Bool.or_eq_true, not_or,
        Bool.not_eq_true, Option.some.injEq] at h
      obtain ⟨⟨hwriter, hupgradable⟩, hafter⟩ := h
      exact ⟨_, _, _, .entered rfl hwriter hupgradable, hafter.symm⟩
  | setHome | unload =>
      simp only [advance, hentry, Option.ite_none_left_eq_some, Bool.or_eq_true, not_or,
        Bool.not_eq_true, Option.some.injEq] at h
      obtain ⟨⟨⟨hwriter, hupgradable⟩, hreader⟩, hafter⟩ := h
      exact ⟨_, _, _, .seized rfl hwriter hupgradable hreader, hafter.symm⟩
  | look =>
      simp only [advance, hentry, Option.ite_none_left_eq_some, Option.some.injEq] at h
      exact ⟨_, _, _, .glanced, h.2.symm⟩

theorem shift_of_upgradable (hentry : sharing.calls[index]? = some (call, .upgradable))
    (h : sharing.advance opener index = some after) :
    ∃ next loader opening, Shift opener sharing call .upgradable next loader opening ∧
      after = sharing.shifted index call next loader opening := by
  cases call with
  | entryPoint =>
      simp only [advance, hentry, Option.some.injEq] at h
      exact ⟨_, _, _, .checkedLibrary, h.symm⟩
  | ensureHome =>
      simp only [advance, hentry, Option.some.injEq] at h
      exact ⟨_, _, _, .checkedHome, h.symm⟩
  | _ => simp [advance, hentry] at h

theorem shift_of_checked {found : Bool}
    (hentry : sharing.calls[index]? = some (call, .checked found))
    (h : sharing.advance opener index = some after) :
    ∃ next loader opening, Shift opener sharing call (.checked found) next loader opening ∧
      after = sharing.shifted index call next loader opening := by
  cases call with
  | entryPoint =>
      cases found with
      | true =>
          simp only [advance, hentry, Option.some.injEq] at h
          exact ⟨_, _, _, .downgraded, h.symm⟩
      | false =>
          simp only [advance, hentry, Option.ite_none_left_eq_some, Bool.not_eq_true,
            Option.some.injEq] at h
          exact ⟨_, _, _, .upgraded rfl h.1, h.2.symm⟩
  | ensureHome =>
      cases found with
      | true =>
          simp only [advance, hentry, Option.some.injEq] at h
          exact ⟨_, _, _, .stayed, h.symm⟩
      | false =>
          simp only [advance, hentry, Option.ite_none_left_eq_some, Bool.not_eq_true,
            Option.some.injEq] at h
          exact ⟨_, _, _, .upgraded rfl h.1, h.2.symm⟩
  | _ => cases found <;> simp [advance, hentry] at h

theorem shift_of_writing (hentry : sharing.calls[index]? = some (call, .writing))
    (h : sharing.advance opener index = some after) :
    ∃ next loader opening, Shift opener sharing call .writing next loader opening ∧
      after = sharing.shifted index call next loader opening := by
  cases call with
  | entryPoint =>
      simp only [advance, hentry] at h
      split at h <;> rename_i hload
      · exact ⟨_, _, _, .opened hload, (Option.some.inj h).symm⟩
      · exact ⟨_, _, _, .refused hload, (Option.some.inj h).symm⟩
  | setHome =>
      simp only [advance, hentry, Option.some.injEq] at h
      exact ⟨_, _, _, .rehomed, h.symm⟩
  | ensureHome =>
      simp only [advance, hentry, Option.some.injEq] at h
      exact ⟨_, _, _, .moved, h.symm⟩
  | unload =>
      simp only [advance, hentry, Option.some.injEq] at h
      exact ⟨_, _, _, .unloaded, h.symm⟩
  | look => simp [advance, hentry] at h

theorem shift_of_reading (hentry : sharing.calls[index]? = some (call, .reading))
    (h : sharing.advance opener index = some after) :
    ∃ next loader opening, Shift opener sharing call .reading next loader opening ∧
      after = sharing.shifted index call next loader opening := by
  cases call with
  | entryPoint =>
      simp only [advance, hentry] at h
      split at h <;> rename_i hloaded
      · exact ⟨_, _, _, .mapped hloaded, (Option.some.inj h).symm⟩
      · exact ⟨_, _, _, .lost hloaded, (Option.some.inj h).symm⟩
  | _ => simp [advance, hentry] at h

theorem shift_of_act {turn : Turn} (h : sharing.act opener turn = some after) :
    ∃ call stage next loader opening, sharing.calls[turn.index]? = some (call, stage) ∧
      Shift opener sharing call stage next loader opening ∧
      after = sharing.shifted turn.index call next loader opening := by
  cases turn with
  | giveBack index =>
      simp only [act, giveBack] at h
      split at h
      · rename_i call runtime hentry
        exact ⟨call, _, _, _, _, hentry, .givenBack, (Option.some.inj h).symm⟩
      · cases h
  | advance index =>
      have hadvance : sharing.advance opener index = some after := h
      cases hentry : sharing.calls[index]? with
      | none => simp [advance, hentry] at hadvance
      | some entry =>
          obtain ⟨call, stage⟩ := entry
          have hshift : ∃ next loader opening,
              Shift opener sharing call stage next loader opening ∧
                after = sharing.shifted index call next loader opening := by
            cases stage with
            | waiting => exact shift_of_waiting hentry hadvance
            | upgradable => exact shift_of_upgradable hentry hadvance
            | checked => exact shift_of_checked hentry hadvance
            | writing => exact shift_of_writing hentry hadvance
            | reading => exact shift_of_reading hentry hadvance
            | _ => cases call <;> simp [advance, hentry] at hadvance
          obtain ⟨next, loader, opening, hshift, hafter⟩ := hshift
          exact ⟨call, stage, next, loader, opening, hentry, hshift, hafter⟩

-- Who has the lock, and what everyone relies on.
structure Sound (sharing : Sharing σ) : Prop where
  apart : ∀ (one other : Nat) (first second : Call × Stage), one ≠ other →
    sharing.calls[one]? = some first → sharing.calls[other]? = some second →
      first.2.grip.admits second.2.grip = true
  fits : ∀ (index : Nat) (call : Call) (stage : Stage), sharing.calls[index]? = some (call, stage) →
    Fits sharing.loader call stage

theorem sound_start (loader : Loader) (opening : σ) (calls : List Call) :
    (start loader opening calls).Sound := by
  have hwaiting : ∀ (index : Nat) (entry : Call × Stage),
      (start loader opening calls).calls[index]? = some entry → entry.2 = .waiting := by
    intro index entry hentry
    obtain ⟨call, -, rfl⟩ := List.mem_map.mp (List.mem_of_getElem? hentry)
    rfl
  refine ⟨fun one other first second _ hfirst _ => ?_, fun index call stage hentry => ?_⟩
  · rw [hwaiting one first hfirst]
    exact Grip.nothing_admits _
  · obtain rfl : stage = .waiting := hwaiting index _ hentry
    trivial

theorem grip_of_unwritten {other : Nat} {entry : Call × Stage} (hwriter : sharing.hasWriter = false)
    (hupgradable : sharing.hasUpgradable = false) (hentry : sharing.calls[other]? = some entry) :
    entry.2.grip = .nothing ∨ entry.2.grip = .shared := by
  have hmem := List.mem_of_getElem? hentry
  have hwrites := List.any_eq_false.mp hwriter entry hmem
  have hupgrades := List.any_eq_false.mp hupgradable entry hmem
  cases hstage : entry.2 <;> simp_all [Stage.grip, Stage.isUpgradable]

theorem grip_of_unread {other : Nat} {entry : Call × Stage} (hreader : sharing.hasReader = false)
    (hentry : sharing.calls[other]? = some entry) : entry.2.grip ≠ .shared := by
  have hreads := List.any_eq_false.mp hreader entry (List.mem_of_getElem? hentry)
  cases hstage : entry.2 <;> simp_all [Stage.grip, Stage.isReader]

namespace Sound

variable {next : Stage} {loader : Loader} {opening : σ}

-- The lock that a call has after its turn is compatible with the others'.
theorem admits (h : sharing.Sound) (hentry : sharing.calls[index]? = some (call, stage))
    (hshift : Shift opener sharing call stage next loader opening) {other : Nat}
    {entry : Call × Stage} (hne : other ≠ index) (hother : sharing.calls[other]? = some entry) :
    next.grip.admits entry.2.grip = true := by
  have hbefore : stage.grip.admits entry.2.grip = true :=
    h.apart index other _ entry hne.symm hentry hother
  cases hshift with
  | entered _ hwriter hupgradable =>
      rcases grip_of_unwritten hwriter hupgradable hother with hgrip | hgrip <;> rw [hgrip] <;> rfl
  | seized _ hwriter hupgradable hreader =>
      have hgrip := (grip_of_unwritten hwriter hupgradable hother).resolve_right
        (grip_of_unread hreader hother)
      rw [hgrip]
      rfl
  | upgraded _ hreader =>
      -- Beside the right to upgrade there were readers at most, and now none.
      have hgrip := grip_of_unread hreader hother
      cases hentry : entry.2.grip <;> simp_all [Stage.grip, Grip.admits]
  | checkedLibrary | checkedHome | mapped | lost => exact hbefore
  | downgraded | opened => exact Grip.shared_admits (by simp [Stage.grip]) hbefore
  | _ => exact Grip.nothing_admits _

-- What a call saw is still so when it goes on.
theorem fits_next (h : sharing.Sound) (hentry : sharing.calls[index]? = some (call, stage))
    (hshift : Shift opener sharing call stage next loader opening) : Fits loader call next := by
  have hfits := h.fits index call stage hentry
  cases hshift with
  | entered hcautious =>
      cases call <;> trivial
  | seized hblunt =>
      cases call <;> trivial
  | upgraded hcautious =>
      cases call <;> simp_all [Fits, Call.isCautious]
  | checkedLibrary | checkedHome => rfl
  | downgraded => exact hfits.symm
  | @opened runtime _ _ hload =>
      cases hhome : sharing.loader.home with
      | none => simp [load_of_homeless _ _ hhome] at hload
      | some home =>
          simp only [load_of_home _ _ hhome, Prod.mk.injEq] at hload
          rw [← hload.2.1, hload.1]
          rfl
  | mapped hloaded => exact hloaded
  | lost hloaded => simp [Fits, hloaded] at hfits
  | _ => trivial

theorem shifted (h : sharing.Sound) (hentry : sharing.calls[index]? = some (call, stage))
    (hshift : Shift opener sharing call stage next loader opening) :
    (sharing.shifted index call next loader opening).Sound := by
  obtain ⟨hlt, -⟩ := List.getElem?_eq_some_iff.mp hentry
  have hhere : (sharing.calls.set index (call, next))[index]? = some (call, next) := by
    simp [hlt]
  have hthere : ∀ other, other ≠ index →
      (sharing.calls.set index (call, next))[other]? = sharing.calls[other]? := by
    intro other hne
    exact List.getElem?_set_ne hne.symm
  refine ⟨fun one other first second hne hfirst hsecond => ?_, fun other call' stage' hother => ?_⟩
  · simp only [Sharing.shifted] at hfirst hsecond
    by_cases hone : one = index
    · subst hone
      rw [hthere other hne.symm] at hsecond
      obtain rfl : (call, next) = first := by simpa [hhere] using hfirst
      exact h.admits hentry hshift hne.symm hsecond
    · rw [hthere one hone] at hfirst
      by_cases htwo : other = index
      · subst htwo
        obtain rfl : (call, next) = second := by simpa [hhere] using hsecond
        rw [Grip.admits_comm]
        exact h.admits hentry hshift hone hfirst
      · rw [hthere other htwo] at hsecond
        exact h.apart one other first second hne hfirst hsecond
  · simp only [Sharing.shifted] at hother ⊢
    by_cases hsame : other = index
    · subst hsame
      obtain ⟨rfl, rfl⟩ : call = call' ∧ next = stage' := by simpa [hhere] using hother
      exact h.fits_next hentry hshift
    · rw [hthere other hsame] at hother
      rcases hshift.unchanged with ⟨rfl, -⟩ | rfl
      · exact h.fits other call' stage' hother
      · -- Beside a writer the others have no lock and rely on nothing.
        have hadmits := h.apart index other _ _ (Ne.symm hsame) hentry hother
        exact fits_of_nothing (Grip.eq_nothing_of_exclusive hadmits)
          (h.fits other call' stage' hother)

theorem act {turn : Turn} (h : sharing.Sound) (hact : sharing.act opener turn = some after) :
    after.Sound := by
  obtain ⟨call, stage, next, loader, opening, hentry, hshift, rfl⟩ := shift_of_act hact
  exact h.shifted hentry hshift

end Sound

end Sharing

end Overseer.Loader
