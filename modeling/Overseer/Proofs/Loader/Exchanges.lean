import Overseer.Loader.Preflight

namespace Overseer.Loader

-- Calls on a loader one after the other, each with what it asked of the opener
-- on the way.

variable {σ : Type}

structure Attempt where
  path : Path
  symbol : String
  answer : Except LoadFault Runtime

-- The same opener, which also remembers what it was asked.
def Opener.recorded (opener : Opener σ) : Opener (σ × List Attempt) :=
  fun (state, attempts) path symbol =>
    let (answer, next) := opener state path symbol
    (answer, next, attempts ++ [⟨path, symbol, answer⟩])

-- One call, with the loader as it was before and after.
structure Exchange where
  before : Loader
  operation : Operation
  outcome : Outcome
  attempts : List Attempt
  after : Loader

def exchange (opener : Opener σ) (state : σ) (loader : Loader) (operation : Operation) :
    Exchange :=
  let (outcome, after, _, attempts) := perform opener.recorded (state, []) loader operation
  ⟨loader, operation, outcome, attempts, after⟩

def exchanges (opener : Opener σ) (state : σ) (loader : Loader) : List Operation → List Exchange
  | [] => []
  | operation :: rest =>
      let (_, after, next) := perform opener state loader operation
      exchange opener state loader operation :: exchanges opener next after rest

-- The ways in which a call can go, by what it finds.
inductive Serving (loader : Loader) : Operation → Outcome → List Attempt → Loader → Prop
  | rehomed {home : Path} : Serving loader (.setHome home) .done [] (loader.setHome home)
  | moved {home : Path} :
      sameHome loader.home (configured home) = false →
      Serving loader (.ensureHome home) (.changed true) [] (loader.setHome home)
  | stayed {home : Path} :
      sameHome loader.home (configured home) = true →
      Serving loader (.ensureHome home) (.changed false) [] loader
  | unloaded : Serving loader .unload .done [] loader.unload
  | reused {runtime : Runtime} :
      loader.loaded = some runtime → Serving loader .entryPoint (.entry runtime) [] loader
  | homeless :
      loader.loaded = none → loader.home = none →
      Serving loader .entryPoint (.failed .homeNotSet) [] loader
  | opened {home : Path} {runtime : Runtime} :
      loader.loaded = none → loader.home = some home →
      Serving loader .entryPoint (.entry runtime)
        [⟨home.join loader.layout.library, loader.layout.symbol, .ok runtime⟩]
        { loader with loaded := some runtime }
  | refused {home : Path} {fault : LoadFault} :
      loader.loaded = none → loader.home = some home →
      Serving loader .entryPoint (.failed fault)
        [⟨home.join loader.layout.library, loader.layout.symbol, .error fault⟩] loader
  | told : Serving loader .libraryPath (.ofPath loader.libraryPath) [] loader

def Exchange.Served (exchange : Exchange) : Prop :=
  Serving exchange.before exchange.operation exchange.outcome exchange.attempts exchange.after

theorem Exchange.Served.layout_eq {exchange : Exchange} (h : exchange.Served) :
    exchange.after.layout = exchange.before.layout := by
  obtain ⟨before, operation, outcome, attempts, after⟩ := exchange
  simp only [Exchange.Served] at h
  cases h <;> rfl

theorem libraryPath_eq_ok {loader : Loader} {home : Path} (h : loader.home = some home) :
    loader.libraryPath = .ok (home.join loader.layout.library) := by
  simp [libraryPath, h]

-- A library that was opened is kept, and a failure changes nothing.
def keep (loader : Loader) : Except LoadFault Runtime → Loader
  | .ok runtime => { loader with loaded := some runtime }
  | .error _ => loader

theorem load_of_homeless (opener : Opener σ) (state : σ) {loader : Loader}
    (h : loader.home = none) : load opener state loader = (.error .homeNotSet, loader, state) := by
  simp [load, libraryPath, h]

theorem load_of_home (opener : Opener σ) (state : σ) {loader : Loader} {home : Path}
    (h : loader.home = some home) :
    load opener state loader =
      ((opener state (home.join loader.layout.library) loader.layout.symbol).1,
        loader.keep (opener state (home.join loader.layout.library) loader.layout.symbol).1,
        (opener state (home.join loader.layout.library) loader.layout.symbol).2) := by
  simp only [load, libraryPath_eq_ok h]
  split <;> rename_i hanswer <;> simp [hanswer, keep]

theorem home_keep (loader : Loader) (answer : Except LoadFault Runtime) :
    (loader.keep answer).home = loader.home := by
  cases answer <;> rfl

theorem entryPoint_of_loaded (opener : Opener σ) (state : σ) {loader : Loader} {runtime : Runtime}
    (h : loader.loaded = some runtime) :
    loader.entryPoint opener state = (.ok runtime, loader, state) := by
  simp only [entryPoint, h]

theorem entryPoint_of_homeless (opener : Opener σ) (state : σ) {loader : Loader}
    (hloaded : loader.loaded = none) (hhome : loader.home = none) :
    loader.entryPoint opener state = (.error .homeNotSet, loader, state) := by
  simp only [entryPoint, hloaded, load_of_homeless _ _ hhome]

theorem entryPoint_of_home (opener : Opener σ) (state : σ) {loader : Loader} {home : Path}
    (hloaded : loader.loaded = none) (hhome : loader.home = some home) :
    loader.entryPoint opener state =
      ((opener state (home.join loader.layout.library) loader.layout.symbol).1,
        loader.keep (opener state (home.join loader.layout.library) loader.layout.symbol).1,
        (opener state (home.join loader.layout.library) loader.layout.symbol).2) := by
  simp only [entryPoint, hloaded, load_of_home _ _ hhome]

theorem served (opener : Opener σ) (state : σ) (loader : Loader) (operation : Operation) :
    (exchange opener state loader operation).Served := by
  unfold Exchange.Served
  cases operation with
  | setHome home => exact .rehomed
  | unload => exact .unloaded
  | libraryPath => exact .told
  | ensureHome home =>
      cases hsame : sameHome loader.home (configured home) with
      | true =>
          simp only [exchange, perform, ensureHome, hsame, if_true]
          exact .stayed hsame
      | false =>
          simp only [exchange, perform, ensureHome, hsame]
          exact .moved hsame
  | entryPoint =>
      cases hloaded : loader.loaded with
      | some runtime =>
          simp only [exchange, perform, entryPoint_of_loaded _ _ hloaded, Outcome.ofEntry]
          exact .reused hloaded
      | none =>
          cases hhome : loader.home with
          | none =>
              simp only [exchange, perform, entryPoint_of_homeless _ _ hloaded hhome]
              exact .homeless hloaded hhome
          | some home =>
              simp only [exchange, perform, entryPoint_of_home _ _ hloaded hhome, Opener.recorded,
                List.nil_append]
              cases (opener state (home.join loader.layout.library) loader.layout.symbol).1 with
              | ok runtime => exact .opened hloaded hhome
              | error fault => exact .refused hloaded hhome

theorem perform_recorded (opener : Opener σ) (state : σ) (attempts : List Attempt)
    (loader : Loader) (operation : Operation) :
    (perform opener.recorded (state, attempts) loader operation).1 =
        (perform opener state loader operation).1 ∧
      (perform opener.recorded (state, attempts) loader operation).2.1 =
        (perform opener state loader operation).2.1 := by
  cases operation with
  | entryPoint =>
      cases hloaded : loader.loaded with
      | some runtime => simp only [perform, entryPoint_of_loaded _ _ hloaded, and_self]
      | none =>
          cases hhome : loader.home with
          | none => simp only [perform, entryPoint_of_homeless _ _ hloaded hhome, and_self]
          | some home =>
              simp only [perform, entryPoint_of_home _ _ hloaded hhome, Opener.recorded, and_self]
  | _ => exact ⟨rfl, rfl⟩

theorem outcome_exchange (opener : Opener σ) (state : σ) (loader : Loader)
    (operation : Operation) :
    (exchange opener state loader operation).outcome =
      (perform opener state loader operation).1 :=
  (perform_recorded opener state [] loader operation).1

theorem after_exchange (opener : Opener σ) (state : σ) (loader : Loader) (operation : Operation) :
    (exchange opener state loader operation).after =
      (perform opener state loader operation).2.1 :=
  (perform_recorded opener state [] loader operation).2

theorem layout_perform (opener : Opener σ) (state : σ) (loader : Loader) (operation : Operation) :
    (perform opener state loader operation).2.1.layout = loader.layout := by
  rw [← after_exchange]
  exact (served opener state loader operation).layout_eq

theorem layout_performAll (opener : Opener σ) (state : σ) (loader : Loader)
    (operations : List Operation) :
    (performAll opener state loader operations).2.1.layout = loader.layout := by
  induction operations generalizing loader state with
  | nil => rfl
  | cons operation rest ih => exact (ih _ _).trans (layout_perform opener state loader operation)

theorem performAll_append (opener : Opener σ) (state : σ) (loader : Loader)
    (front rest : List Operation) :
    (performAll opener state loader (front ++ rest)).2 =
      (performAll opener (performAll opener state loader front).2.2
        (performAll opener state loader front).2.1 rest).2 := by
  induction front generalizing state loader with
  | nil => rfl
  | cons operation front ih => exact ih _ _

theorem exchanges_cons (opener : Opener σ) (state : σ) (loader : Loader) (operation : Operation)
    (rest : List Operation) :
    exchanges opener state loader (operation :: rest) =
      exchange opener state loader operation ::
        exchanges opener (perform opener state loader operation).2.2
          (exchange opener state loader operation).after rest := by
  rw [after_exchange]
  rfl

theorem outcomes_exchanges (opener : Opener σ) (state : σ) (loader : Loader)
    (operations : List Operation) :
    (exchanges opener state loader operations).map Exchange.outcome =
      (performAll opener state loader operations).1 := by
  induction operations generalizing state loader with
  | nil => rfl
  | cons operation rest ih =>
      simp only [exchanges, performAll, List.map_cons, outcome_exchange, ih]

theorem operations_exchanges (opener : Opener σ) (state : σ) (loader : Loader)
    (operations : List Operation) :
    (exchanges opener state loader operations).map Exchange.operation = operations := by
  induction operations generalizing state loader with
  | nil => rfl
  | cons operation rest ih => exact congrArg (operation :: ·) (ih _ _)

-- What holds of every call in a sequence.

theorem served_of_mem {opener : Opener σ} {state : σ} {loader : Loader}
    {operations : List Operation} {call : Exchange}
    (h : call ∈ exchanges opener state loader operations) :
    call.Served ∧ call.before.layout = loader.layout := by
  induction operations generalizing state loader with
  | nil => cases h
  | cons operation rest ih =>
      have hserved := served opener state loader operation
      rw [exchanges_cons] at h
      rcases List.mem_cons.mp h with rfl | h
      · exact ⟨hserved, rfl⟩
      · obtain ⟨hcall, hlayout⟩ := ih h
        exact ⟨hcall, hlayout.trans hserved.layout_eq⟩

theorem before_eq_after {opener : Opener σ} {state : σ} {loader : Loader}
    {operations : List Operation} {earlier later : List Exchange} {first second : Exchange}
    (h : exchanges opener state loader operations = earlier ++ first :: second :: later) :
    second.before = first.after := by
  induction operations generalizing state loader earlier with
  | nil => simp [exchanges] at h
  | cons operation rest ih =>
      rw [exchanges_cons] at h
      cases earlier with
      | cons call earlier => exact ih (List.cons.inj h).2
      | nil =>
          obtain ⟨rfl, hrest⟩ := List.cons.inj h
          cases rest with
          | nil => simp [exchanges] at hrest
          | cons next rest =>
              rw [exchanges_cons] at hrest
              rw [← (List.cons.inj hrest).1]
              rfl

end Overseer.Loader
