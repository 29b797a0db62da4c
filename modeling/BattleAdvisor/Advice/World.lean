import BattleAdvisor.Advice.Failure
import BattleAdvisor.FileSystem.Resolve
import BattleAdvisor.Remote.Call

/-!
# The world of a run

A run reads and writes files, calls the remote service and reports what it does. A `World` holds the
files, the state of the service, and what has happened so far. An `Action` goes from world to world
and returns a value or fails; the world goes on from where an action fails.
-/

namespace BattleAdvisor

/-- What a run can read and change, and what it has done. -/
structure World (σ : Type) where
  /-- The state of the remote service. -/
  remote : σ
  files : FileSystem
  /-- The calls so far, with their results. -/
  exchanges : List Exchange
  /-- The reports so far. -/
  log : List LogLine

/-- A part of a run. -/
abbrev Action (σ : Type) := ExceptT AdviceError (StateM (World σ))

variable {σ : Type}

/-- The world at the start of a run. -/
def World.start (remote : σ) (files : FileSystem) : World σ :=
  ⟨remote, files, [], []⟩

/-- Makes a call. -/
def World.call (world : World σ) (service : Service σ) (call : Call) :
    Except ServiceError call.Answer × World σ :=
  let (outcome, remote) := service.answer call world.remote
  (outcome.result,
    { world with
      remote := remote
      exchanges := world.exchanges ++ [⟨call, outcome.result⟩]
      log := world.log ++ outcome.log })

namespace Action

/-- Goes through an action from a world. -/
def start {α : Type} (action : Action σ α) (world : World σ) : Except AdviceError α × World σ :=
  action.run.run world

/-- Makes a call; `wrap` says how its failure is a failure of the run. -/
def callAs (wrap : ServiceError → AdviceError) (service : Service σ) (call : Call) :
    Action σ call.Answer :=
  ExceptT.mk fun world =>
    let (result, world) := world.call service call
    (result.mapError wrap, world)

/-- Makes a call. -/
def call (service : Service σ) (call : Call) : Action σ call.Answer :=
  callAs .remote service call

/-- Reports something. -/
def report (level : Level) (message : String) : Action σ Unit :=
  modify fun world => { world with log := world.log ++ [⟨level, message⟩] }

/-- The files as they are now. -/
def files : Action σ FileSystem :=
  (·.files) <$> get

/-- Fails if a check fails. -/
def ofExcept {α : Type} (result : Except AdviceError α) : Action σ α :=
  ExceptT.mk (pure result)

/-! ## Going through actions -/

variable {α β : Type} (world : World σ)

@[simp] theorem start_pure (a : α) : (pure a : Action σ α).start world = (.ok a, world) := rfl

@[simp] theorem start_throw (error : AdviceError) :
    (throw error : Action σ α).start world = (.error error, world) := rfl

/-- The second action goes on where the first one ends, unless that fails. -/
theorem start_bind (x : Action σ α) (f : α → Action σ β) :
    (x >>= f).start world =
      match x.start world with
      | (.ok a, world) => (f a).start world
      | (.error error, world) => (.error error, world) := by
  show (ExceptT.bind x f).run.run world = _
  simp only [ExceptT.bind, ExceptT.run_mk, StateT.run_bind]
  show (ExceptT.bindCont f (x.start world).1).run (x.start world).2 = _
  rcases x.start world with ⟨result, world⟩
  cases result <;> rfl

theorem start_bind_ok {x : Action σ α} {f : α → Action σ β} {world next : World σ} {a : α}
    (h : x.start world = (.ok a, next)) : (x >>= f).start world = (f a).start next := by
  rw [start_bind, h]

theorem start_bind_error {x : Action σ α} {f : α → Action σ β} {world next : World σ}
    {error : AdviceError} (h : x.start world = (.error error, next)) :
    (x >>= f).start world = (.error error, next) := by
  rw [start_bind, h]

@[simp] theorem start_map (f : α → β) (x : Action σ α) :
    (f <$> x).start world = ((x.start world).1.map f, (x.start world).2) := by
  rw [map_eq_pure_bind, start_bind]
  rcases x.start world with ⟨result, next⟩
  cases result <;> rfl

@[simp] theorem start_report (level : Level) (message : String) :
    (report level message : Action σ Unit).start world =
      (.ok (), { world with log := world.log ++ [⟨level, message⟩] }) := rfl

@[simp] theorem start_files :
    (files : Action σ FileSystem).start world = (.ok world.files, world) := rfl

@[simp] theorem start_ofExcept (result : Except AdviceError α) :
    (ofExcept result : Action σ α).start world = (result, world) := rfl

theorem start_callAs (wrap : ServiceError → AdviceError) (service : Service σ) (call : Call) :
    (callAs wrap service call).start world =
      ((world.call service call).1.mapError wrap, (world.call service call).2) := rfl

end Action

end BattleAdvisor
