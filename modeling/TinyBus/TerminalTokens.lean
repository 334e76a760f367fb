import TinyBus.TerminalSteps

/-
The things of which a terminal instance has one: the factory call, the calls of its two
hooks, the worker, the abort of the initial task and the task itself.  The control has
such a thing, or one action does, and nothing makes a second one.
-/

namespace TinyBus

namespace TerminalState

/-- The factory call counts up to the publication, the request hook up to its call, the
worker up to its completion, the finish hook up to its call, the abort up to the end of
the execution, and the initial task up to its own. -/
inductive Token where
  | factory
  | request
  | worker
  | finish
  | abort
  | initial
  deriving DecidableEq

/-- The place of an action in the factory call: before the hooks are registered, before
the initial task is spawned, or before the publication. -/
@[simp]
def Action.factoryStage : Action → Nat
  | .parseConfig => 1
  | .factory => 1
  | .register => 1
  | .isLive .startup => 2
  | .stillLive .startup => 2
  | .attachSetup => 2
  | .buildRuntime => 2
  | .attachTransport => 2
  | .attachReinit => 2
  | .spawnInitial => 2
  | .markVtablePublished => 3
  | .factoryEnds _ => 3
  | .failFactory => 3
  | .publish => 3
  | _ => 0

/-- The place of an action in the worker: before it settles the execution, before it
calls the finish hook, or before it completes. -/
@[simp]
def Action.workerStage : Action → Nat
  | .spawn => 1
  | .runFinish => 1
  | .serve _ => 1
  | .isLive .construct => 1
  | .stillLive .construct => 1
  | .parseReinit => 1
  | .isLive .constructed => 1
  | .stillLive .constructed => 1
  | .callSetup => 1
  | .served _ _ => 1
  | .settleExecution => 1
  | .join => 2
  | .readRetired _ => 2
  | .disposeSetup _ => 2
  | .takeFinish _ _ => 2
  | .finishReturns _ => 3
  | .releaseResources _ => 3
  | .countOwners => 3
  | .finalCheck _ _ => 3
  | .finalize _ _ => 3
  | _ => 0

@[simp]
def Action.runsInitial : Action → Bool
  | .handshake => true
  | .attachObserver => true
  | .attachConnection => true
  | .isLive .initialSetup => true
  | .stillLive .initialSetup => true
  | .setup => true
  | .pollInitial => true
  | .isLive .initialReady => true
  | .stillLive .initialReady => true
  | .endInitial _ => true
  | _ => false

@[simp]
def Action.callsRequest : Action → Bool
  | .callRequest _ => true
  | _ => false

@[simp]
def Token.has (token : Token) (action : Action) : Bool :=
  match token with
  | .factory => 1 ≤ action.factoryStage
  | .request => action.factoryStage = 1 || action.callsRequest
  | .worker => 1 ≤ action.workerStage
  | .finish => action.workerStage = 1 || action.workerStage = 2
  | .abort => action.workerStage = 1
  | .initial => action.factoryStage = 1 || action.factoryStage = 2 || action.runsInitial

@[simp]
def Token.weight (token : Token) (action : Action) : Nat := (token.has action).toNat

@[simp]
def RequestState.spare : RequestState → Nat
  | .idle => 1
  | _ => 0

@[simp]
def FinishState.spare : FinishState → Nat
  | .idle => 1
  | _ => 0

@[simp]
def InitialTask.spare : InitialTask → Nat
  | .ready => 1
  | _ => 0

@[simp]
def Token.spare (token : Token) (shared : Shared) : Nat :=
  match token with
  | .factory => shared.factory.toNat + shared.published.toNat
  | .request => shared.factory.toNat + shared.requestState.spare + shared.requests.length
  | .worker => shared.finishState.spare + shared.workers + shared.completion.isSome.toNat
  | .finish => shared.finishState.spare + shared.workers + shared.finishes
  | .abort => shared.finishState.spare + shared.workers + shared.aborted.toNat
  | .initial => shared.factory.toNat + shared.initialTask.spare

section

variable {shared after : Shared} {action next : Action} {early more : Program} {token : Token}

theorem tells_weight (tells : action.tells = true) : token.weight action = 0 := by
  cases action <;> first | (cases token <;> rfl) | cases tells

theorem tells_weigh (tells : early.all Action.tells = true) :
    Programs.weigh token.weight early = 0 := by
  induction early with
  | nil => rfl
  | cons head rest ih =>
      rw [List.all_cons, Bool.and_eq_true] at tells
      rw [Programs.weigh_cons, tells_weight tells.1, ih tells.2]

theorem unwinds_weight {code : Int} (unwinds : action.unwinds = true) :
    token.weight (.factoryEnds code) ≤ token.weight action := by
  cases action <;>
    first
      | (cases token <;> first | exact Nat.le_refl _ | exact Nat.zero_le _)
      | cases unwinds

theorem isLive_weight (use : LiveUse) :
    token.weight (.isLive use) = token.weight (.stillLive use) := by
  cases use <;> cases token <;> rfl

theorem otherwise_weight {use : LiveUse} (leads : next ∈ use.otherwise) :
    token.weight next ≤ token.weight (.stillLive use) := by
  cases use with
  | view => cases leads
  | _ =>
      rw [List.mem_singleton.mp leads]
      cases token <;> first | exact Nat.le_refl _ | exact Nat.zero_le _

theorem continues_weight {use : LiveUse} (leads : next ∈ use.continues) :
    token.weight next ≤ token.weight (.stillLive use) := by
  cases use with
  | view => cases leads
  | _ =>
      rw [List.mem_singleton.mp leads]
      cases token <;> exact Nat.le_refl _

theorem afterFinish_weight {completed : TerminalCompletion} {failed : Bool} :
    Programs.weigh token.weight (afterFinish completed failed) =
      token.weight (.finishReturns failed) := by
  unfold afterFinish
  split <;> cases token <;> rfl

theorem leads_weight (leads : Leads shared action next) :
    token.weight next ≤ token.weight action := by
  cases leads with
  | asks => exact Nat.le_of_eq (isLive_weight _).symm
  | closed leads => exact (otherwise_weight leads).trans_eq (isLive_weight _).symm
  | closedSince leads => exact otherwise_weight leads
  | live leads => exact continues_weight leads
  | unwinds unwinds => exact unwinds_weight unwinds
  | takes leads => rcases leads with rfl | rfl <;> cases token <;> exact Nat.le_refl _
  | nothingToFinish absent leads ends =>
      refine (Programs.le_weigh_of_mem leads).trans ?_
      rw [afterFinish_weight]
      cases token <;> first | exact Nat.le_refl _ | exact Nat.zero_le _
  | _ => cases token <;> first | exact Nat.le_refl _ | exact Nat.zero_le _

@[simp]
theorem recordUncertain_isSome (shared : Shared) :
    shared.recordUncertain.completion.isSome = shared.completion.isSome := by
  unfold Shared.recordUncertain
  dsimp only
  split
  · rename_i stopped
    rw [stopped]
    rfl
  · rfl

theorem recordUncertain_spare (token : Token) (shared : Shared) :
    token.spare shared.recordUncertain = token.spare shared := by
  cases token with
  | worker =>
      unfold Token.spare
      rw [recordUncertain_isSome]
      rfl
  | _ => rfl

theorem tokens_le (token : Token) (acts : Acts shared action after more) :
    token.spare after + Programs.weigh token.weight more ≤
      token.spare shared + token.weight action := by
  cases acts with
  | passes provision tells =>
      rw [tells_weigh tells]
      exact Nat.add_le_add (Nat.le_of_eq (by cases token <;> rfl)) (Nat.zero_le _)
  | leads provision tells leads =>
      rw [Programs.weigh_append, tells_weigh tells, Programs.weigh_cons, Programs.weigh_nil,
        Nat.zero_add, Nat.add_zero]
      exact Nat.add_le_add (Nat.le_of_eq (by cases token <;> rfl)) (leads_weight leads)
  | uncertain =>
      rw [recordUncertain_spare]
      exact Nat.add_le_add_left (Nat.zero_le _) _
  | runsRequest terminal idle =>
      cases token <;> simp [idle, Nat.add_assoc, Nat.add_comm, Nat.add_left_comm]
  | callsRequest =>
      cases token <;> simp
      omega
  | requestDone ends =>
      rcases ends with rfl | rfl <;> cases token <;> simp
      omega
  | requestPanicked =>
      cases token with
      | worker =>
          exact Nat.add_le_add (Nat.le_of_eq (recordUncertain_spare .worker shared)) (Nat.zero_le _)
      | _ => simp [Shared.requestPanicked, Shared.recordUncertain]
  | schedules idle =>
      cases token <;> simp [idle, Nat.add_assoc, Nat.add_comm, Nat.add_left_comm]
  | spawns => cases token <;> simp <;> omega
  | spawnFails => cases token <;> simp [Shared.recordUncertain] <;> omega
  | beginsFactory there => cases token <;> simp [there, Nat.add_comm, Nat.add_left_comm]
  | registers =>
      cases token <;> simp [Shared.register]
      omega
  | spawnsInitial => cases token <;> simp
  | publishes => cases token <;> simp
  | beginsInitial ready => cases token <;> simp [ready]
  | cancelsInitial ready => cases token <;> simp [ready]
  | endsInitial =>
      cases token <;> simp
      omega
  | beginsWorker spawned => cases token <;> simp <;> omega
  | runsFinish published inactive settled scheduled late =>
      cases scheduled with
      | idle => exact absurd rfl late
      | _ => cases token <;> simp
  | aborts => cases token <;> simp
  | settles => cases token <;> simp
  | takesFinish there =>
      cases token <;> simp
      omega
  | finishes =>
      rw [afterFinish_weight]
      exact Nat.le_refl _
  | finalizes =>
      cases token <;> simp
      omega
  | takesOwner there =>
      have tells (panicking : Bool) :
          (if panicking then caughtPanic else []).all Action.tells = true := by
        cases panicking <;> rfl
      rw [Programs.weigh_append, tells_weigh (tells _)]
      cases token <;> exact Nat.le_refl _
  | @judges completion =>
      have tells : (shared.judge completion).2.all Action.tells = true := by
        unfold Shared.judge
        dsimp only
        split <;> rfl
      rw [tells_weigh tells]
      cases token <;> exact Nat.le_refl _
  | _ => cases token <;> exact Nat.le_refl _

end

theorem program_weigh (token : Token) (call : Call) :
    Programs.weigh token.weight (program call) = 0 := by
  cases call <;> cases token <;> rfl

variable {state : Tasks Shared Program}

theorem tokens_one (reached : system.Reachable state) (token : Token) :
    token.spare state.shared + Tasks.weight (fun _ => Programs.weigh token.weight) state.tasks ≤
      1 := by
  have lightens : Tasks.Lightens kind (fun _ _ => True) token.spare
      (fun _ => Programs.weigh token.weight) :=
    Programs.lightens_of_acts (program_weigh token)
      (fun _ _ _ _ _ _ acted => tokens_le token (act_acts acted))
  have tasks : (Tasks.system kind (· = admitted)).Reachable state := reached
  refine Tasks.total_le_of_unguarded lightens ?_ tasks
  rintro shared rfl
  cases token <;> decide

theorem spare_none (reached : system.Reachable state) {token : Token} {id : Nat} {task : Program}
    {action : Action} (present : state.tasks.lookup id = some task) (member : action ∈ task)
    (has : token.has action = true) : token.spare state.shared = 0 := by
  have one := tokens_one reached token
  have own : token.weight action ≤ _ := Programs.mem_le_weight present member
  have weighs : token.weight action = 1 := congrArg Bool.toNat has
  omega

theorem beside_none (reached : system.Reachable state) {token : Token} {id : Nat} {rest : Program}
    {action beside : Action} (present : state.tasks.lookup id = some (action :: rest))
    (has : token.has action = true) (apart : Programs.Beside state id rest beside) :
    token.has beside = false := by
  have one := tokens_one reached token
  have both : token.weight action + token.weight beside ≤ _ :=
    Programs.beside_le_weight present apart
  have weighs : token.weight action = 1 := congrArg Bool.toNat has
  refine eq_false_of_ne_true ?_
  intro also
  have weighsToo : token.weight beside = 1 := congrArg Bool.toNat also
  omega

end TerminalState

end TinyBus
