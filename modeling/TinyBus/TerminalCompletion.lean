import Mathlib.Algebra.Order.Ring.Int
import TinyBus.TerminalVerdict

/-
What the host may take from the completion of a terminal instance.
-/

namespace TinyBus

open ModuleTransport (TB_OK TB_CLOSED TB_PANICKED)

namespace TerminalState

def Action.drops : Action → Int
  | .dropOwner => 1
  | _ => 0

section

variable {shared after : Shared} {action next : Action} {early more : Program}

theorem tells_drops (tells : early.all Action.tells = true) :
    Programs.weigh Action.drops early = 0 := by
  induction early with
  | nil => rfl
  | cons head rest ih =>
      rw [List.all_cons, Bool.and_eq_true] at tells
      have none : head.drops = 0 := by
        cases head <;> first | rfl | cases tells.1
      rw [Programs.weigh_cons, none, ih tells.2]
      rfl

theorem afterFinish_drops (completed : TerminalCompletion) (failed : Bool) :
    ∀ next ∈ afterFinish completed failed, next.drops = 0 := by
  intro next member
  unfold afterFinish at member
  split at member
  · rw [List.mem_singleton.mp member]
    rfl
  · rcases List.mem_cons.mp member with rfl | last
    · rfl
    · rw [List.mem_singleton.mp last]
      rfl

theorem live_drops (use : LiveUse) :
    (∀ next ∈ use.otherwise, next.drops = 0) ∧ ∀ next ∈ use.continues, next.drops = 0 := by
  cases use <;> decide

theorem leads_drops (leads : Leads shared action next) : next.drops = 0 := by
  cases leads with
  | closed leads => exact (live_drops _).1 next leads
  | closedSince leads => exact (live_drops _).1 next leads
  | live leads => exact (live_drops _).2 next leads
  | takes leads => rcases leads with rfl | rfl <;> rfl
  | nothingToFinish absent leads ends => exact afterFinish_drops _ _ next leads
  | _ => rfl

def Shared.uncounted (shared : Shared) : Int := (shared.owners : Int) - shared.sdkOwners

theorem drops_nonneg (action : Action) : 0 ≤ action.drops := by
  unfold Action.drops
  split <;> decide

theorem uncounted_le (acts : Acts shared action after more) :
    after.uncounted + Programs.weigh Action.drops more ≤ shared.uncounted + action.drops := by
  have nonneg := drops_nonneg action
  have quiet (same : after.uncounted = shared.uncounted)
      (none : Programs.weigh Action.drops more = 0) :
      after.uncounted + Programs.weigh Action.drops more ≤ shared.uncounted + action.drops := by
    rw [same, none]
    omega
  cases acts with
  | passes provision tells => exact quiet rfl (tells_drops tells)
  | leads provision tells leads =>
      refine quiet rfl ?_
      rw [Programs.weigh_append, tells_drops tells, Programs.weigh_cons, leads_drops leads]
      rfl
  | attachesTransport =>
      unfold Shared.uncounted Shared.attachOwner
      simp [Action.drops]
  | attachesObserver =>
      unfold Shared.uncounted Shared.attachOwner
      simp [Action.drops]
  | @finishes failed completion =>
      refine quiet rfl ?_
      unfold afterFinish
      split <;> rfl
  | takesOwner there =>
      have tells (panicking : Bool) :
          (if panicking then caughtPanic else []).all Action.tells = true := by
        cases panicking <;> rfl
      rw [Programs.weigh_append, tells_drops (tells _)]
      unfold Shared.uncounted
      simp [Action.drops]
      omega
  | dropsOwner =>
      unfold Shared.uncounted
      simp [Action.drops]
      omega
  | @judges completion =>
      refine quiet rfl (tells_drops ?_)
      unfold Shared.judge
      dsimp only
      split <;> rfl
  | _ => exact quiet rfl rfl

end

variable {state : Tasks Shared Program}

theorem owners_counted (reached : system.Reachable state) :
    state.shared.owners ≤ state.shared.sdkOwners := by
  have lightens : Tasks.Lightens kind (fun _ _ => True) Shared.uncounted
      (fun _ => Programs.weigh Action.drops) :=
    Programs.lightens_of_acts (fun call => by cases call <;> rfl)
      (fun _ _ _ _ _ _ acted => uncounted_le (act_acts acted))
  have tasks : (Tasks.system kind (· = admitted)).Reachable state := reached
  have bounded : state.shared.uncounted +
      Tasks.weight (fun _ => Programs.weigh Action.drops) state.tasks ≤ 0 :=
    Tasks.total_le_of_unguarded lightens (fun _ starts => starts ▸ Int.le_refl _) tasks
  have nonneg (_ : Nat) (task : Program) : 0 ≤ Programs.weigh Action.drops task :=
    List.sum_nonneg (by
      intro value member
      obtain ⟨action, _, rfl⟩ := List.mem_map.mp member
      exact drops_nonneg action)
  have others := Tasks.weight_nonneg nonneg state.tasks
  unfold Shared.uncounted at bounded
  omega

/-- What holds when the finish hook is called, and from then on. -/
structure Ready (shared : Shared) : Prop where
  terminal : shared.reason ≠ 0
  settled : shared.requestState = .done ∨ shared.requestState = .panicked
  inactive : shared.activeReinit = false
  concluded : Over shared

structure Stopped (shared : Shared) : Prop where
  confirmed : shared.confirmed = some .physicallyStopped ∨
    shared.requestState = .unregistered ∧ shared.finishes = 0
  disposed : shared.disposed = true ∧ shared.retirementFailed = false ∧ shared.released = true
  owners : shared.sdkOwners = 0 ∧ shared.owners = 0
  checked : shared.vtablePublished = true → shared.checked = some false

/-- The account of an instance that holds at any time. -/
structure Accounted (shared : Shared) : Prop where
  requestOnce : shared.requests.length ≤ 1
  finishOnce : shared.finishes ≤ 1
  finished : shared.finishes ≠ 0 → Ready shared
  reason : shared.reason = recorded shared.committed
  stopped : shared.completion = some .physicallyStopped →
    shared.uncertain = false ∧ Stopped shared
  judged : ∀ judgement ∈ shared.judged, judgement.code = TB_OK →
    judgement.completion = .physicallyStopped ∧ judgement.reason < 3 ∧ Stopped shared

/-- How an instance goes on: a reason only gives way to a fault, and a doubt stays. -/
structure Later (before after : Shared) : Prop where
  reason : after.reason = before.reason ∨ before.reason = 0 ∨
    before.reason < 3 ∧ 3 ≤ after.reason
  uncertain : before.completion = some .uncertain → after.completion = some .uncertain

theorem Later.refl (shared : Shared) : Later shared shared := ⟨.inl rfl, id⟩

theorem Later.trans {first middle last : Shared} (early : Later first middle)
    (late : Later middle last) : Later first last := by
  refine ⟨?_, fun doubt => late.uncertain (early.uncertain doubt)⟩
  have before := early.reason
  have after := late.reason
  omega

section

variable {shared after : Shared} {action : Action} {more : Program}

theorem Finishing.ready (finishing : Finishing shared) : Ready shared := by
  obtain ⟨terminal, inactive⟩ := finishing.late.ended.resolve_left finishing.registered
  refine ⟨terminal, ?_, inactive, finishing.concluded⟩
  have settled := finishing.late.settled
  have registered := finishing.registered
  cases given : shared.requestState with
  | done => exact .inl rfl
  | panicked => exact .inr rfl
  | unregistered => exact absurd given registered
  | idle => exact absurd given settled.1
  | running => exact absurd given settled.2

theorem Proven.stopped (proven : Proven shared) (common : Common shared)
    (counted : shared.owners ≤ shared.sdkOwners) : Stopped shared where
  confirmed := by
    rcases proven.confirmed with confirmed | unregistered
    · exact .inl confirmed
    · refine .inr ⟨unregistered, Decidable.byContradiction ?_⟩
      intro called
      exact (common.finished called).registered unregistered
  disposed := ⟨proven.clean.disposed, proven.clean.retired, proven.released⟩
  owners := ⟨proven.owners, Nat.le_zero.mp (proven.owners ▸ counted)⟩
  checked := proven.checked

theorem commit_later (shared : Shared) (reason : TerminalReason) :
    Later shared (shared.commit reason) := by
  refine ⟨?_, id⟩
  unfold Shared.commit
  dsimp only
  split
  · rename_i gives
    rw [Bool.or_eq_true, Bool.and_eq_true, decide_eq_true_eq, decide_eq_true_eq,
      decide_eq_true_eq] at gives
    exact .inr gives
  · exact .inl rfl

theorem recordUncertain_later (shared : Shared) : Later shared shared.recordUncertain := by
  refine ⟨.inl rfl, ?_⟩
  intro doubt
  unfold Shared.recordUncertain
  rw [doubt]
  rfl

theorem acts_later (acts : Acts shared action after more)
    (uncompleted : Token.worker.has action = true → shared.completion = none) :
    Later shared after := by
  cases acts with
  | commits => exact commit_later shared _
  | uncertain => exact recordUncertain_later shared
  | requestPanicked =>
      have later := recordUncertain_later shared
      exact ⟨later.reason, later.uncertain⟩
  | spawnFails => exact ⟨.inl rfl, fun _ => rfl⟩
  | finalizes =>
      refine ⟨.inl rfl, ?_⟩
      intro doubt
      rw [uncompleted rfl] at doubt
      cases doubt
  | _ => exact ⟨.inl rfl, id⟩

theorem finishes_ready (acts : Acts shared action after more) (common : Common shared)
    (taken : Taken shared action) (calls : after.finishes ≠ shared.finishes) : Ready shared := by
  cases acts with
  | takesFinish there =>
      obtain ⟨late, settled⟩ := taken.knows.relies
      exact Finishing.ready ⟨late, (settled rfl).1, common.hook there⟩
  | _ => exact absurd rfl calls

end

theorem reachable_accounted (reached : system.Reachable state) : Accounted state.shared := by
  have common := (reachable_informed reached).common
  have counted := owners_counted reached
  refine ⟨?_, ?_, fun called => (common.finished called).ready, common.reason, ?_, ?_⟩
  · have one := tokens_one reached .request
    unfold Token.spare at one
    dsimp only at one
    omega
  · have one := tokens_one reached .finish
    unfold Token.spare at one
    dsimp only at one
    omega
  · intro stopped
    obtain ⟨certain, proven⟩ := common.stopped stopped
    exact ⟨certain, proven.stopped common counted⟩
  · intro judgement member succeeded
    obtain ⟨stopped, ordinary, proven⟩ := common.judged judgement member succeeded
    exact ⟨stopped, ordinary, proven.stopped common counted⟩

theorem next_later (reached : system.Reachable state) (event : Tasks.Event Call Choice Empty) :
    Later state.shared (Tasks.next kind state event).shared ∧
      ((Tasks.next kind state event).shared.finishes ≠ state.shared.finishes →
        Ready state.shared) := by
  have informed := reachable_informed reached
  have moved := Tasks.next_moved kind state event
  generalize Tasks.next kind state event = next at moved
  cases moved with
  | still => exact ⟨.refl _, fun calls => absurd rfl calls⟩
  | started vacant => exact ⟨.refl _, fun calls => absurd rfl calls⟩
  | @around event => exact event.elim
  | @stepped id choice task stepped shared present taken =>
      obtain ⟨action, rest, more, rfl, rfl, acted⟩ := Programs.step_acts taken
      have acts := act_acts acted
      exact ⟨acts_later acts (uncompleted_of_reachable reached present),
        finishes_ready acts informed.common (taken_of_reachable reached informed present)⟩

theorem run_later (reached : system.Reachable state) {later : Tasks Shared Program}
    {events : List (Tasks.Event Call Choice Empty)} (run : system.Run state events later) :
    Later state.shared later.shared := by
  refine run.relation (fun before after => Later before.shared after.shared) (fun _ => .refl _)
    (fun _ _ _ => .trans) (fun _ _ _ stepped reached => reached.step stepped) ?_ reached
  rintro before event after rfl reached
  exact (next_later reached event).1

/-- The account holds in every state, the finish hook is called when it is time, and over
any run a reason only gives way to a fault and a doubt stays. -/
theorem terminal_accounted (reached : system.Reachable state) :
    Accounted state.shared ∧
      (∀ event, (Tasks.next kind state event).shared.finishes ≠ state.shared.finishes →
        Ready state.shared) ∧
      ∀ events later, system.Run state events later → Later state.shared later.shared :=
  ⟨reachable_accounted reached, fun event => (next_later reached event).2,
    fun _ _ run => run_later reached run⟩

def turns (id : Nat) (choices : List Choice) : List (Tasks.Event Call Choice Empty) :=
  choices.map (fun choice => .advance id choice)

def replay (events : List (Tasks.Event Call Choice Empty)) : Tasks Shared Program :=
  events.foldl (Tasks.next kind) ⟨admitted, ∅⟩

theorem replay_reachable (events : List (Tasks.Event Call Choice Empty)) :
    system.Reachable (replay events) :=
  .of_foldl ⟨rfl, rfl⟩ events

def hostLives : Choice := .native (some TB_NATIVE_TERMINAL_LIVE)

/-- The factory call of the first thread succeeds, and the second runs the initial task. -/
def starting : List (Tasks.Event Call Choice Empty) :=
  .start 0 .startTerminalFactory ::
    turns 0 (List.replicate 6 .proceed ++ hostLives :: List.replicate 10 .proceed) ++
      .start 1 .initial ::
        turns 1 (List.replicate 5 .proceed ++ hostLives :: List.replicate 4 .proceed ++
          hostLives :: List.replicate 2 .proceed)

def shuttingDown : List (Tasks.Event Call Choice Empty) :=
  .start 2 .shutdown ::
    turns 2 (.proceed :: hostLives :: List.replicate 5 .proceed ++ [.spawned true])

def finishing : List (Tasks.Event Call Choice Empty) :=
  .start 3 .worker ::
    turns 3 (List.replicate 11 .proceed ++ [.completed .physicallyStopped])

def releasing : List (Tasks.Event Call Choice Empty) :=
  .start 4 (.dropOwner false) :: .start 5 (.dropOwner false) ::
    turns 4 (List.replicate 2 .proceed) ++ turns 5 (List.replicate 2 .proceed) ++
      turns 3 (List.replicate 10 .proceed ++ [hostLives, .proceed])

def concluding : List (Tasks.Event Call Choice Empty) := turns 3 [.proceed]

def answering : List (Tasks.Event Call Choice Empty) :=
  turns 2 [.proceed, hostLives, .proceed]

/-- A controller reports a fault after the worker's last check. -/
def faulting : List (Tasks.Event Call Choice Empty) :=
  .start 6 .requestFault :: turns 6 [.proceed]

/-- The factory returns an error, and so there never are hooks. -/
def failing : List (Tasks.Event Call Choice Empty) :=
  .start 0 .startTerminalFactory ::
    turns 0 ([.proceed, .proceed, .failed, .proceed, .proceed, .proceed, .spawned true] ++
      List.replicate 6 .proceed) ++
      .start 1 .worker ::
        turns 1 (List.replicate 20 .proceed ++ [hostLives, .proceed, .proceed])

def stoppedInstance : Tasks Shared Program :=
  replay (starting ++ shuttingDown ++ finishing ++ releasing ++ concluding ++ answering)

def failedInstance : Tasks Shared Program := replay failing

def lateFault : Tasks Shared Program :=
  replay (starting ++ shuttingDown ++ finishing ++ releasing ++ faulting ++ concluding)

theorem stoppedInstance_accounted :
    stoppedInstance.shared.judged = [⟨.physicallyStopped, 1, TB_OK⟩] ∧
      stoppedInstance.shared.finishes = 1 ∧ Accounted stoppedInstance.shared :=
  ⟨by decide +kernel, by decide +kernel, (terminal_accounted (replay_reachable _)).1⟩

/-- An instance without hooks counts as stopped although its setup failed, and so does one
whose fault comes between the last check and the completion. -/
theorem stopped_without_finish :
    (system.Reachable failedInstance ∧
      failedInstance.shared.completion = some .physicallyStopped ∧
      failedInstance.shared.finishes = 0 ∧ failedInstance.shared.confirmed = none ∧
      failedInstance.shared.reason = 4) ∧
    (system.Reachable lateFault ∧ lateFault.shared.vtablePublished = true ∧
      lateFault.shared.completion = some .physicallyStopped ∧ lateFault.shared.reason = 3) :=
  ⟨⟨replay_reachable _, by decide +kernel, by decide +kernel, by decide +kernel,
      by decide +kernel⟩,
    ⟨replay_reachable _, by decide +kernel, by decide +kernel, by decide +kernel⟩⟩

end TerminalState

end TinyBus
