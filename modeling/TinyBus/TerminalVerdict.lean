import TinyBus.TerminalTokens

/-
The verdict on a terminal instance.  The worker's actions know what its earlier ones found,
and what they know stays true while the others go on, since the factory call is over, the
initial task has ended and there is no second worker.
-/

namespace TinyBus

open ModuleTransport (TB_OK TB_CLOSED TB_PANICKED)

namespace TerminalState

/-! ### What the worker finds -/

/-- The request has been answered for good and no reinitialization is active, in so far as
there are hooks at all. -/
structure Late (shared : Shared) : Prop where
  published : shared.published = true
  settled : shared.requestState ≠ .idle ∧ shared.requestState ≠ .running
  ended : shared.requestState = .unregistered ∨ shared.reason ≠ 0 ∧ shared.activeReinit = false

/-- The execution is settled. -/
def Over (shared : Shared) : Prop :=
  shared.initialTask ≠ .ready ∧ shared.initialTask ≠ .running

structure Clean (shared : Shared) : Prop where
  disposed : shared.disposed = true
  retired : shared.retirementFailed = false

/-- The finish hook answered that everything has stopped, or there never were hooks. -/
def Confirmed (shared : Shared) : Prop :=
  shared.confirmed = some .physicallyStopped ∨ shared.requestState = .unregistered

structure Finished (shared : Shared) : Prop where
  late : Late shared
  concluded : Over shared
  clean : Clean shared
  confirmed : Confirmed shared

structure Freed (shared : Shared) : Prop extends Finished shared where
  released : shared.released = true
  owners : shared.sdkOwners = 0

/-- What a completion stands for. -/
structure Proven (shared : Shared) : Prop extends Freed shared where
  completed : shared.completion ≠ none
  checked : shared.vtablePublished = true → shared.checked = some false

structure Called (shared : Shared) : Prop where
  registered : shared.requestState ≠ .unregistered
  terminal : shared.reason ≠ 0

def Action.answersRequest : Action → Bool
  | .callRequest _ => true
  | .requestReturns => true
  | .requestPanicked => true
  | _ => false

def Relies (shared : Shared) : Action → Prop
  | .settleExecution => Late shared
  | .join => Late shared
  | .readRetired settled => Late shared ∧ (settled = true → Over shared)
  | .disposeSetup _ => Late shared ∧ Over shared ∧ shared.retirementFailed = false
  | .takeFinish settled failed =>
      Late shared ∧ (settled = true → Over shared ∧ (failed = false → Clean shared))
  | .finishReturns failed => Late shared ∧ Over shared ∧ (failed = false → Clean shared)
  | .releaseResources _ => Finished shared
  | .countOwners => Finished shared
  | .finalCheck completed released =>
      completed = .physicallyStopped → released = true → Freed shared
  | .finalize completed failed =>
      completed = .physicallyStopped → failed = false →
        Freed shared ∧ (shared.vtablePublished = true → shared.checked = some false)
  | .judge completion => completion = .physicallyStopped → Proven shared
  | _ => True

structure Knows (shared : Shared) (action : Action) : Prop where
  runs : action.runsInitial = true → shared.initialTask = .running
  called : action.answersRequest = true → Called shared
  relies : Relies shared action

/-! ### What stays -/

section

variable {shared after : Shared} {action beside : Action} {more : Program}

theorem commit_reason (shared : Shared) (reason : TerminalReason) (terminal : shared.reason ≠ 0) :
    (shared.commit reason).reason ≠ 0 := by
  unfold Shared.commit
  dsimp only
  split
  · cases reason <;> nofun
  · exact terminal

theorem reason_stays (acts : Acts shared action after more) (terminal : shared.reason ≠ 0) :
    after.reason ≠ 0 := by
  cases acts with
  | commits => exact commit_reason shared _ terminal
  | _ => exact terminal

theorem registered_stays (acts : Acts shared action after more)
    (registered : shared.requestState ≠ .unregistered) : after.requestState ≠ .unregistered := by
  cases acts with
  | runsRequest => nofun
  | requestDone => nofun
  | requestPanicked => nofun
  | registers => nofun
  | _ => exact registered

theorem Called.stays (called : Called shared) (acts : Acts shared action after more) :
    Called after :=
  ⟨registered_stays acts called.registered, reason_stays acts called.terminal⟩

/-- What is known of the action that is taken, and of the factory call: it is over once
it has published. -/
structure Taken (shared : Shared) (action : Action) : Prop where
  knows : Knows shared action
  unpublished : Token.factory.has action = true → shared.published = false

theorem Taken.unregistered (taken : Taken shared action) (late : Late shared)
    (answers : action.answersRequest = true) : shared.reason ≠ 0 ∧ shared.activeReinit = false :=
  late.ended.resolve_left (taken.knows.called answers).registered

theorem Taken.not_published (taken : Taken shared action) (published : shared.published = true)
    (has : Token.factory.has action = true) : False := by
  rw [taken.unpublished has] at published
  cases published

theorem published_stays (acts : Acts shared action after more)
    (published : shared.published = true) : after.published = true := by
  cases acts with
  | publishes => rfl
  | _ => exact published

theorem Late.stays (late : Late shared) (acts : Acts shared action after more)
    (taken : Taken shared action) : Late after := by
  have published := published_stays acts late.published
  cases acts with
  | commits =>
      refine ⟨published, late.settled, ?_⟩
      rcases late.ended with unregistered | ⟨terminal, inactive⟩
      · exact .inl unregistered
      · exact .inr ⟨commit_reason shared _ terminal, inactive⟩
  | runsRequest terminal idle => exact absurd idle late.settled.1
  | requestDone ends =>
      refine ⟨published, ⟨nofun, nofun⟩, .inr (taken.unregistered late ?_)⟩
      rcases ends with rfl | rfl <;> rfl
  | requestPanicked => exact ⟨published, ⟨nofun, nofun⟩, .inr (taken.unregistered late rfl)⟩
  | registers => exact (taken.not_published late.published rfl).elim
  | beginsReinit live =>
      refine ⟨published, late.settled, ?_⟩
      rcases late.ended with unregistered | ⟨terminal, inactive⟩
      · exact .inl unregistered
      · exact absurd live terminal
  | endsReinit =>
      refine ⟨published, late.settled, ?_⟩
      rcases late.ended with unregistered | ⟨terminal, inactive⟩
      · exact .inl unregistered
      · exact .inr ⟨terminal, rfl⟩
  | _ => exact ⟨published, late.settled, late.ended⟩

theorem over_stays (concluded : Over shared) (published : shared.published = true)
    (acts : Acts shared action after more) (taken : Taken shared action) : Over after := by
  cases acts with
  | spawnsInitial => exact (taken.not_published published rfl).elim
  | beginsInitial ready => exact absurd ready concluded.1
  | cancelsInitial => exact ⟨nofun, nofun⟩
  | endsInitial => exact ⟨nofun, nofun⟩
  | _ => exact concluded

theorem running_stays (running : shared.initialTask = .running)
    (acts : Acts shared action after more) (other : Token.initial.has action = false) :
    after.initialTask = .running := by
  cases acts with
  | spawnsInitial => cases other
  | beginsInitial ready => rfl
  | cancelsInitial ready =>
      rw [running] at ready
      cases ready
  | endsInitial => cases other
  | _ => exact running

theorem retired_stays (retired : shared.retirementFailed = false)
    (acts : Acts shared action after more) (other : Token.worker.has action = false) :
    after.retirementFailed = false := by
  cases acts with
  | served => cases other
  | _ => exact retired

theorem Clean.stays (clean : Clean shared) (acts : Acts shared action after more)
    (other : Token.worker.has action = false) : Clean after := by
  refine ⟨?_, retired_stays clean.retired acts other⟩
  have disposed := clean.disposed
  cases acts with
  | disposed => cases other
  | _ => exact disposed

theorem confirmed_stays (confirmed : Confirmed shared) (published : shared.published = true)
    (acts : Acts shared action after more) (taken : Taken shared action)
    (other : Token.worker.has action = false) : Confirmed after := by
  have answers (answers : action.answersRequest = true) :
      shared.confirmed = some .physicallyStopped :=
    confirmed.resolve_right (taken.knows.called answers).registered
  cases acts with
  | runsRequest terminal idle =>
      rcases confirmed with stopped | unregistered
      · exact .inl stopped
      · rw [idle] at unregistered
        cases unregistered
  | requestDone ends =>
      refine .inl (answers ?_)
      rcases ends with rfl | rfl <;> rfl
  | requestPanicked => exact .inl (answers rfl)
  | registers => exact (taken.not_published published rfl).elim
  | finishes => cases other
  | _ => exact confirmed

theorem Finished.stays (finished : Finished shared) (acts : Acts shared action after more)
    (taken : Taken shared action) (other : Token.worker.has action = false) : Finished after where
  late := finished.late.stays acts taken
  concluded := over_stays finished.concluded finished.late.published acts taken
  clean := finished.clean.stays acts other
  confirmed := confirmed_stays finished.confirmed finished.late.published acts taken other

theorem owners_stay (owners : shared.sdkOwners = 0) (finished : Finished shared)
    (acts : Acts shared action after more) (taken : Taken shared action)
    (other : Token.worker.has action = false) : after.sdkOwners = 0 := by
  cases acts with
  | attachesTransport => exact (taken.not_published finished.late.published rfl).elim
  | attachesObserver => exact absurd (taken.knows.runs rfl) finished.concluded.2
  | dropsOwner =>
      dsimp only
      rw [owners]
  | _ => exact owners

theorem Freed.stays (freed : Freed shared) (acts : Acts shared action after more)
    (taken : Taken shared action) (other : Token.worker.has action = false) : Freed after := by
  refine ⟨freed.toFinished.stays acts taken other, ?_,
    owners_stay freed.owners freed.toFinished acts taken other⟩
  have released := freed.released
  cases acts with
  | counts => cases other
  | _ => exact released

theorem checked_stays (published : shared.published = true)
    (checked : shared.vtablePublished = true → shared.checked = some false)
    (acts : Acts shared action after more) (taken : Taken shared action)
    (other : Token.worker.has action = false) :
    after.vtablePublished = true → after.checked = some false := by
  cases acts with
  | marks => exact (taken.not_published published rfl).elim
  | checks => cases other
  | _ => exact checked

theorem recordUncertain_none (shared : Shared) :
    shared.recordUncertain.completion = none ↔ shared.completion = none := by
  rw [← Option.isNone_iff_eq_none, ← Option.isNone_iff_eq_none, ← Option.not_isSome,
    ← Option.not_isSome, recordUncertain_isSome]

theorem recordUncertain_not_stopped (shared : Shared) :
    shared.recordUncertain.completion ≠ some .physicallyStopped := by
  unfold Shared.recordUncertain
  dsimp only
  split
  · nofun
  · assumption

theorem completed_stays (completed : shared.completion ≠ none)
    (acts : Acts shared action after more) : after.completion ≠ none := by
  cases acts with
  | uncertain => exact fun none => completed ((recordUncertain_none shared).mp none)
  | requestPanicked => exact fun none => completed ((recordUncertain_none shared).mp none)
  | spawnFails => nofun
  | finalizes => nofun
  | _ => exact completed

theorem Proven.stays (proven : Proven shared) (acts : Acts shared action after more)
    (taken : Taken shared action) (other : Token.worker.has action = false) : Proven after where
  toFreed := proven.toFreed.stays acts taken other
  completed := completed_stays proven.completed acts
  checked := checked_stays proven.late.published proven.checked acts taken other

theorem knows_stays (knows : Knows shared beside) (acts : Acts shared action after more)
    (taken : Taken shared action)
    (other : ∀ token : Token, token.has beside = true → token.has action = false)
    (uncompleted : Token.worker.has action = true → shared.completion = none) :
    Knows after beside := by
  have relies := knows.relies
  refine ⟨?_, fun answers => (knows.called answers).stays acts, ?_⟩
  · intro runs
    have has : Token.initial.has beside = true := by
      unfold Token.has
      dsimp only
      rw [runs, Bool.or_true]
    exact running_stays (knows.runs runs) acts (other .initial has)
  · cases beside with
    | settleExecution => exact Late.stays relies acts taken
    | join => exact Late.stays relies acts taken
    | readRetired settled =>
        refine ⟨relies.1.stays acts taken, ?_⟩
        intro settled
        exact over_stays (relies.2 settled) relies.1.published acts taken
    | disposeSetup left =>
        exact ⟨relies.1.stays acts taken, over_stays relies.2.1 relies.1.published acts taken,
          retired_stays relies.2.2 acts (other .worker rfl)⟩
    | takeFinish settled failed =>
        refine ⟨relies.1.stays acts taken, ?_⟩
        intro settled
        refine ⟨over_stays (relies.2 settled).1 relies.1.published acts taken, ?_⟩
        intro whole
        exact ((relies.2 settled).2 whole).stays acts (other .worker rfl)
    | finishReturns failed =>
        refine ⟨relies.1.stays acts taken,
          over_stays relies.2.1 relies.1.published acts taken, ?_⟩
        intro whole
        exact (relies.2.2 whole).stays acts (other .worker rfl)
    | releaseResources left => exact Finished.stays relies acts taken (other .worker rfl)
    | countOwners => exact Finished.stays relies acts taken (other .worker rfl)
    | finalCheck completed released =>
        intro stopped all
        exact (relies stopped all).stays acts taken (other .worker rfl)
    | finalize completed failed =>
        intro stopped passed
        obtain ⟨freed, checked⟩ := relies stopped passed
        exact ⟨freed.stays acts taken (other .worker rfl),
          checked_stays freed.late.published checked acts taken (other .worker rfl)⟩
    | judge completion =>
        intro stopped
        have proven := relies stopped
        refine proven.stays acts taken (eq_false_of_ne_true ?_)
        intro works
        exact proven.completed (uncompleted works)
    | _ => trivial

/-! ### The reason -/

def recorded (committed : List TerminalReason) : Nat :=
  match committed.find? (fun reason => 3 ≤ reason.code) with
  | some reason => reason.code
  | none => (committed.head?.map TerminalReason.code).getD 0

theorem recorded_snoc (committed : List TerminalReason) (reason : TerminalReason) :
    recorded (committed ++ [reason]) =
      if recorded committed = 0 || (recorded committed < 3 && 3 ≤ reason.code) then reason.code
      else recorded committed := by
  unfold recorded
  rw [List.find?_append]
  cases found : committed.find? (fun reason => 3 ≤ reason.code) with
  | some first =>
      have faults : decide (3 ≤ first.code) = true :=
        List.find?_some (p := fun reason : TerminalReason => decide (3 ≤ reason.code)) found
      have high := of_decide_eq_true faults
      have low : ¬ first.code < 3 := Nat.not_lt.mpr high
      have there : ¬ first.code = 0 := by omega
      simp [low, there]
  | none =>
      cases committed with
      | nil => cases reason <;> rfl
      | cons head rest =>
          have ordinary : ¬ 3 ≤ head.code := by
            intro faults
            have none := List.find?_eq_none.mp found head (List.mem_cons_self ..)
            exact none (decide_eq_true faults)
          cases reason <;> cases head <;> first | rfl | exact absurd (by decide) ordinary

/-! ### What every instance has -/

structure Finishing (shared : Shared) : Prop where
  late : Late shared
  concluded : Over shared
  registered : shared.requestState ≠ .unregistered

structure Common (shared : Shared) : Prop where
  reason : shared.reason = recorded shared.committed
  called : shared.requestState ≠ .unregistered → shared.requestState ≠ .idle → shared.reason ≠ 0
  hook : shared.finish = true → shared.requestState ≠ .unregistered
  held : shared.requestState ≠ .unregistered → shared.finish = true ∨ shared.finishes ≠ 0
  handle : shared.initialTask = .absent ∨ shared.initial = true ∨ shared.aborted = true
  finished : shared.finishes ≠ 0 → Finishing shared
  stopped : shared.completion = some .physicallyStopped →
    shared.uncertain = false ∧ Proven shared
  judged : ∀ judgement ∈ shared.judged, judgement.code = TB_OK →
    judgement.completion = .physicallyStopped ∧ judgement.reason < 3 ∧ Proven shared

theorem admitted_common : Common admitted where
  reason := rfl
  called := fun registered => absurd rfl registered
  hook := nofun
  held := fun registered => absurd rfl registered
  handle := .inl rfl
  finished := fun called => absurd rfl called
  stopped := nofun
  judged := nofun

theorem Finishing.stays (finishing : Finishing shared) (acts : Acts shared action after more)
    (taken : Taken shared action) : Finishing after where
  late := finishing.late.stays acts taken
  concluded := over_stays finishing.concluded finishing.late.published acts taken
  registered := registered_stays acts finishing.registered

theorem reason_recorded (reason : shared.reason = recorded shared.committed)
    (acts : Acts shared action after more) : after.reason = recorded after.committed := by
  cases acts with
  | commits =>
      unfold Shared.commit
      dsimp only
      rw [recorded_snoc, ← reason]
  | _ => exact reason

theorem called_stays (common : Common shared) (acts : Acts shared action after more)
    (taken : Taken shared action) :
    after.requestState ≠ .unregistered → after.requestState ≠ .idle → after.reason ≠ 0 := by
  have called := common.called
  cases acts with
  | commits =>
      intro registered unsettled
      exact commit_reason shared _ (called registered unsettled)
  | runsRequest terminal idle => exact fun _ _ => terminal
  | requestDone ends =>
      intro _ _
      refine (taken.knows.called ?_).terminal
      rcases ends with rfl | rfl <;> rfl
  | requestPanicked => exact fun _ _ => (taken.knows.called rfl).terminal
  | registers => exact fun _ busy => absurd rfl busy
  | _ => exact called

theorem hook_stays (common : Common shared) (acts : Acts shared action after more) :
    after.finish = true → after.requestState ≠ .unregistered := by
  intro there
  cases before : shared.finish with
  | true => exact registered_stays acts (common.hook before)
  | false =>
      have new (same : after.finish = shared.finish) : False := by
        rw [same, before] at there
        cases there
      cases acts with
      | registers => nofun
      | takesFinish => cases there
      | _ => exact (new rfl).elim

theorem held_stays (common : Common shared) (acts : Acts shared action after more)
    (taken : Taken shared action) :
    after.requestState ≠ .unregistered → after.finish = true ∨ after.finishes ≠ 0 := by
  have held := common.held
  cases acts with
  | runsRequest terminal idle => exact fun _ => held (idle ▸ nofun)
  | requestDone ends =>
      intro _
      refine held (taken.knows.called ?_).registered
      rcases ends with rfl | rfl <;> rfl
  | requestPanicked => exact fun _ => held (taken.knows.called rfl).registered
  | registers => exact fun _ => .inl rfl
  | takesFinish => exact fun _ => .inr (Nat.succ_ne_zero _)
  | _ => exact held

theorem handle_stays (common : Common shared) (acts : Acts shared action after more)
    (taken : Taken shared action) :
    after.initialTask = .absent ∨ after.initial = true ∨ after.aborted = true := by
  have handle := common.handle
  have kept (begun : shared.initialTask ≠ .absent) :
      shared.initial = true ∨ shared.aborted = true := handle.resolve_left begun
  cases acts with
  | spawnsInitial => exact .inr (.inl rfl)
  | beginsInitial ready => exact .inr (kept (ready ▸ nofun))
  | cancelsInitial ready => exact .inr (kept (ready ▸ nofun))
  | endsInitial => exact .inr (kept (taken.knows.runs rfl ▸ nofun))
  | aborts => exact .inr (.inr rfl)
  | settles => exact .inr (.inr rfl)
  | _ => exact handle

theorem finished_stays (common : Common shared) (acts : Acts shared action after more)
    (taken : Taken shared action) : after.finishes ≠ 0 → Finishing after := by
  intro called
  by_cases before : shared.finishes = 0
  · have new (same : after.finishes = shared.finishes) : False := called (same.trans before)
    cases acts with
    | takesFinish there =>
        obtain ⟨late, settled⟩ := taken.knows.relies
        exact ⟨⟨late.published, late.settled, late.ended⟩, (settled rfl).1, common.hook there⟩
    | _ => exact (new rfl).elim
  · exact (common.finished before).stays acts taken

theorem stopped_stays (common : Common shared) (acts : Acts shared action after more)
    (taken : Taken shared action)
    (uncompleted : Token.worker.has action = true → shared.completion = none) :
    after.completion = some .physicallyStopped → after.uncertain = false ∧ Proven after := by
  intro stopped
  have kept (same : after.completion = shared.completion)
      (certain : after.uncertain = shared.uncertain) : after.uncertain = false ∧ Proven after := by
    rw [same] at stopped
    obtain ⟨before, proven⟩ := common.stopped stopped
    refine ⟨certain.trans before, proven.stays acts taken (eq_false_of_ne_true ?_)⟩
    intro works
    exact proven.completed (uncompleted works)
  cases acts with
  | uncertain => exact absurd stopped (recordUncertain_not_stopped shared)
  | requestPanicked => exact absurd stopped (recordUncertain_not_stopped shared)
  | spawnFails => cases stopped
  | @finalizes completed failed anchor =>
      have certain : (shared.uncertain || failed) = false := by
        refine eq_false_of_ne_true ?_
        intro uncertain
        rw [uncertain] at stopped
        cases stopped
      rw [certain] at stopped
      rw [Bool.or_eq_false_iff] at certain
      obtain ⟨freed, checked⟩ := taken.knows.relies (Option.some.inj stopped) certain.2
      refine ⟨Bool.or_eq_false_iff.mpr certain, ?_⟩
      exact ⟨⟨⟨⟨freed.late.published, freed.late.settled, freed.late.ended⟩, freed.concluded,
        ⟨freed.clean.disposed, freed.clean.retired⟩, freed.confirmed⟩, freed.released,
        freed.owners⟩, nofun, checked⟩
  | _ => exact kept rfl rfl

theorem judged_stays (common : Common shared) (acts : Acts shared action after more)
    (taken : Taken shared action)
    (uncompleted : Token.worker.has action = true → shared.completion = none) :
    ∀ judgement ∈ after.judged, judgement.code = TB_OK →
      judgement.completion = .physicallyStopped ∧ judgement.reason < 3 ∧ Proven after := by
  have kept : ∀ judgement ∈ shared.judged, judgement.code = TB_OK →
      judgement.completion = .physicallyStopped ∧ judgement.reason < 3 ∧ Proven after := by
    intro judgement member succeeded
    obtain ⟨stopped, ordinary, proven⟩ := common.judged judgement member succeeded
    refine ⟨stopped, ordinary, proven.stays acts taken (eq_false_of_ne_true ?_)⟩
    intro works
    exact proven.completed (uncompleted works)
  cases acts with
  | @judges completion =>
      intro judgement member succeeded
      rcases List.mem_append.mp member with before | new
      · exact kept judgement before succeeded
      · rw [List.mem_singleton.mp new] at succeeded ⊢
        have passes : ¬ (completion ≠ .physicallyStopped || shared.hasFault) = true := by
          intro fails
          dsimp only at succeeded
          rw [if_pos fails] at succeeded
          cases succeeded
        rw [Bool.or_eq_true, not_or, decide_eq_true_eq, Decidable.not_not] at passes
        obtain ⟨stopped, ordinary⟩ := passes
        have proven := taken.knows.relies stopped
        refine ⟨stopped, Nat.lt_of_not_le (fun fault => ordinary (decide_eq_true fault)), ?_⟩
        exact proven.stays (@Acts.judges shared completion) taken rfl
  | _ => exact kept

theorem Common.stays (common : Common shared) (acts : Acts shared action after more)
    (taken : Taken shared action)
    (uncompleted : Token.worker.has action = true → shared.completion = none) : Common after where
  reason := reason_recorded common.reason acts
  called := called_stays common acts taken
  hook := hook_stays common acts
  held := held_stays common acts taken
  handle := handle_stays common acts taken
  finished := finished_stays common acts taken
  stopped := stopped_stays common acts taken uncompleted
  judged := judged_stays common acts taken uncompleted

/-! ### What the next action knows -/

theorem tells_knows (tells : beside.tells = true) : Knows shared beside := by
  refine ⟨?_, ?_, ?_⟩
  · intro runs
    cases beside <;> contradiction
  · intro answers
    cases beside <;> contradiction
  · cases beside <;> trivial

theorem all_tells_knows {early : Program} (tells : early.all Action.tells = true) :
    ∀ next ∈ early, Knows shared next :=
  fun next member => tells_knows (List.all_eq_true.mp tells next member)

theorem isLive_runs (use : LiveUse) :
    (Action.isLive use).runsInitial = (Action.stillLive use).runsInitial := by
  cases use <;> rfl

theorem otherwise_knows {use : LiveUse} {next : Action} (leads : next ∈ use.otherwise)
    (runs : (Action.stillLive use).runsInitial = true → shared.initialTask = .running) :
    Knows shared next := by
  cases use with
  | view => cases leads
  | initialSetup =>
      rw [List.mem_singleton.mp leads]
      exact ⟨fun _ => runs rfl, nofun, trivial⟩
  | initialReady =>
      rw [List.mem_singleton.mp leads]
      exact ⟨fun _ => runs rfl, nofun, trivial⟩
  | _ =>
      rw [List.mem_singleton.mp leads]
      exact ⟨nofun, nofun, trivial⟩

theorem continues_knows {use : LiveUse} {next : Action} (leads : next ∈ use.continues)
    (runs : (Action.stillLive use).runsInitial = true → shared.initialTask = .running) :
    Knows shared next := by
  cases use with
  | view => cases leads
  | initialSetup =>
      rw [List.mem_singleton.mp leads]
      exact ⟨fun _ => runs rfl, nofun, trivial⟩
  | initialReady =>
      rw [List.mem_singleton.mp leads]
      exact ⟨fun _ => runs rfl, nofun, trivial⟩
  | _ =>
      rw [List.mem_singleton.mp leads]
      exact ⟨nofun, nofun, trivial⟩

theorem afterFinish_knows {completed : TerminalCompletion} {failed : Bool}
    (finished : completed = .physicallyStopped → failed = false → Finished shared) :
    ∀ next ∈ afterFinish completed failed, Knows shared next := by
  intro next leads
  unfold afterFinish at leads
  split at leads
  · rename_i releases
    rw [Bool.and_eq_true, decide_eq_true_eq, Bool.not_eq_true'] at releases
    rw [List.mem_singleton.mp leads]
    exact ⟨nofun, nofun, finished releases.1 releases.2⟩
  · rcases List.mem_cons.mp leads with rfl | leads
    · exact ⟨nofun, nofun, trivial⟩
    · rw [List.mem_singleton.mp leads]
      exact ⟨nofun, nofun, nofun⟩

theorem Common.unregistered (common : Common shared) (absent : shared.finish = false)
    (uncalled : shared.finishes = 0) : shared.requestState = .unregistered := by
  refine Decidable.byContradiction ?_
  intro registered
  rcases common.held registered with there | called
  · rw [absent] at there
    cases there
  · exact called uncalled

theorem leads_knows {next : Action} (leads : Leads shared action next) (common : Common shared)
    (taken : Taken shared action)
    (unaborted : Token.abort.has action = true → shared.aborted = false)
    (uncalled : Token.finish.has action = true → shared.finishes = 0) : Knows shared next := by
  have runs := taken.knows.runs
  have relies := taken.knows.relies
  cases leads with
  | @asks use =>
      rw [isLive_runs] at runs
      exact ⟨runs, nofun, trivial⟩
  | @closed use _ leads =>
      rw [isLive_runs] at runs
      exact otherwise_knows leads runs
  | closedSince leads => exact otherwise_knows leads runs
  | live leads => exact continues_knows leads runs
  | requestPanics => exact ⟨nofun, fun _ => taken.knows.called rfl, trivial⟩
  | shakes => exact ⟨fun _ => runs rfl, nofun, trivial⟩
  | shakeEnds => exact ⟨fun _ => runs rfl, nofun, trivial⟩
  | attachesConnection => exact ⟨fun _ => runs rfl, nofun, trivial⟩
  | setsUp => exact ⟨fun _ => runs rfl, nofun, trivial⟩
  | setupEnds => exact ⟨fun _ => runs rfl, nofun, trivial⟩
  | polls => exact ⟨fun _ => runs rfl, nofun, trivial⟩
  | pollEnds => exact ⟨fun _ => runs rfl, nofun, trivial⟩
  | takes leads => rcases leads with rfl | rfl <;> exact ⟨nofun, nofun, trivial⟩
  | nothingToSettle absent =>
      refine ⟨nofun, nofun, relies, ?_⟩
      intro _
      rcases common.handle with untouched | there | aborted
      · exact ⟨untouched ▸ nofun, untouched ▸ nofun⟩
      · rw [absent] at there
        cases there
      · rw [unaborted rfl] at aborted
        cases aborted
  | joins ended => exact ⟨nofun, nofun, relies, fun _ => ⟨ended ▸ nofun, ended ▸ nofun⟩⟩
  | disposes intact => exact ⟨nofun, nofun, relies.1, relies.2 rfl, intact⟩
  | @keeps settled failed kept =>
      refine ⟨nofun, nofun, relies.1, ?_⟩
      intro settled
      refine ⟨relies.2 settled, ?_⟩
      intro whole
      rcases kept with unsettled | failed
      · rw [settled] at unsettled
        cases unsettled
      · rw [whole] at failed
        cases failed
  | disposesMore => exact ⟨nofun, nofun, relies⟩
  | disposalPanics => exact ⟨nofun, nofun, relies.1, fun _ => ⟨relies.2.1, nofun⟩⟩
  | unsettled => exact ⟨nofun, nofun, nofun⟩
  | nothingToFinish absent leads ends =>
      refine afterFinish_knows ?_ next leads
      intro _ whole
      obtain ⟨concluded, clean⟩ := relies.2 rfl
      exact ⟨relies.1, concluded, clean whole, .inr (common.unregistered absent (uncalled rfl))⟩
  | finishPanics => exact ⟨nofun, nofun, nofun⟩
  | releasesMore => exact ⟨nofun, nofun, relies⟩
  | releasePanics => exact ⟨nofun, nofun, nofun⟩
  | releasedAll => exact ⟨nofun, nofun, relies⟩
  | awaits read =>
      refine ⟨nofun, nofun, ?_⟩
      intro stopped
      exact (common.stopped (read stopped)).2
  | _ => exact ⟨nofun, nofun, trivial⟩

theorem provided_knows (knows : Knows shared beside) (provision : Provision) :
    Knows (shared.provide provision) beside := by
  have acts : Acts shared .ifTerminal (shared.provide provision) [] := .passes provision rfl
  refine knows_stays knows acts ⟨tells_knows rfl, nofun⟩ ?_ nofun
  intro token _
  cases token <;> rfl

theorem Clean.again (clean : Clean shared) {other : Shared}
    (disposed : other.disposed = shared.disposed)
    (retired : other.retirementFailed = shared.retirementFailed) : Clean other :=
  ⟨disposed.trans clean.disposed, retired.trans clean.retired⟩

theorem called_late (common : Common shared)
    (settled : shared.requestState ≠ .idle ∧ shared.requestState ≠ .running)
    (inactive : shared.activeReinit = false) :
    shared.requestState = .unregistered ∨ shared.reason ≠ 0 ∧ shared.activeReinit = false := by
  by_cases unregistered : shared.requestState = .unregistered
  · exact .inl unregistered
  · exact .inr ⟨common.called unregistered settled.1, inactive⟩

theorem more_knows (acts : Acts shared action after more) (common : Common shared)
    (taken : Taken shared action)
    (unaborted : Token.abort.has action = true → shared.aborted = false)
    (uncalled : Token.finish.has action = true → shared.finishes = 0) :
    ∀ next ∈ more, Knows after next := by
  have relies := taken.knows.relies
  intro next member
  cases acts with
  | passes provision tells => exact all_tells_knows tells next member
  | leads provision tells leads =>
      rcases List.mem_append.mp member with early | last
      · exact all_tells_knows tells next early
      · rw [List.mem_singleton.mp last]
        exact provided_knows (leads_knows leads common taken unaborted uncalled) provision
  | runsRequest terminal idle =>
      rw [List.mem_singleton.mp member]
      exact ⟨nofun, fun _ => ⟨nofun, terminal⟩, trivial⟩
  | callsRequest =>
      have called := taken.knows.called rfl
      rw [List.mem_singleton.mp member]
      exact ⟨nofun, fun _ => ⟨called.registered, called.terminal⟩, trivial⟩
  | beginsInitial ready =>
      rw [List.mem_singleton.mp member]
      exact ⟨fun _ => rfl, nofun, trivial⟩
  | attachesObserver =>
      rw [List.mem_singleton.mp member]
      exact ⟨fun _ => taken.knows.runs rfl, nofun, trivial⟩
  | runsFinish published inactive settled =>
      have ended := called_late common settled inactive
      rw [List.mem_singleton.mp member]
      exact ⟨nofun, nofun, published, settled, ended⟩
  | aborts =>
      have late : Late shared := relies
      rw [List.mem_singleton.mp member]
      exact ⟨nofun, nofun, ⟨late.published, late.settled, late.ended⟩, nofun⟩
  | settles =>
      have late : Late shared := relies
      rw [List.mem_singleton.mp member]
      exact ⟨nofun, nofun, late.published, late.settled, late.ended⟩
  | disposed =>
      obtain ⟨late, concluded, retired⟩ := relies
      rw [List.mem_singleton.mp member]
      exact ⟨nofun, nofun, ⟨late.published, late.settled, late.ended⟩,
        fun _ => ⟨concluded, fun _ => ⟨rfl, retired⟩⟩⟩
  | takesFinish there =>
      obtain ⟨late, settled⟩ := relies
      obtain ⟨concluded, clean⟩ := settled rfl
      rw [List.mem_singleton.mp member]
      exact ⟨nofun, nofun, ⟨late.published, late.settled, late.ended⟩, concluded,
        fun whole => (clean whole).again rfl rfl⟩
  | finishes =>
      obtain ⟨late, concluded, clean⟩ := relies
      refine afterFinish_knows ?_ next member
      intro stopped whole
      exact ⟨⟨late.published, late.settled, late.ended⟩, concluded, (clean whole).again rfl rfl,
        .inl (congrArg some stopped)⟩
  | counts =>
      have finished : Finished shared := relies
      rcases List.mem_cons.mp member with rfl | last
      · exact tells_knows rfl
      · rw [List.mem_singleton.mp last]
        refine ⟨nofun, nofun, ?_⟩
        intro _ none
        have late := finished.late
        exact ⟨⟨⟨late.published, late.settled, late.ended⟩, finished.concluded,
          finished.clean.again rfl rfl, finished.confirmed⟩, none, of_decide_eq_true none⟩
  | @checks completed released =>
      rw [List.mem_singleton.mp member]
      refine ⟨nofun, nofun, ?_⟩
      intro stopped passed
      rw [Bool.or_eq_false_iff, Bool.not_eq_false'] at passed
      obtain ⟨all, ordinary⟩ := passed
      have freed := relies stopped all
      have late := freed.late
      refine ⟨⟨⟨⟨late.published, late.settled, late.ended⟩, freed.concluded,
        freed.clean.again rfl rfl, freed.confirmed⟩, freed.released, freed.owners⟩, ?_⟩
      intro published
      rw [published, Bool.and_true] at ordinary
      exact congrArg some ordinary
  | takesOwner there =>
      rcases List.mem_append.mp member with early | last
      · refine all_tells_knows ?_ next early
        split <;> rfl
      · rw [List.mem_singleton.mp last]
        exact ⟨nofun, nofun, trivial⟩
  | judges =>
      refine all_tells_knows ?_ next member
      unfold Shared.judge
      dsimp only
      split <;> rfl
  | registers =>
      rcases List.mem_cons.mp member with rfl | last
      · exact tells_knows rfl
      · rw [List.mem_singleton.mp last]
        exact ⟨nofun, nofun, trivial⟩
  | spawnFails => exact all_tells_knows (by rfl) next member
  | _ =>
      first
        | cases member; done
        | (rw [List.mem_singleton.mp member]; exact ⟨nofun, nofun, trivial⟩)

end

/-! ### Runs -/

variable {state : Tasks Shared Program}

theorem taken_of_reachable (reached : system.Reachable state)
    (informed : Programs.Informed Common Knows state) {id : Nat} {action : Action} {rest : Program}
    (present : state.tasks.lookup id = some (action :: rest)) : Taken state.shared action where
  knows := informed.knows id _ present action (List.mem_cons_self ..)
  unpublished := by
    intro has
    have none := spare_none reached present (List.mem_cons_self ..) has
    unfold Token.spare at none
    cases published : state.shared.published with
    | true =>
        rw [published] at none
        cases (Nat.add_eq_zero_iff.mp none).2
    | false => rfl

theorem uncompleted_of_reachable (reached : system.Reachable state) {id : Nat} {action : Action}
    {rest : Program} (present : state.tasks.lookup id = some (action :: rest))
    (has : Token.worker.has action = true) : state.shared.completion = none := by
  have none := spare_none reached present (List.mem_cons_self ..) has
  unfold Token.spare at none
  cases completed : state.shared.completion with
  | some completion =>
      rw [completed] at none
      cases (Nat.add_eq_zero_iff.mp none).2
  | none => rfl

theorem reachable_informed (reached : system.Reachable state) :
    Programs.Informed Common Knows state := by
  refine Programs.informed_of_acts ?_ ?_ ?_ reached
  · rintro shared rfl
    exact admitted_common
  · intro call shared action member
    cases call with
    | requestFault => exact all_tells_knows (signal_tells _) action member
    | caughtPanic => exact all_tells_knows (by rfl) action member
    | _ =>
        rw [List.mem_singleton.mp member]
        exact ⟨nofun, nofun, trivial⟩
  · intro state id choice action rest after more reached informed present acted
    have acts := act_acts acted
    have taken := taken_of_reachable reached informed present
    have uncompleted := uncompleted_of_reachable reached present
    refine ⟨informed.common.stays acts taken uncompleted, ?_, ?_⟩
    · refine more_knows acts informed.common taken ?_ ?_
      · intro has
        have none := spare_none reached present (List.mem_cons_self ..) has
        cases aborted : state.shared.aborted with
        | true =>
            unfold Token.spare at none
            rw [aborted] at none
            cases (Nat.add_eq_zero_iff.mp none).2
        | false => rfl
      · intro has
        have none := spare_none reached present (List.mem_cons_self ..) has
        exact (Nat.add_eq_zero_iff.mp none).2
    · intro beside apart knows
      refine knows_stays knows acts taken ?_ uncompleted
      intro token has
      refine eq_false_of_ne_true ?_
      intro also
      rw [beside_none reached present also apart] at has
      cases has

end TerminalState

end TinyBus
