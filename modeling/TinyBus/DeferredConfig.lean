import TinyBus.TransportFates

/-
The configuration that a deferred initializer reads.  A ledger beside the transport notes
which replacements were written and reported, and what the initializer was called with.
While the initializer may still be entered, its configuration is the one written last; and
the lock of the lifecycle keeps it from being entered between a write and its report.
-/

namespace TinyBus

open TransitionSystem

namespace ModuleTransport

/-- What became of the configurations that were to replace the first one, with the tasks
that brought them. -/
structure Ledger where
  written : List (Nat × Bytes)
  accepted : List (Nat × Bytes)
  -- What the deferred initializer was called with, and whether it has not returned.
  used : List Bytes
  running : Bool

def Ledger.empty : Ledger := { written := [], accepted := [], used := [], running := false }

def Ledger.note (ledger : Ledger) (self : Nat) (shared : Shared) : Action → Ledger
  | .replaceConfig config =>
      match (shared.replaceConfig config).2 with
      | [.replaced] => { ledger with written := ledger.written ++ [(self, config)] }
      | _ => ledger
  -- The report is a success unless the transport ended meanwhile.
  | .replaced =>
      if shared.ended then ledger
      else
        let own := ledger.written.filter (fun request => request.1 == self)
        { ledger with accepted := ledger.accepted ++ own.getLast?.toList }
  | .enterInit =>
      if shared.ended then ledger
      else { ledger with used := ledger.used ++ [shared.config], running := true }
  | .initReturns => { ledger with running := false }
  | _ => ledger

structure Noted where
  shared : Shared
  ledger : Ledger

namespace Noted

variable (toVec : Message → Except String Bytes)

def step (self : Nat) (choice : Choice) (noted : Noted) (task : Program) :
    Option (Noted × Program) :=
  match task with
  | [] => none
  | action :: rest =>
      (act toVec self noted.shared action choice).map (fun done =>
        (⟨done.1, noted.ledger.note self noted.shared action⟩, done.2 ++ rest))

def kind : Tasks.Kind Noted Program Call Choice Outside where
  start := program
  step := step toVec
  outside := fun event state =>
    { state.shared with shared := outside event state.shared.shared }

def system : System (Tasks Noted Program) (Tasks.Event Call Choice Outside) :=
  Tasks.system (kind toVec) (fun noted => Fresh noted.shared ∧ noted.ledger = .empty)

end Noted

def plain (state : Tasks Noted Program) : Tasks Shared Program :=
  { shared := state.shared.shared, tasks := state.tasks }

variable {toVec : Message → Except String Bytes}

theorem plain_next (state : Tasks Noted Program) (event : Tasks.Event Call Choice Outside) :
    plain (Tasks.next (Noted.kind toVec) state event) =
      Tasks.next (kind toVec) (plain state) event := by
  cases event with
  | start id call =>
      unfold Tasks.next plain
      dsimp only
      cases state.tasks.lookup id <;> rfl
  | outside event => rfl
  | advance id choice =>
      have stepped (task : Program) : (step toVec id choice state.shared.shared task) =
          (Noted.step toVec id choice state.shared task).map
            (fun done => (done.1.shared, done.2)) := by
        cases task with
        | nil => rfl
        | cons action rest =>
            unfold step Noted.step
            dsimp only
            cases act toVec id state.shared.shared action choice <;> rfl
      unfold Tasks.next plain
      dsimp only
      cases state.tasks.lookup id with
      | none => rfl
      | some task =>
          dsimp only [kind, Noted.kind]
          rw [stepped task]
          cases Noted.step toVec id choice state.shared task <;> rfl

theorem reachable_plain {state : Tasks Noted Program}
    (reached : (Noted.system toVec).Reachable state) : (system toVec).Reachable (plain state) := by
  obtain ⟨first, events, ⟨⟨fresh, _⟩, empty⟩, run⟩ := reached
  refine ⟨plain first, events, ⟨fresh, empty⟩, ?_⟩
  induction run with
  | nil => exact .nil
  | @snoc middle last events event _ stepped ih =>
      refine .snoc ih ?_
      rw [stepped]
      exact plain_next middle event

theorem exists_noted {state : Tasks Shared Program} (reached : (system toVec).Reachable state) :
    ∃ noted, (Noted.system toVec).Reachable noted ∧ plain noted = state := by
  obtain ⟨first, events, ⟨fresh, empty⟩, run⟩ := reached
  have begins : (Noted.system toVec).initial ⟨⟨first.shared, .empty⟩, first.tasks⟩ :=
    ⟨⟨fresh, rfl⟩, empty⟩
  suffices ∃ noted, (Noted.system toVec).Run ⟨⟨first.shared, .empty⟩, first.tasks⟩ events noted ∧
      plain noted = state by
    obtain ⟨noted, noting, same⟩ := this
    exact ⟨noted, ⟨_, events, begins, noting⟩, same⟩
  induction run with
  | nil => exact ⟨_, .nil, rfl⟩
  | @snoc middle last events event _ stepped ih =>
      obtain ⟨noted, noting, rfl⟩ := ih
      refine ⟨Tasks.next (Noted.kind toVec) noted event, .snoc noting rfl, ?_⟩
      rw [plain_next]
      exact stepped.symm

/-! ### What the actions around an initializer do -/

def Shared.Late (shared : Shared) : Prop := shared.init ≠ .deferred ∧ shared.init ≠ .scheduled

theorem Shared.Late.of_init {shared : Shared} {init : InitState} (same : shared.init = init)
    (late : init ≠ .deferred ∧ init ≠ .scheduled) : shared.Late := by
  unfold Shared.Late
  rw [same]
  exact late

def Action.sees : Action → Bool
  | .submit job => job.initializer
  | .lockInit | .enterInit | .initReturns | .publishInit _ | .clearConfig | .forget
  | .eagerReturns | .publishEager _ | .replaced => true
  | _ => false

structure Spares (before after : Shared) : Prop where
  init : after.init = before.init
  config : after.config = before.config
  workers : after.workers = before.workers
  calls : before.calls ⊆ after.calls

inductive Turn (self : Nat) (shared : Shared) : Action → Shared → Program → Prop
  | spares {action : Action} {after : Shared} {more : Program} (spares : Spares shared after)
      (notes : ∀ ledger : Ledger, ledger.note self shared action = ledger)
      (unseen : more.any Action.sees = false) : Turn self shared action after more
  | schedules {use : InitUse} {after : Shared} (deferred : shared.init = .deferred)
      (scheduled : after.init = .scheduled) (config : after.config = shared.config)
      (workers : after.workers = shared.workers) (calls : after.calls = shared.calls) :
      Turn self shared (.schedule use) after [.submit ⟨true, false, true⟩, .await use true]
  | submits {job : Job} :
      Turn self shared (.submit job) { shared with workers := shared.workers ++ [job] } []
  | takesJob {job : Job} {rest : List Job} (queued : shared.workers = job :: rest) :
      Turn self shared .takeJob { shared with workers := rest }
        (if job.initializer then [.lockInit] else [.awaitInit job.guard])
  | locksInit : Turn self shared .lockInit { shared with locked := true } [.enterInit]
  | entersInit (going : shared.ended = false) :
      Turn self shared .enterInit
        { shared with init := .entered, calls := shared.calls ++ [.init] } [.initReturns]
  | initCanceled (ended : shared.ended = true) :
      Turn self shared .enterInit shared.cancelInit
        [.clearConfig, .finishStop, .takeInbound, .release]
  | initReturns {after : Shared} {result : Except InitFailure Unit} {between : Program}
      (spares : Spares shared after) (unseen : between.any Action.sees = false) :
      Turn self shared .initReturns after (.clearConfig :: between ++ [.publishInit result])
  | publishesInit {result : Except InitFailure Unit} {after : Shared} {more : Program}
      (published : after.init = .publishedValid ∨ after.init = .publishedRejected)
      (config : after.config = shared.config) (workers : after.workers = shared.workers)
      (calls : shared.calls ⊆ after.calls) (unseen : more.any Action.sees = false) :
      Turn self shared (.publishInit result) after more
  | cancels {action : Action} {after : Shared}
      (early : shared.init = .deferred ∨ shared.init = .canceledBeforeEntry)
      (notes : ∀ ledger : Ledger, ledger.note self shared action = ledger)
      (canceled : after.init = .canceledBeforeEntry) (config : after.config = shared.config)
      (workers : after.workers = shared.workers) (calls : after.calls = shared.calls)
      {between : Program} (unseen : between.any Action.sees = false) :
      Turn self shared action after (.forget :: between)
  | entersEager : Turn self shared .enterEager shared.enterEager [.eagerReturns]
  | eagerReturns {after : Shared} {result : Except Error Unit} (spares : Spares shared after) :
      Turn self shared .eagerReturns after [.clearConfig, .publishEager result]
  | publishesEager {result : Except Error Unit} {after : Shared} {more : Program}
      (published : after.init = .externalValid ∨ after.init = .publishedRejected)
      (config : after.config = shared.config) (workers : after.workers = shared.workers)
      (calls : shared.calls ⊆ after.calls) (unseen : more.any Action.sees = false) :
      Turn self shared (.publishEager result) after more
  | clears : Turn self shared .clearConfig { shared with config := [] } []
  | forgets :
      Turn self shared .forget { shared with initializer := false, config := [] } []
  | writes {config : Bytes} (deferred : shared.init = .deferred)
      (going : shared.ended = false)
      (notes : ∀ ledger : Ledger, ledger.note self shared (.replaceConfig config) =
        { ledger with written := ledger.written ++ [(self, config)] }) :
      Turn self shared (.replaceConfig config) { shared with config := config } [.replaced]
  | reports {more : Program} (unseen : more.any Action.sees = false) :
      Turn self shared .replaced shared more

section

variable {self : Nat} {shared after : Shared} {action : Action} {choice : Choice}
  {more : Program}

theorem Spares.refl (shared : Shared) : Spares shared shared :=
  ⟨rfl, rfl, rfl, List.Subset.refl _⟩

private theorem anchor_early {fault : Bool} {rest : Program}
    (done : shared.anchor fault = (after, .forget :: rest)) : shared.init = .deferred := by
  unfold Shared.anchor at done
  dsimp only at done
  generalize (if shared.cleanup = .idle then CleanupState.requested
    else shared.cleanup) = cleanup at done
  split at done
  · cases done
  · split at done
    · assumption
    · cases done

private theorem beginCleanup_early {rest : Program}
    (done : shared.beginCleanup = (after, .forget :: rest)) :
    shared.init = .deferred ∨ shared.init = .canceledBeforeEntry := by
  unfold Shared.beginCleanup at done
  split at done
  · cases done
  · split at done
    · rename_i early
      rwa [Bool.or_eq_true, decide_eq_true_iff, decide_eq_true_iff] at early
    · split at done <;> cases done

private theorem replaceConfig_turn {config : Bytes}
    (done : shared.replaceConfig config = (after, more)) :
    Turn self shared (.replaceConfig config) after more := by
  have result : (shared.replaceConfig config).2 = more := congrArg Prod.snd done
  unfold Shared.replaceConfig at done
  split at done
  · cases done
    refine .spares (.refl shared) (fun ledger => ?_) rfl
    simp only [Ledger.note, result]
  · rename_i going
    split at done
    · rename_i deferred
      cases done
      rw [Bool.and_eq_true, Bool.and_eq_true, decide_eq_true_iff] at deferred
      refine .writes deferred.1.1 (Bool.eq_false_iff.mpr going) (fun ledger => ?_)
      simp only [Ledger.note, result]
    · cases done
      refine .spares (.refl shared) (fun ledger => ?_) rfl
      simp only [Ledger.note, result]

private theorem enterInit_turn (done : shared.enterInit = (after, more)) :
    Turn self shared .enterInit after more := by
  unfold Shared.enterInit at done
  split at done
  · rename_i ended
    cases done
    exact .initCanceled ended
  · rename_i going
    cases done
    exact .entersInit (Bool.eq_false_iff.mpr going)

theorem act_turn (done : act toVec self shared action choice = some (after, more)) :
    Turn self shared action after more := by
  have acts := act_acts done
  cases acts with
  | canceled waits => cases waits <;> exact .spares (.refl shared) (fun _ => rfl) rfl
  | sendLooks looks =>
      cases looks with
      | @awaitSucceeds use _ => cases use <;> exact .spares (.refl shared) (fun _ => rfl) rfl
      | @awaitExpires _ initiating _ =>
          cases initiating <;> exact .spares (.refl shared) (fun _ => rfl) rfl
      | @awaitCanceled _ initiating =>
          cases initiating <;> exact .spares (.refl shared) (fun _ => rfl) rfl
      | _ => exact .spares (.refl shared) (fun _ => rfl) rfl
  | deliveryLooks looks =>
      cases looks with
      | frames _ =>
          refine .spares (.refl shared) (fun _ => rfl) ?_
          unfold Shared.frameOf
          split
          · rfl
          · split <;> rfl
      | _ => exact .spares (.refl shared) (fun _ => rfl) rfl
  | physicalLooks looks =>
      cases looks with
      | @initRejected failure =>
          exact @Turn.initReturns self shared shared (.error failure) [.publish true, .close]
            (.refl shared) rfl
      | eagerRejected => exact .eagerReturns (.refl shared)
      | _ => exact .spares (.refl shared) (fun _ => rfl) rfl
  | reinitLooks looks =>
      cases looks with
      | replaceFails =>
          cases choice with
          | proceed => exact replaceConfig_turn (Option.some.inj done)
          | _ => cases done
      | replaceSkips =>
          cases choice with
          | proceed => exact replaceConfig_turn (Option.some.inj done)
          | _ => cases done
      | replaced => exact .reports rfl
      | _ => exact .spares (.refl shared) (fun _ => rfl) rfl
  | locks takes _ =>
      cases takes with
      | init => exact .locksInit
      | _ => exact .spares ⟨rfl, rfl, rfl, List.Subset.refl _⟩ (fun _ => rfl) rfl
  | notes notes =>
      cases notes with
      | clears => exact .clears
      | replaces =>
          cases choice with
          | proceed => exact replaceConfig_turn (Option.some.inj done)
          | _ => cases done
      | @releases allowed =>
          cases allowed <;> exact .spares ⟨rfl, rfl, rfl, List.Subset.refl _⟩ (fun _ => rfl) rfl
      | _ => exact .spares ⟨rfl, rfl, rfl, List.Subset.refl _⟩ (fun _ => rfl) rfl
  | schedules deferred _ => exact .schedules deferred rfl rfl rfl rfl
  | fails =>
      refine .spares ⟨rfl, rfl, rfl, List.Subset.refl _⟩ (fun _ => rfl) ?_
      split <;> rfl
  | delivers =>
      refine .spares ⟨rfl, rfl, rfl, List.Subset.refl _⟩ (fun _ => rfl) ?_
      unfold Shared.afterDelivery
      split <;> rfl
  | submits => exact .submits
  | anchorCancels =>
      cases choice with
      | proceed =>
          refine .cancels (.inl (anchor_early (Option.some.inj done))) (fun _ => rfl) ?_ ?_ ?_ ?_ ?_ <;>
            rfl
      | _ => cases done
  | forgets => exact .forgets
  | takesJob queued => exact .takesJob queued
  | initCanceled =>
      cases choice with
      | proceed => exact enterInit_turn (Option.some.inj done)
      | _ => cases done
  | entersInit =>
      cases choice with
      | proceed => exact enterInit_turn (Option.some.inj done)
      | _ => cases done
  | initReturned =>
      exact @Turn.initReturns self shared _ (.ok ()) [] ⟨rfl, rfl, rfl, List.Subset.refl _⟩ rfl
  | publishesInit =>
      refine .publishesInit (.inl rfl) rfl rfl (List.subset_append_left _ _) ?_
      split <;> rfl
  | rejectsInit => exact .publishesInit (.inr rfl) rfl rfl (List.Subset.refl _) rfl
  | cleanupCanceled =>
      cases choice with
      | proceed =>
          refine .cancels (beginCleanup_early (Option.some.inj done)) (fun _ => rfl) ?_ ?_ ?_ ?_ ?_ <;>
            rfl
      | _ => cases done
  | shutsDown _ _ =>
      exact .spares ⟨rfl, rfl, rfl, List.subset_append_left _ _⟩ (fun _ => rfl) rfl
  | callsReinit =>
      exact .spares ⟨rfl, rfl, rfl, List.subset_append_left _ _⟩ (fun _ => rfl) rfl
  | entersEager => exact .entersEager
  | eagerReturned => exact .eagerReturns ⟨rfl, rfl, rfl, List.Subset.refl _⟩
  | publishesEager =>
      exact .publishesEager (.inl rfl) rfl rfl (List.subset_append_left _ _) rfl
  | rejectsEager => exact .publishesEager (.inr rfl) rfl rfl (List.Subset.refl _) rfl
  | _ => exact .spares ⟨rfl, rfl, rfl, List.Subset.refl _⟩ (fun _ => rfl) rfl

end

/-! ### What an action knows of the initializer -/

def Action.Sees (id : Nat) (noted : Noted) : Action → Prop
  | .submit job => job.initializer = true → noted.shared.init = .scheduled
  | .lockInit => noted.shared.init = .scheduled
  | .enterInit => noted.shared.init = .scheduled
  -- The initializer runs, and reads the bytes that it was called with.
  | .initReturns =>
      noted.ledger.running = true ∧ noted.ledger.used.getLast? = some noted.shared.config
  | .publishInit _ => noted.ledger.used ≠ []
  | .clearConfig => noted.ledger.running = false ∧ noted.shared.Late
  | .forget => noted.ledger.used = [] ∧ noted.shared.Late
  | .eagerReturns => noted.ledger.running = false ∧ noted.shared.Late
  | .publishEager _ => noted.shared.Late
  | .replaced =>
      noted.ledger.used = [] ∧
        ∃ config, noted.ledger.written = noted.ledger.accepted ++ [(id, config)]
  | _ => True

structure Books (noted : Noted) : Prop where
  entered : noted.ledger.used ≠ [] →
    noted.shared.Late ∧ noted.shared.init ≠ .canceledBeforeEntry
  running : noted.ledger.running = true →
    noted.ledger.used ≠ [] ∧ .init ∈ noted.shared.calls
  newest : ¬noted.shared.Late → ∀ request, noted.ledger.written.getLast? = some request →
    noted.shared.config = request.2
  workers : ∀ job ∈ noted.shared.workers, job.initializer = true →
    noted.shared.init = .scheduled
  once : noted.ledger.used.length ≤ 1
  final : ∀ config ∈ noted.ledger.used, ∀ request, noted.ledger.accepted.getLast? = some request →
    request.2 = config

section

variable {id other : Nat} {noted : Noted} {action beside : Action} {after : Shared}
  {more : Program}

theorem sees_of_unseen (unseen : action.sees = false) : action.Sees id noted := by
  cases action with
  | submit job => exact fun has => Bool.noConfusion (has.symm.trans unseen)
  | _ => trivial

theorem all_see_of_unseen {program : Program} (unseen : program.any Action.sees = false) :
    ∀ next ∈ program, next.Sees id noted := by
  intro next member
  exact sees_of_unseen (Bool.eq_false_iff.mpr (List.any_eq_false.mp unseen next member))

theorem Action.Sees.congr (sees : action.Sees id noted) (init : after.init = noted.shared.init)
    (config : after.config = noted.shared.config) : action.Sees id ⟨after, noted.ledger⟩ := by
  cases action with
  | submit job => exact fun has => init.trans (sees has)
  | lockInit => exact init.trans sees
  | enterInit => exact init.trans sees
  | initReturns => exact ⟨sees.1, sees.2.trans (congrArg some config.symm)⟩
  | clearConfig => exact ⟨sees.1, .of_init init sees.2⟩
  | forget => exact ⟨sees.1, .of_init init sees.2⟩
  | eagerReturns => exact ⟨sees.1, .of_init init sees.2⟩
  | publishEager result => exact .of_init init sees
  | publishInit result => exact sees
  | replaced => exact sees
  | _ => trivial

theorem Action.Sees.moved (sees : beside.Sees other noted)
    (passed : 1 ≤ beside.initializers → noted.shared.init ≠ .scheduled)
    (late : after.Late) (config : after.config = noted.shared.config) :
    beside.Sees other ⟨after, noted.ledger⟩ := by
  cases beside with
  | submit job =>
      intro has
      refine absurd (sees has) (passed ?_)
      change 1 ≤ job.initializer.toNat
      rw [has]
      exact Nat.le_refl 1
  | lockInit => exact absurd sees (passed (Nat.le_refl 1))
  | enterInit => exact absurd sees (passed (Nat.le_refl 1))
  | initReturns => exact ⟨sees.1, sees.2.trans (congrArg some config.symm)⟩
  | clearConfig => exact ⟨sees.1, late⟩
  | forget => exact ⟨sees.1, late⟩
  | eagerReturns => exact ⟨sees.1, late⟩
  | publishEager result => exact late
  | publishInit result => exact sees
  | replaced => exact sees
  | _ => trivial

theorem sees_stays (turn : Turn id noted.shared action after more) (books : Books noted)
    (own : action.Sees id noted) (sees : beside.Sees other noted)
    (guards : 1 ≤ action.guarded → ¬1 ≤ beside.guarded)
    (initializers : 1 ≤ action.initializers → ¬1 ≤ beside.initializers) :
    beside.Sees other ⟨after, noted.ledger.note id noted.shared action⟩ := by
  cases turn with
  | spares spares notes _ =>
      rw [notes]
      exact sees.congr spares.init spares.config
  | submits => exact sees.congr rfl rfl
  | takesJob _ => exact sees.congr rfl rfl
  | locksInit => exact sees.congr rfl rfl
  | eagerReturns spares => exact sees.congr spares.init spares.config
  | schedules deferred scheduled config _ _ =>
      have early : ¬noted.shared.Late := fun late => late.1 deferred
      cases beside with
      | submit job => exact fun _ => scheduled
      | lockInit => exact scheduled
      | enterInit => exact scheduled
      | initReturns => exact ⟨sees.1, sees.2.trans (congrArg some config.symm)⟩
      | clearConfig => exact absurd sees.2 early
      | forget => exact absurd sees.2 early
      | eagerReturns => exact absurd sees.2 early
      | publishEager result => exact absurd sees early
      | publishInit result => exact sees
      | replaced => exact sees
      | _ => trivial
  | entersInit going =>
      have waits : ¬noted.shared.Late := fun late => late.2 own
      have alone := guards (Nat.le_refl 1)
      have sole := initializers (Nat.le_refl 1)
      unfold Ledger.note
      dsimp only
      rw [if_neg (Bool.eq_false_iff.mp going)]
      cases beside with
      | submit job =>
          intro has
          refine absurd ?_ sole
          change 1 ≤ job.initializer.toNat
          rw [has]
          exact Nat.le_refl 1
      | lockInit => exact absurd (Nat.le_refl 1) sole
      | enterInit => exact absurd (Nat.le_refl 1) sole
      | initReturns => exact absurd (Nat.le_refl 1) alone
      | publishInit result => exact absurd (Nat.le_refl 1) alone
      | clearConfig => exact absurd sees.2 waits
      | forget => exact absurd sees.2 waits
      | eagerReturns => exact absurd sees.2 waits
      | publishEager result => exact absurd sees waits
      | replaced => exact absurd (Nat.le_refl 1) alone
      | _ => trivial
  | initCanceled ended =>
      have sole := initializers (Nat.le_refl 1)
      unfold Ledger.note
      dsimp only
      rw [if_pos ended]
      exact sees.moved (fun has => absurd has sole) ⟨nofun, nofun⟩ rfl
  | initReturns spares _ =>
      have alone := guards (Nat.le_refl 1)
      have kept := sees.congr spares.init spares.config
      cases beside with
      | initReturns => exact absurd (Nat.le_refl 1) alone
      | clearConfig => exact ⟨rfl, kept.2⟩
      | eagerReturns => exact ⟨rfl, kept.2⟩
      | _ => exact kept
  | publishesInit published config _ _ _ =>
      have entered := (books.entered own).1
      refine sees.moved (fun _ => entered.2) ?_ config
      rcases published with valid | rejected
      · exact .of_init valid ⟨nofun, nofun⟩
      · exact .of_init rejected ⟨nofun, nofun⟩
  | cancels early notes canceled config _ _ _ =>
      rw [notes]
      refine sees.moved ?_ ?_ config
      · intro _ scheduled
        rcases early with deferred | before
        · cases deferred.symm.trans scheduled
        · cases before.symm.trans scheduled
      · exact .of_init canceled ⟨nofun, nofun⟩
  | entersEager =>
      have sole := initializers (Nat.le_refl 1)
      exact sees.moved (fun has => absurd has sole) ⟨nofun, nofun⟩ rfl
  | publishesEager published config _ _ _ =>
      refine sees.moved (fun _ => own.2) ?_ config
      rcases published with valid | rejected
      · exact .of_init valid ⟨nofun, nofun⟩
      · exact .of_init rejected ⟨nofun, nofun⟩
  | clears =>
      cases beside with
      | initReturns => exact Bool.noConfusion (sees.1.symm.trans own.1)
      | _ => exact sees
  | forgets =>
      cases beside with
      | initReturns =>
          have some := sees.2
          rw [own.1] at some
          cases some
      | _ => exact sees
  | writes deferred going notes =>
      have alone := guards (Nat.le_refl 1)
      rw [notes]
      cases beside with
      | initReturns => exact absurd (Nat.le_refl 1) alone
      | replaced => exact absurd (Nat.le_refl 1) alone
      | _ => exact sees
  | reports _ =>
      have alone := guards (Nat.le_refl 1)
      unfold Ledger.note
      dsimp only
      split
      · exact sees
      · cases beside with
        | replaced => exact absurd (Nat.le_refl 1) alone
        | _ => exact sees

theorem sees_follow (turn : Turn id noted.shared action after more) (books : Books noted)
    (own : action.Sees id noted)
    (eager : action = .enterEager → noted.ledger.running = false)
    (settled : ∀ config, action = .replaceConfig config → noted.shared.ended = false →
      noted.ledger.accepted = noted.ledger.written) :
    ∀ next ∈ more, next.Sees id ⟨after, noted.ledger.note id noted.shared action⟩ := by
  have unused : ¬(noted.shared.Late ∧ noted.shared.init ≠ .canceledBeforeEntry) →
      noted.ledger.used = [] :=
    fun early => Classical.byContradiction (fun some => early (books.entered some))
  have resting (none : noted.ledger.used = []) : noted.ledger.running = false :=
    Bool.eq_false_iff.mpr (fun running => (books.running running).1 none)
  cases turn with
  | spares _ _ unseen => exact all_see_of_unseen unseen
  | schedules _ scheduled _ _ _ =>
      exact List.forall_mem_cons.mpr ⟨fun _ => scheduled, List.forall_mem_singleton.mpr trivial⟩
  | submits => exact fun _ member => absurd member List.not_mem_nil
  | @takesJob job rest queued =>
      by_cases has : job.initializer = true
      · rw [if_pos has]
        have head : job ∈ noted.shared.workers := queued ▸ List.mem_cons_self
        exact List.forall_mem_singleton.mpr (books.workers job head has)
      · rw [if_neg has]
        exact List.forall_mem_singleton.mpr trivial
  | locksInit => exact List.forall_mem_singleton.mpr own
  | entersInit going =>
      unfold Ledger.note
      dsimp only
      rw [if_neg (Bool.eq_false_iff.mp going)]
      exact List.forall_mem_singleton.mpr ⟨rfl, List.getLast?_concat⟩
  | initCanceled ended =>
      unfold Ledger.note
      dsimp only
      rw [if_pos ended]
      have none := unused (fun both => both.1.2 own)
      refine List.forall_mem_cons.mpr ⟨⟨resting none, nofun, nofun⟩, ?_⟩
      exact @all_see_of_unseen _ _ [.finishStop, .takeInbound, .release] rfl
  | initReturns spares unseen =>
      have some : noted.ledger.used ≠ [] := by
        intro none
        have last := own.2
        rw [none] at last
        cases last
      have late : after.Late := .of_init spares.init (books.entered some).1
      refine List.forall_mem_cons.mpr ⟨⟨rfl, late⟩, ?_⟩
      exact List.forall_mem_append.mpr
        ⟨all_see_of_unseen unseen, List.forall_mem_singleton.mpr some⟩
  | publishesInit _ _ _ _ unseen => exact all_see_of_unseen unseen
  | cancels early notes canceled _ _ _ unseen =>
      rw [notes]
      have none : noted.ledger.used = [] := by
        refine unused ?_
        rintro ⟨late, other⟩
        rcases early with deferred | before
        · exact late.1 deferred
        · exact other before
      exact List.forall_mem_cons.mpr
        ⟨⟨none, .of_init canceled ⟨nofun, nofun⟩⟩, all_see_of_unseen unseen⟩
  | entersEager =>
      exact List.forall_mem_singleton.mpr ⟨eager rfl, nofun, nofun⟩
  | eagerReturns spares =>
      have late : after.Late := .of_init spares.init own.2
      exact List.forall_mem_cons.mpr ⟨⟨own.1, late⟩, List.forall_mem_singleton.mpr late⟩
  | publishesEager _ _ _ _ unseen => exact all_see_of_unseen unseen
  | clears => exact fun _ member => absurd member List.not_mem_nil
  | forgets => exact fun _ member => absurd member List.not_mem_nil
  | @writes config deferred going notes =>
      rw [notes]
      have none := unused (fun both => both.1.1 deferred)
      refine List.forall_mem_singleton.mpr ⟨none, config, ?_⟩
      exact congrArg (· ++ [(id, config)]) (settled config rfl going).symm
  | reports unseen => exact all_see_of_unseen unseen

private theorem Books.stays (books : Books noted) (init : after.init = noted.shared.init)
    (config : after.config = noted.shared.config) (calls : noted.shared.calls ⊆ after.calls)
    (workers : ∀ job ∈ after.workers, job.initializer = true →
      noted.shared.init = .scheduled) : Books ⟨after, noted.ledger⟩ where
  entered := by
    intro some
    obtain ⟨late, other⟩ := books.entered some
    exact ⟨.of_init init late, init.trans_ne other⟩
  running := fun running => ⟨(books.running running).1, calls (books.running running).2⟩
  newest := by
    intro waits request found
    exact config.trans (books.newest (fun late => waits (.of_init init late)) request found)
  workers := fun job queued has => init.trans (workers job queued has)
  once := books.once
  final := books.final

private theorem Books.passed (books : Books noted) (late : after.Late)
    (other : noted.ledger.used ≠ [] → after.init ≠ .canceledBeforeEntry)
    (calls : noted.shared.calls ⊆ after.calls)
    (workers : ∀ job ∈ after.workers, job.initializer = false) :
    Books ⟨after, noted.ledger⟩ where
  entered := fun some => ⟨late, other some⟩
  running := fun running => ⟨(books.running running).1, calls (books.running running).2⟩
  newest := fun waits => absurd late waits
  workers := fun job queued has => Bool.noConfusion (has.symm.trans (workers job queued))
  once := books.once
  final := books.final

theorem books_follow (turn : Turn id noted.shared action after more) (books : Books noted)
    (own : action.Sees id noted)
    (entering : action.initializers = 1 → ∀ job ∈ noted.shared.workers, job.initializer = false)
    (settled : action = .enterInit → noted.shared.ended = false →
      noted.ledger.accepted = noted.ledger.written) :
    Books ⟨after, noted.ledger.note id noted.shared action⟩ := by
  have waiting (passed : noted.shared.init ≠ .scheduled) (job : Job)
      (queued : job ∈ noted.shared.workers) : job.initializer = false :=
    Bool.eq_false_iff.mpr (fun has => passed (books.workers job queued has))
  cases turn with
  | spares spares notes _ =>
      rw [notes]
      exact books.stays spares.init spares.config spares.calls
        (spares.workers ▸ books.workers)
  | schedules deferred scheduled config workers calls =>
      have early : ¬noted.shared.Late := fun late => late.1 deferred
      exact
        { entered := fun some => absurd (books.entered some).1 early
          running := fun running => absurd (books.entered (books.running running).1).1 early
          newest := fun _ request found => config.trans (books.newest early request found)
          workers := fun _ _ _ => scheduled
          once := books.once
          final := books.final }
  | @submits job =>
      refine books.stays rfl rfl (List.Subset.refl _) ?_
      intro queued member has
      rcases List.mem_append.mp member with old | new
      · exact books.workers queued old has
      · rw [List.mem_singleton.mp new] at has
        exact own has
  | @takesJob job rest queued =>
      refine books.stays rfl rfl (List.Subset.refl _) ?_
      intro other member has
      exact books.workers other (queued ▸ List.mem_cons_of_mem _ member) has
  | locksInit => exact books.stays rfl rfl (List.Subset.refl _) books.workers
  | entersInit going =>
      have unused : noted.ledger.used = [] :=
        Classical.byContradiction (fun some => (books.entered some).1.2 own)
      have equal := settled rfl going
      unfold Ledger.note
      dsimp only
      rw [if_neg (Bool.eq_false_iff.mp going), unused, List.nil_append]
      exact
        { entered := fun _ => ⟨⟨nofun, nofun⟩, nofun⟩
          running := fun _ => ⟨List.cons_ne_nil _ _, List.mem_append_right _ List.mem_cons_self⟩
          newest := fun waits => absurd ⟨nofun, nofun⟩ waits
          workers := fun job queued has =>
            Bool.noConfusion (has.symm.trans (entering rfl job queued))
          once := Nat.le_refl 1
          final := by
            -- Nothing is between a write and its report, so the last write was accepted.
            intro config used request found
            rw [List.mem_singleton.mp used]
            rw [equal] at found
            exact (books.newest (fun late => late.2 own) request found).symm }
  | initCanceled ended =>
      unfold Ledger.note
      dsimp only
      rw [if_pos ended]
      exact books.passed ⟨nofun, nofun⟩ (fun some => absurd own (books.entered some).1.2)
        (List.Subset.refl _) (entering rfl)
  | initReturns spares _ =>
      have kept := books.stays spares.init spares.config spares.calls
        (spares.workers ▸ books.workers)
      exact ⟨kept.entered, nofun, kept.newest, kept.workers, kept.once, kept.final⟩
  | publishesInit published _ workers calls _ =>
      have idle := workers ▸ waiting (books.entered own).1.2
      rcases published with valid | rejected
      · exact books.passed (.of_init valid ⟨nofun, nofun⟩) (fun _ => valid.trans_ne nofun)
          calls idle
      · exact books.passed (.of_init rejected ⟨nofun, nofun⟩)
          (fun _ => rejected.trans_ne nofun) calls idle
  | cancels early notes canceled _ workers calls _ =>
      rw [notes]
      have unscheduled : noted.shared.init ≠ .scheduled := by
        rcases early with deferred | before
        · exact deferred.trans_ne nofun
        · exact before.trans_ne nofun
      refine books.passed (.of_init canceled ⟨nofun, nofun⟩) ?_
        (calls ▸ List.Subset.refl _) (workers ▸ waiting unscheduled)
      intro some
      obtain ⟨late, other⟩ := books.entered some
      rcases early with deferred | before
      · exact absurd deferred late.1
      · exact absurd before other
  | entersEager =>
      exact books.passed ⟨nofun, nofun⟩ nofun (List.subset_append_left _ _) (entering rfl)
  | eagerReturns spares =>
      exact books.stays spares.init spares.config spares.calls (spares.workers ▸ books.workers)
  | publishesEager published _ workers calls _ =>
      have idle := workers ▸ waiting own.2
      rcases published with valid | rejected
      · exact books.passed (.of_init valid ⟨nofun, nofun⟩) (fun _ => valid.trans_ne nofun)
          calls idle
      · exact books.passed (.of_init rejected ⟨nofun, nofun⟩)
          (fun _ => rejected.trans_ne nofun) calls idle
  | clears =>
      exact books.passed own.2 (fun some => (books.entered some).2) (List.Subset.refl _)
        (waiting own.2.2)
  | forgets =>
      exact books.passed own.2 (fun some => (books.entered some).2) (List.Subset.refl _)
        (waiting own.2.2)
  | writes deferred going notes =>
      have early : ¬noted.shared.Late := fun late => late.1 deferred
      rw [notes]
      exact
        { entered := books.entered
          running := books.running
          newest := by
            intro _ request found
            rw [List.getLast?_concat] at found
            exact congrArg Prod.snd (Option.some.inj found)
          workers := books.workers
          once := books.once
          final := books.final }
  | reports _ =>
      unfold Ledger.note
      dsimp only
      split
      · exact books
      · exact
          { entered := books.entered
            running := books.running
            newest := books.newest
            workers := books.workers
            once := books.once
            final := fun config used => by
              rw [own.1] at used
              cases used }

end

/-! ### Every reachable transport -/

def Reported (state : Tasks Noted Program) : Prop :=
  state.shared.shared.ended = true ∨
    state.shared.ledger.accepted = state.shared.ledger.written ∨
      ∃ id rest request, state.tasks.lookup id = some (.replaced :: rest) ∧
        state.shared.ledger.written = state.shared.ledger.accepted ++ [request]

structure Kept (state : Tasks Noted Program) : Prop where
  books : Books state.shared
  sees : ∀ id task, state.tasks.lookup id = some task →
    ∀ action ∈ task, action.Sees id state.shared
  reported : Reported state

section

variable {state : Tasks Noted Program} {id : Nat} {choice : Choice} {action : Action}
  {rest more : Program} {after : Shared}

private theorem guards_apart (reached : (Noted.system toVec).Reachable state)
    (present : state.tasks.lookup id = some (action :: rest)) {other : Nat} {task : Program}
    {beside : Action} (found : state.tasks.lookup other = some task) (member : beside ∈ task)
    (apart : other ≠ id ∨ beside ∈ rest) (has : 1 ≤ action.guarded) : ¬1 ≤ beside.guarded := by
  intro also
  have one := guards_one (reachable_plain reached)
  exact sole_of_weight (fun _ => Action.guarded) (Nat.le_trans (Nat.le_add_left _ _) one)
    present has found member also apart

private theorem initializers_apart (reached : (Noted.system toVec).Reachable state)
    (present : state.tasks.lookup id = some (action :: rest)) {other : Nat} {task : Program}
    {beside : Action} (found : state.tasks.lookup other = some task) (member : beside ∈ task)
    (apart : other ≠ id ∨ beside ∈ rest) (has : 1 ≤ action.initializers) :
    ¬1 ≤ beside.initializers := by
  intro also
  have one := initializers_one (reachable_plain reached)
  exact sole_of_weight (fun _ => Action.initializers) (Nat.le_trans (Nat.le_add_left _ _) one)
    present has found member also apart

private theorem initializers_held (reached : (Noted.system toVec).Reachable state)
    (present : state.tasks.lookup id = some (action :: rest)) (has : action.initializers = 1) :
    state.shared.shared.initializers = 0 := by
  have one := initializers_one (reachable_plain reached)
  have own := Tasks.own_le_weight
    (fun _ task => Nat.zero_le (weigh Action.initializers task)) present
  rw [weigh_cons, has] at own
  change state.shared.shared.initializers +
    Tasks.weight (fun _ => weigh Action.initializers) state.tasks ≤ 1 at one
  omega

private theorem held_workers {shared : Shared} (none : shared.initializers = 0) :
    ∀ job ∈ shared.workers, job.initializer = false := by
  intro job queued
  unfold Shared.initializers at none
  have sum : (shared.workers.map (fun job => job.initializer.toNat)).sum = 0 := by omega
  have own := List.le_sum_of_mem
    (List.mem_map_of_mem (f := fun job : Job => job.initializer.toNat) queued)
  cases has : job.initializer with
  | false => rfl
  | true =>
      rw [has, sum] at own
      exact absurd own (by decide)

private theorem held_calls {shared : Shared} (none : shared.initializers = 0) :
    .init ∉ shared.calls := by
  intro called
  have count := List.count_pos_iff.mpr called
  unfold Shared.initializers at none
  omega

private theorem settled_held (reached : (Noted.system toVec).Reachable state)
    (reported : Reported state) (present : state.tasks.lookup id = some (action :: rest))
    (has : 1 ≤ action.guarded) (writing : action ≠ .replaced)
    (going : state.shared.shared.ended = false) :
    state.shared.ledger.accepted = state.shared.ledger.written := by
  rcases reported with ended | equal | ⟨other, later, request, found, _⟩
  · cases going.symm.trans ended
  · exact equal
  · by_cases same : other = id
    · rw [same, present] at found
      cases found
      exact absurd rfl writing
    · exact absurd (Nat.le_refl 1)
        (guards_apart reached present found List.mem_cons_self (.inl same) has)

private theorem note_apart {ledger : Ledger} {shared : Shared}
    (writes : ∀ config, action ≠ .replaceConfig config) (reports : action ≠ .replaced) :
    (ledger.note id shared action).written = ledger.written ∧
      (ledger.note id shared action).accepted = ledger.accepted := by
  cases action with
  | replaceConfig config => exact absurd rfl (writes config)
  | replaced => exact absurd rfl reports
  | enterInit =>
      unfold Ledger.note
      dsimp only
      split <;> exact ⟨rfl, rfl⟩
  | _ => exact ⟨rfl, rfl⟩

private theorem note_reports {ledger : Ledger} {shared : Shared} {config : Bytes}
    (going : shared.ended = false) (wrote : ledger.written = ledger.accepted ++ [(id, config)]) :
    (ledger.note id shared .replaced).accepted = (ledger.note id shared .replaced).written := by
  unfold Ledger.note
  dsimp only
  rw [if_neg (Bool.eq_false_iff.mp going)]
  dsimp only
  have own : (ledger.written.filter (fun request => request.1 == id)).getLast? =
      some (id, config) := by
    rw [wrote, List.filter_append, List.filter_cons, if_pos BEq.rfl, List.filter_nil]
    exact List.getLast?_concat
  rw [own, wrote]
  rfl

private theorem reported_apart (kept : Kept state)
    (present : state.tasks.lookup id = some (action :: rest))
    (writes : ∀ config, action ≠ .replaceConfig config) (reports : action ≠ .replaced)
    (stays : state.shared.shared.ended = true → after.ended = true) :
    Reported ⟨⟨after, state.shared.ledger.note id state.shared.shared action⟩,
      state.tasks.insert id (more ++ rest)⟩ := by
  have same := @note_apart id action state.shared.ledger state.shared.shared writes reports
  unfold Reported
  dsimp only
  rw [same.1, same.2]
  rcases kept.reported with ended | equal | ⟨other, later, request, found, wrote⟩
  · exact .inl (stays ended)
  · exact .inr (.inl equal)
  · refine .inr (.inr ⟨other, later, request, ?_, wrote⟩)
    rw [Table.lookup_insert_eq, if_neg]
    · exact found
    · rintro rfl
      rw [present] at found
      cases found
      exact reports rfl

private theorem reported_follows (reached : (Noted.system toVec).Reachable state)
    (kept : Kept state) (present : state.tasks.lookup id = some (action :: rest))
    (acted : act toVec id state.shared.shared action choice = some (after, more)) :
    Reported ⟨⟨after, state.shared.ledger.note id state.shared.shared action⟩,
      state.tasks.insert id (more ++ rest)⟩ := by
  have stays := ended_stays (act_acts acted)
  have turn := act_turn acted
  cases action with
  | replaceConfig config =>
      have equal (going : state.shared.shared.ended = false) :=
        settled_held reached kept.reported present (Nat.le_refl 1) nofun going
      cases ending : state.shared.shared.ended with
      | true => exact .inl (stays ending)
      | false =>
          right
          dsimp only
          cases turn with
          | spares _ notes _ =>
              rw [notes]
              exact .inl (equal ending)
          | cancels _ notes _ _ _ _ _ =>
              rw [notes]
              exact .inl (equal ending)
          | writes _ _ notes =>
              rw [notes]
              refine .inr ⟨id, rest, (id, config), ?_, ?_⟩
              · rw [Table.lookup_insert_eq, if_pos rfl]
                rfl
              · exact congrArg (· ++ [(id, config)]) (equal ending).symm
  | replaced =>
      obtain ⟨_, config, wrote⟩ := kept.sees id _ present .replaced List.mem_cons_self
      cases ending : state.shared.shared.ended with
      | true => exact .inl (stays ending)
      | false => exact .inr (.inl (note_reports ending wrote))
  | _ => exact reported_apart kept present nofun nofun stays

private theorem kept_step (reached : (Noted.system toVec).Reachable state) (kept : Kept state)
    (present : state.tasks.lookup id = some (action :: rest))
    (acted : act toVec id state.shared.shared action choice = some (after, more)) :
    Kept ⟨⟨after, state.shared.ledger.note id state.shared.shared action⟩,
      state.tasks.insert id (more ++ rest)⟩ := by
  have turn := act_turn acted
  have own := kept.sees id _ present action List.mem_cons_self
  have held (has : action.initializers = 1) := initializers_held reached present has
  refine ⟨?_, ?_, reported_follows reached kept present acted⟩
  · refine books_follow turn kept.books own (fun has => held_workers (held has)) ?_
    rintro rfl going
    exact settled_held reached kept.reported present (Nat.le_refl 1) nofun going
  · intro other task found beside member
    dsimp only at found ⊢
    have stays {task : Program} (found : state.tasks.lookup other = some task)
        (member : beside ∈ task) (apart : other ≠ id ∨ beside ∈ rest) :
        beside.Sees other
          ⟨after, state.shared.ledger.note id state.shared.shared action⟩ :=
      sees_stays turn kept.books own (kept.sees other task found beside member)
        (guards_apart reached present found member apart)
        (initializers_apart reached present found member apart)
    rw [Table.lookup_insert_eq] at found
    split at found
    · rename_i same
      cases found
      rw [same] at stays ⊢
      rcases List.mem_append.mp member with new | old
      · refine sees_follow turn kept.books own ?_ ?_ beside new
        · rintro rfl
          exact Bool.eq_false_iff.mpr (fun running =>
            held_calls (held rfl) (kept.books.running running).2)
        · rintro config rfl going
          exact settled_held reached kept.reported present (Nat.le_refl 1) nofun going
      · exact stays present (List.mem_cons_of_mem _ old) (.inr old)
    · rename_i different
      exact stays found member (.inl different)

private theorem kept_outside (event : Outside) (kept : Kept state) :
    Kept (Tasks.next (Noted.kind toVec) state (.outside event)) := by
  have same : (outside event state.shared.shared).init = state.shared.shared.init ∧
      (outside event state.shared.shared).config = state.shared.shared.config ∧
      (outside event state.shared.shared).calls = state.shared.shared.calls ∧
      (outside event state.shared.shared).workers = state.shared.shared.workers ∧
      (outside event state.shared.shared).ended = state.shared.shared.ended := by
    cases event <;> exact ⟨rfl, rfl, rfl, rfl, rfl⟩
  obtain ⟨init, config, calls, workers, ended⟩ := same
  refine ⟨?_, ?_, ?_⟩
  · exact kept.books.stays init config (calls ▸ List.Subset.refl _) (workers ▸ kept.books.workers)
  · exact fun id task found action member => (kept.sees id task found action member).congr init config
  · exact kept.reported.imp_left ended.trans

private theorem program_unseen (call : Call) : (program call).any Action.sees = false := by
  cases call <;> rfl

private theorem kept_start (kept : Kept state) {call : Call}
    (vacant : state.tasks.lookup id = none) :
    Kept { state with tasks := state.tasks.insert id (program call) } := by
  refine ⟨kept.books, ?_, ?_⟩
  · intro other task found action member
    dsimp only at found ⊢
    rw [Table.lookup_insert_eq] at found
    split at found
    · cases found
      exact all_see_of_unseen (program_unseen call) action member
    · exact kept.sees other task found action member
  · rcases kept.reported with ended | equal | ⟨other, later, request, found, wrote⟩
    · exact .inl ended
    · exact .inr (.inl equal)
    · refine .inr (.inr ⟨other, later, request, ?_, wrote⟩)
      dsimp only
      rw [Table.lookup_insert_eq, if_neg]
      · exact found
      · rintro rfl
        cases vacant.symm.trans found

theorem reachable_kept (reached : (Noted.system toVec).Reachable state) : Kept state := by
  apply reached.invariant_with (fun _ reached => reached)
  · rintro ⟨⟨shared, ledger⟩, tasks⟩ ⟨⟨fresh, blank⟩, empty⟩
    have idle := fresh.lifecycle.1
    dsimp only at blank empty idle
    subst blank
    refine ⟨?_, ?_, .inr (.inl rfl)⟩
    · exact
        { entered := fun some => absurd rfl some
          running := nofun
          newest := nofun
          workers := by
            dsimp only
            rw [idle]
            exact nofun
          once := Nat.zero_le 1
          final := nofun }
    · intro id task found
      dsimp only at found
      rw [empty] at found
      cases found
  · rintro before event after reached rfl kept
    have moved := Tasks.next_moved (Noted.kind toVec) before event
    generalize Tasks.next (Noted.kind toVec) before event = next at moved
    cases moved with
    | still => exact kept
    | around => exact kept_outside _ kept
    | started vacant => exact kept_start kept vacant
    | @stepped id choice task stepped noted present taken =>
        cases task with
        | nil => cases taken
        | cons action rest =>
            obtain ⟨⟨shared, more⟩, acted, same⟩ := Option.map_eq_some_iff.mp taken
            cases same
            exact kept_step reached kept present acted

end

/-- What the replacements of a deferred configuration come to. -/
structure DeferredConfig (state : Tasks Noted Program) : Prop where
  calledOnce : state.shared.shared.calls.count .init ≤ 1
  enteredOnce : state.shared.ledger.used.length ≤ 1
  -- A report of success stands for the bytes that its task wrote, the newest ones.
  reports : ∀ id rest, state.tasks.lookup id = some (.replaced :: rest) →
    ∃ config, state.shared.ledger.written.getLast? = some (id, config) ∧
      (state.shared.shared.ended = false →
        (state.shared.ledger.note id state.shared.shared .replaced).accepted =
          state.shared.ledger.accepted ++ [(id, config)])
  -- The initializer uses the bytes of the request that was accepted last.
  newest : ∀ config ∈ state.shared.ledger.used, ∀ request ∈ state.shared.ledger.accepted,
    ∃ last, state.shared.ledger.accepted.getLast? = some last ∧ last.2 = config
  -- They stay where they are until it returns.
  held : ∀ id task, state.tasks.lookup id = some task → .initReturns ∈ task →
    state.shared.ledger.used.getLast? = some state.shared.shared.config

theorem deferred_config_current (toVec : Message → Except String Bytes)
    (state : Tasks Noted Program) (reached : (Noted.system toVec).Reachable state) :
    DeferredConfig state := by
  obtain ⟨books, sees, _⟩ := reachable_kept reached
  refine ⟨(native_calls_exclusive (reachable_plain reached)).initOnce, books.once, ?_, ?_, ?_⟩
  · intro id rest present
    obtain ⟨_, config, wrote⟩ := sees id _ present .replaced List.mem_cons_self
    refine ⟨config, ?_, fun going => ?_⟩
    · rw [wrote]
      exact List.getLast?_concat
    · have reported := @note_reports id state.shared.ledger state.shared.shared config going wrote
      rw [reported, ← wrote]
      unfold Ledger.note
      dsimp only
      split <;> rfl
  · intro config used request accepted
    have some := List.ne_nil_of_mem accepted
    exact ⟨_, List.getLast?_eq_some_getLast some, books.final config used _
      (List.getLast?_eq_some_getLast some)⟩
  · exact fun id task found member => (sees id task found .initReturns member).2

def replacedFirst : List (Tasks.Event Call Choice Outside) :=
  .start 0 (.reinit [7]) :: turns 0 [.proceed, .proceed, .proceed, .proceed, .proceed] ++
    .start 1 (.send ModuleBus.voiceCall) ::
      turns 1 [.proceed, .proceed, .proceed, .spawned true] ++
    .start 2 .physicalWorker :: turns 2 [.proceed, .proceed, .proceed]

def replacedTransport : Tasks Noted Program :=
  replacedFirst.foldl (Tasks.next (Noted.kind (fun _ => .ok []))) ⟨⟨lazyTransport, .empty⟩, ∅⟩

theorem replacedTransport_current :
    replacedTransport.shared.ledger.accepted = [(0, [7])] ∧
      replacedTransport.shared.ledger.used = [[7]] ∧ DeferredConfig replacedTransport :=
  ⟨by decide, by decide, deferred_config_current (fun _ => .ok []) _
    (.of_foldl ⟨⟨lazyTransport_fresh, rfl⟩, rfl⟩ replacedFirst)⟩

end ModuleTransport

end TinyBus
