import TinyBus.RuntimeLease

/-
When a lease stops its module.  Each STOP but the last one failed in a way that may
be retried, so no two are under way at once and none follows another answer; and
the worker that sends them begins when START is settled or was never sent.
-/

namespace TinyBus

open TransitionSystem

def CleanupPhase.begun : CleanupPhase → Bool
  | .unstarted => false
  | _ => true

def CleanupPhase.working : CleanupPhase → Bool
  | .unstarted => false
  | .done => false
  | _ => true

def ActivationPhase.early : ActivationPhase → Bool
  | .reserving => true
  | .validating => true
  | .building => true
  | .calling => true
  | .addressing => true
  | .exporting => true
  | _ => false

def StartState.settled : StartState → Bool
  | .unissued => true
  | .started => true
  | .settledFailure => true
  | _ => false

namespace RuntimeLease

/-! ### The invariant -/

def AllFailed (stops : List (Option LeaseStopOutcome)) : Prop :=
  ∀ stop ∈ stops, stop = some .retryableFailure

/-- What the worker did before each of its phases: the phase, the answers to STOP, the
number of them at a fault, and how often the worker was started. -/
inductive Stopping (policy : RetryPolicy) :
    CleanupPhase → List (Option LeaseStopOutcome) → Option Nat → Nat → Prop
  | unstarted : Stopping policy .unstarted [] none 0
  | checking (stops : List (Option LeaseStopOutcome)) (failed : AllFailed stops)
      (room : stops.length < policy.maxAttempts) :
      Stopping policy (.checking (stops.length + 1)) stops none 1
  | stopping (earlier : List (Option LeaseStopOutcome)) (timedOut : Bool) (failed : AllFailed earlier)
      (room : earlier.length < policy.maxAttempts) :
      Stopping policy (.stopping (earlier.length + 1) timedOut) (earlier ++ [none]) none 1
  | withdrawing (attempt : Nat) (earlier : List (Option LeaseStopOutcome)) (failed : AllFailed earlier)
      (room : earlier.length < policy.maxAttempts) :
      Stopping policy (.withdrawing attempt) (earlier ++ [some .acknowledged]) none 1
  | rechecking (stops : List (Option LeaseStopOutcome)) (failed : AllFailed stops)
      (room : stops.length < policy.maxAttempts) :
      Stopping policy (.rechecking stops.length) stops none 1
  | sleeping (stops : List (Option LeaseStopOutcome)) (delay : Nat) (failed : AllFailed stops)
      (room : stops.length < policy.maxAttempts) :
      Stopping policy (.sleeping stops.length delay) stops none 1
  | faulted (stops : List (Option LeaseStopOutcome)) (failed : AllFailed stops)
      (room : stops.length < policy.maxAttempts) :
      Stopping policy .parked stops (some stops.length) 1
  | parked (earlier : List (Option LeaseStopOutcome)) (last : LeaseStopOutcome) (failed : AllFailed earlier)
      (room : earlier.length < policy.maxAttempts) :
      Stopping policy .parked (earlier ++ [some last]) none 1
  | done (earlier : List (Option LeaseStopOutcome)) (failed : AllFailed earlier)
      (room : earlier.length < policy.maxAttempts) :
      Stopping policy .done (earlier ++ [some .acknowledged]) none 1

/-- The stages of a lease: its activation, the worker, the users, whether it is parked,
the callback and START. -/
inductive Stage :
    ActivationPhase → CleanupPhase → Nat → Bool → LeaseCallback → StartState → Prop
  | early (phase : ActivationPhase) (early : phase.early = true) :
      Stage phase .unstarted 0 false .absent .unissued
  | starting : Stage .starting .unstarted 0 false .exported .inFlight
  | rolling (phase : LeasePhase) (worker : CleanupPhase) (callback : LeaseCallback)
      (start : StartState) (begun : worker.begun = true) (settled : start.settled = true) :
      Stage (.rollingBack phase) worker 0 false callback start
  | refused (result : ActivationResult) :
      Stage (.concluded result) .unstarted 0 false .absent .unissued
  | lost (result : ActivationResult) (start : StartState) :
      Stage (.concluded result) .unstarted 0 true .exported start
  | serving (result : ActivationResult) (users : Nat) (some : 0 < users) :
      Stage (.concluded result) .unstarted users false .exported .started
  | closing (result : ActivationResult) (worker : CleanupPhase) (users : Nat)
      (callback : LeaseCallback) (start : StartState) (begun : worker.begun = true)
      (settled : start.settled = true) :
      Stage (.concluded result) worker users false callback start

structure Sane (policy : RetryPolicy) (lease : RuntimeLease) : Prop where
  stage : Stage lease.activation lease.worker lease.users lease.parked lease.callback lease.start
  stopping : Stopping policy lease.worker lease.stops lease.faultedAt lease.workers
  callback : lease.worker = .done ∧ lease.callback ≠ .exported ∨
    lease.worker ≠ .done ∧ lease.callback ≠ .withdrawn

variable {policy : RetryPolicy} {lease : RuntimeLease}

theorem Sane.dropSlot (sane : Sane policy lease) : lease.dropSlot = lease := by
  unfold RuntimeLease.dropSlot
  rw [if_neg]
  rintro ⟨exported, unheld⟩
  obtain ⟨stage, stopping, callback⟩ := sane
  have notDone : lease.worker ≠ .done := by
    rcases callback with ⟨_, other⟩ | ⟨other, _⟩
    · exact absurd exported other
    · exact other
  obtain ⟨activation, worker, users, parked, close, callback, start, reports, stops, faultedAt,
    workers⟩ := lease
  dsimp only at *
  unfold holdsSlot at unheld
  cases stage with
  | early phase early =>
      cases exported
  | starting => simp at unheld
  | rolling phase worker callback start begun settled => simp at unheld
  | refused result => cases exported
  | lost result start => simp at unheld
  | serving result users some => simp at unheld; omega
  | closing result worker users callback start begun settled =>
      cases worker with
      | unstarted => cases begun
      | done => exact notDone rfl
      | _ => simp at unheld

/-! ### The start of the worker -/

@[simp] theorem startCleanup_users : lease.startCleanup.users = lease.users := by
  unfold startCleanup
  split <;> rfl

@[simp] theorem startCleanup_parked : lease.startCleanup.parked = lease.parked := by
  unfold startCleanup
  split <;> rfl

@[simp] theorem startCleanup_callback : lease.startCleanup.callback = lease.callback := by
  unfold startCleanup
  split <;> rfl

@[simp] theorem startCleanup_start : lease.startCleanup.start = lease.start := by
  unfold startCleanup
  split <;> rfl

@[simp] theorem startCleanup_activation : lease.startCleanup.activation = lease.activation := by
  unfold startCleanup
  split <;> rfl

theorem startCleanup_begun : lease.startCleanup.worker.begun = true := by
  unfold startCleanup
  cases phase : lease.worker with
  | unstarted => rfl
  | _ =>
      dsimp only
      rw [phase]
      rfl

theorem startCleanup_done : lease.startCleanup.worker = .done ↔ lease.worker = .done := by
  unfold startCleanup
  cases phase : lease.worker with
  | unstarted => simp
  | _ =>
      dsimp only
      rw [phase]

theorem startCleanup_stopping
    (stopping : Stopping policy lease.worker lease.stops lease.faultedAt lease.workers) :
    Stopping policy lease.startCleanup.worker lease.startCleanup.stops
      lease.startCleanup.faultedAt lease.startCleanup.workers := by
  obtain ⟨activation, worker, users, parked, close, callback, start, reports, stops, faultedAt,
    workers⟩ := lease
  dsimp only at stopping
  unfold startCleanup
  cases worker with
  | unstarted =>
      cases stopping
      exact .checking [] (by intro stop among; cases among) (Nat.succ_pos _)
  | _ => exact stopping

theorem startCleanup_callback_done
    (callback : lease.worker = .done ∧ lease.callback ≠ .exported ∨
      lease.worker ≠ .done ∧ lease.callback ≠ .withdrawn) :
    lease.startCleanup.worker = .done ∧ lease.startCleanup.callback ≠ .exported ∨
      lease.startCleanup.worker ≠ .done ∧ lease.startCleanup.callback ≠ .withdrawn := by
  rw [startCleanup_callback]
  rcases callback with ⟨done, callback⟩ | ⟨busy, callback⟩
  · exact .inl ⟨startCleanup_done.mpr done, callback⟩
  · exact .inr ⟨fun done => busy (startCleanup_done.mp done), callback⟩

theorem Sane.startCleanup (sane : Sane policy lease) (activation : ActivationPhase)
    (stage : Stage activation lease.startCleanup.worker lease.users lease.parked lease.callback
      lease.start) : Sane policy (lease.startCleanup.goTo activation) := by
  refine ⟨?_, startCleanup_stopping sane.stopping, ?_⟩
  · unfold goTo
    simpa using stage
  · exact startCleanup_callback_done sane.callback

theorem Sane.rollBack (sane : Sane policy lease) (users : lease.users = 0)
    (parked : lease.parked = false) (start : StartState) (settled : start.settled = true)
    (phase : LeasePhase) : Sane policy ({ lease with start := start }.rollBack phase) := by
  refine ⟨?_, startCleanup_stopping sane.stopping, ?_⟩
  · unfold RuntimeLease.rollBack RuntimeLease.goTo
    simp only [startCleanup_users, startCleanup_parked, startCleanup_callback,
      startCleanup_start]
    rw [users, parked]
    exact .rolling phase _ _ _ startCleanup_begun settled
  · exact startCleanup_callback_done sane.callback

/-! ### Steps of the activation -/

theorem Sane.goTo (sane : Sane policy lease) (activation : ActivationPhase)
    (stage : Stage activation lease.worker lease.users lease.parked lease.callback lease.start) :
    Sane policy (lease.goTo activation) :=
  ⟨stage, sane.stopping, sane.callback⟩

theorem Sane.of_early (sane : Sane policy lease) (early : lease.activation.early = true) :
    lease.worker = .unstarted ∧ lease.users = 0 ∧ lease.parked = false ∧
      lease.callback = .absent ∧ lease.start = .unissued := by
  have stage := sane.stage
  obtain ⟨activation, worker, users, parked, close, callback, start, reports, stops, faultedAt,
    workers⟩ := lease
  dsimp only at *
  cases stage with
  | early phase early => exact ⟨rfl, rfl, rfl, rfl, rfl⟩
  | _ => cases early

theorem Sane.advance (sane : Sane policy lease) (early : lease.activation.early = true)
    {phase : ActivationPhase} (next : phase.early = true) : Sane policy (lease.goTo phase) := by
  obtain ⟨worker, users, parked, callback, start⟩ := sane.of_early early
  refine sane.goTo phase ?_
  rw [worker, users, parked, callback, start]
  exact .early phase next

theorem Sane.refuse (sane : Sane policy lease) (early : lease.activation.early = true)
    (result : ActivationResult) : Sane policy (lease.goTo (.concluded result)) := by
  obtain ⟨worker, users, parked, callback, start⟩ := sane.of_early early
  refine sane.goTo _ ?_
  rw [worker, users, parked, callback, start]
  exact .refused result

theorem Sane.abandon (sane : Sane policy lease) (early : lease.activation.early = true)
    (phase : LeasePhase) : Sane policy (lease.rollBack phase) := by
  obtain ⟨worker, users, parked, callback, start⟩ := sane.of_early early
  refine sane.rollBack users parked lease.start ?_ phase
  rw [start]
  rfl

theorem Sane.issue (sane : Sane policy lease) (early : lease.activation.early = true) :
    Sane policy
      { lease with callback := .exported, start := .inFlight, activation := .starting } := by
  obtain ⟨worker, users, parked, callback, start⟩ := sane.of_early early
  refine ⟨?_, sane.stopping, ?_⟩
  · dsimp only
    rw [worker, users, parked]
    exact .starting
  · refine .inr ⟨?_, fun withdrawn => by cases withdrawn⟩
    dsimp only
    rw [worker]
    exact fun done => by cases done

theorem Sane.returned (sane : Sane policy lease) (ok : Bool) :
    Sane policy (lease.activate (.returned ok)) := by
  unfold activate
  cases phase : lease.activation with
  | reserving =>
      have early : lease.activation.early = true := by rw [phase]; rfl
      cases ok with
      | true => exact sane.advance early rfl
      | false => exact sane.refuse early _
  | validating =>
      have early : lease.activation.early = true := by rw [phase]; rfl
      cases ok with
      | true => exact sane.advance early rfl
      | false => exact sane.abandon early .validate
  | building =>
      have early : lease.activation.early = true := by rw [phase]; rfl
      cases ok with
      | true => exact sane.advance early rfl
      | false => exact sane.abandon early .object
  | calling =>
      have early : lease.activation.early = true := by rw [phase]; rfl
      cases ok with
      | true => exact sane.advance early rfl
      | false => exact sane.abandon early .callback
  | addressing =>
      have early : lease.activation.early = true := by rw [phase]; rfl
      cases ok with
      | true => exact sane.advance early rfl
      | false => exact sane.abandon early .address
  | exporting =>
      have early : lease.activation.early = true := by rw [phase]; rfl
      cases ok with
      | true => exact sane.issue early
      | false => exact sane.abandon early .exported
  | _ => exact sane

theorem Sane.of_starting (sane : Sane policy lease) (phase : lease.activation = .starting) :
    lease.worker = .unstarted ∧ lease.users = 0 ∧ lease.parked = false ∧
      lease.callback = .exported ∧ lease.start = .inFlight := by
  have stage := sane.stage
  rw [phase] at stage
  generalize lease.worker = worker at stage ⊢
  generalize lease.users = users at stage ⊢
  generalize lease.parked = parked at stage ⊢
  generalize lease.callback = callback at stage ⊢
  generalize lease.start = start at stage ⊢
  cases stage with
  | early phase early => cases early
  | starting => exact ⟨rfl, rfl, rfl, rfl, rfl⟩

theorem Sane.lose (sane : Sane policy lease) (phase : lease.activation = .starting)
    (result : ActivationResult) (start : StartState) :
    Sane policy ({ lease with start := start }.park result) := by
  obtain ⟨worker, users, parked, callback, sent⟩ := sane.of_starting phase
  refine ⟨?_, sane.stopping, sane.callback⟩
  unfold park
  dsimp only
  rw [worker, users, callback]
  exact .lost result start

theorem Sane.startAnswered (sane : Sane policy lease) (phase : lease.activation = .starting)
    (outcome : StartOutcome) : Sane policy (lease.startAnswered outcome) := by
  obtain ⟨worker, users, parked, callback, sent⟩ := sane.of_starting phase
  unfold RuntimeLease.startAnswered
  cases outcome with
  | started =>
      refine ⟨?_, sane.stopping, sane.callback⟩
      dsimp only
      rw [worker, parked, callback]
      exact .serving _ 1 (Nat.succ_pos 0)
  | settledFailure => exact sane.rollBack users parked .settledFailure rfl .start
  | unacknowledged => exact sane.lose phase _ _
  | panicked => exact sane.lose phase _ _

theorem Sane.of_rolling (sane : Sane policy lease) {failed : LeasePhase}
    (phase : lease.activation = .rollingBack failed) :
    lease.worker.begun = true ∧ lease.users = 0 ∧ lease.parked = false ∧
      lease.start.settled = true := by
  have stage := sane.stage
  rw [phase] at stage
  generalize lease.worker = worker at stage ⊢
  generalize lease.users = users at stage ⊢
  generalize lease.parked = parked at stage ⊢
  generalize lease.callback = callback at stage
  generalize lease.start = start at stage ⊢
  cases stage with
  | early phase early => cases early
  | rolling phase worker callback start begun settled => exact ⟨begun, rfl, rfl, settled⟩

theorem Sane.unwind (sane : Sane policy lease) : Sane policy lease.unwind := by
  unfold RuntimeLease.unwind
  cases phase : lease.activation with
  | reserving => exact sane.refuse (by rw [phase]; rfl) .unwound
  | starting => exact sane.lose phase .unwound lease.start
  | concluded result => exact sane
  | rollingBack failed =>
      obtain ⟨begun, users, parked, settled⟩ := sane.of_rolling phase
      refine sane.startCleanup _ ?_
      rw [users, parked]
      exact .closing _ _ 0 _ _ startCleanup_begun settled
  | _ =>
      obtain ⟨worker, users, parked, callback, start⟩ := sane.of_early (by rw [phase]; rfl)
      refine sane.startCleanup _ ?_
      rw [parked, start]
      exact .closing _ _ _ _ _ startCleanup_begun rfl

theorem Sane.waited (sane : Sane policy lease) : Sane policy (lease.activate .waited) := by
  unfold activate
  cases phase : lease.activation with
  | rollingBack failed =>
      obtain ⟨begun, users, parked, settled⟩ := sane.of_rolling phase
      have concluded (result : ActivationResult) :
          Sane policy (lease.goTo (.concluded result)) := by
        refine sane.goTo _ ?_
        rw [users, parked]
        exact .closing result _ 0 _ _ begun settled
      dsimp only
      cases lease.close with
      | acknowledged => exact concluded _
      | unacknowledged attempt => exact concluded _
      | _ => exact sane
  | _ => exact sane

theorem Sane.answeredLate (sane : Sane policy lease) {result : ActivationResult}
    (phase : lease.activation = .concluded result) (sent : lease.start = .inFlight)
    (start : StartState) : Sane policy { lease with start := start } := by
  refine ⟨?_, sane.stopping, sane.callback⟩
  have stage := sane.stage
  dsimp only
  rw [phase, sent] at stage
  rw [phase]
  generalize lease.worker = worker at stage ⊢
  generalize lease.users = users at stage ⊢
  generalize lease.parked = parked at stage ⊢
  generalize lease.callback = callback at stage ⊢
  cases stage with
  | lost result start => exact .lost _ _
  | closing result worker users callback start begun settled => cases settled

theorem Sane.started (sane : Sane policy lease) (outcome : StartOutcome) :
    Sane policy (lease.activate (.started outcome)) := by
  unfold activate
  cases phase : lease.activation with
  | starting => exact sane.startAnswered phase outcome
  | concluded result =>
      dsimp only
      split
      · case isTrue sent =>
          rw [← phase]
          exact sane.answeredLate phase sent outcome.state
      · case isFalse settled => exact sane
  | _ => exact sane

theorem Sane.activate (sane : Sane policy lease) (event : ActivationEvent) :
    Sane policy (lease.activate event) := by
  cases event with
  | returned ok => exact sane.returned ok
  | started outcome => exact sane.started outcome
  | waited => exact sane.waited
  | unwound =>
      unfold RuntimeLease.activate
      cases phase : lease.activation <;> exact sane.unwind

/-! ### Steps of the worker -/

variable {worker : CleanupPhase} {stops : List (Option LeaseStopOutcome)} {faultedAt : Option Nat}
  {workers : Nat}

theorem CleanupPhase.begun_of_working (working : worker.working = true) :
    worker.begun = true := by
  cases worker <;> first | rfl | cases working

theorem Stage.work {activation : ActivationPhase} {after : CleanupPhase} {users : Nat}
    {parked : Bool} {callback left : LeaseCallback} {start : StartState}
    (stage : Stage activation worker users parked callback start) (begun : worker.begun = true)
    (goesOn : after.begun = true) :
    Stage activation after users parked left start := by
  cases stage with
  | rolling phase worker callback start begun settled =>
      exact .rolling phase after left start goesOn settled
  | closing result worker users callback start begun settled =>
      exact .closing result after users left start goesOn settled
  | _ => cases begun

theorem Sane.work {after : RuntimeLease} (sane : Sane policy lease)
    (working : lease.worker.working = true)
    (same : after.activation = lease.activation ∧ after.users = lease.users ∧
      after.parked = lease.parked ∧ after.callback = lease.callback ∧
      after.start = lease.start)
    (goesOn : after.worker.working = true)
    (stopping : Stopping policy after.worker after.stops after.faultedAt after.workers) :
    Sane policy after := by
  obtain ⟨activation, users, parked, callback, start⟩ := same
  refine ⟨?_, stopping, ?_⟩
  · rw [activation, users, parked, start]
    exact sane.stage.work (CleanupPhase.begun_of_working working)
      (CleanupPhase.begun_of_working goesOn)
  · rcases sane.callback with ⟨done, _⟩ | ⟨_, kept⟩
    · rw [done] at working
      cases working
    · refine .inr ⟨?_, by rw [callback]; exact kept⟩
      intro done
      rw [done] at goesOn
      cases goesOn

theorem AllFailed.snoc (failed : AllFailed stops) :
    AllFailed (stops ++ [some .retryableFailure]) := by
  intro stop among
  rcases List.mem_append.mp among with earlier | last
  · exact failed stop earlier
  · exact List.mem_singleton.mp last

theorem Sane.checked (sane : Sane policy lease) (outcome : FaultCheck) :
    Sane policy (lease.cleanup policy (.checked outcome)) := by
  obtain ⟨activation, worker, users, parked, close, callback, start, reports, stops, faultedAt,
    workers⟩ := lease
  have stopping := sane.stopping
  dsimp only at stopping
  cases stopping with
  | checking stops failed room =>
      cases outcome with
      | healthy => exact sane.work rfl ⟨rfl, rfl, rfl, rfl, rfl⟩ rfl (.stopping stops false failed room)
      | faulted => exact sane.work rfl ⟨rfl, rfl, rfl, rfl, rfl⟩ rfl (.faulted stops failed room)
      | panicked => exact sane.work rfl ⟨rfl, rfl, rfl, rfl, rfl⟩ rfl (.faulted stops failed room)
  | rechecking stops failed room =>
      cases outcome with
      | healthy => exact sane.work rfl ⟨rfl, rfl, rfl, rfl, rfl⟩ rfl (.sleeping stops _ failed room)
      | faulted => exact sane.work rfl ⟨rfl, rfl, rfl, rfl, rfl⟩ rfl (.faulted stops failed room)
      | panicked => exact sane.work rfl ⟨rfl, rfl, rfl, rfl, rfl⟩ rfl (.faulted stops failed room)
  | stopping earlier late failed room => cases late <;> exact sane
  | _ => exact sane

theorem Sane.timedOut (sane : Sane policy lease) :
    Sane policy (lease.cleanup policy .timedOut) := by
  obtain ⟨activation, worker, users, parked, close, callback, start, reports, stops, faultedAt,
    workers⟩ := lease
  have stopping := sane.stopping
  dsimp only at stopping
  cases stopping with
  | stopping earlier late failed room =>
      cases late with
      | false =>
          exact sane.work rfl ⟨rfl, rfl, rfl, rfl, rfl⟩ rfl (.stopping earlier true failed room)
      | true => exact sane
  | _ => exact sane

theorem Sane.stopAnswered (sane : Sane policy lease) {attempt : Nat} {late : Bool}
    (phase : lease.worker = .stopping attempt late) (outcome : LeaseStopOutcome) :
    Sane policy (lease.stopAnswered policy attempt outcome) := by
  obtain ⟨activation, worker, users, parked, close, callback, start, reports, stops, faultedAt,
    workers⟩ := lease
  dsimp only at phase
  subst phase
  have stopping := sane.stopping
  dsimp only at stopping
  cases stopping with
  | stopping earlier late failed room =>
      have answered : (earlier ++ [none]).dropLast = earlier := List.dropLast_concat
      unfold RuntimeLease.stopAnswered
      dsimp only
      rw [answered]
      cases outcome with
      | acknowledged =>
          exact sane.work rfl ⟨rfl, rfl, rfl, rfl, rfl⟩ rfl (.withdrawing _ earlier failed room)
      | retryableFailure =>
          dsimp only
          split
          · case isTrue last =>
              exact sane.work rfl ⟨rfl, rfl, rfl, rfl, rfl⟩ rfl (.parked earlier _ failed room)
          · case isFalse more =>
              have count : (earlier ++ [some LeaseStopOutcome.retryableFailure]).length =
                  earlier.length + 1 := List.length_append
              refine sane.work rfl ⟨rfl, rfl, rfl, rfl, rfl⟩ rfl ?_
              dsimp only
              rw [← count]
              exact .rechecking _ failed.snoc (by omega)
      | unacknowledged =>
          exact sane.work rfl ⟨rfl, rfl, rfl, rfl, rfl⟩ rfl (.parked earlier _ failed room)
      | panicked =>
          exact sane.work rfl ⟨rfl, rfl, rfl, rfl, rfl⟩ rfl (.parked earlier _ failed room)

theorem Sane.stopped (sane : Sane policy lease) (outcome : LeaseStopOutcome) :
    Sane policy (lease.cleanup policy (.stopped outcome)) := by
  unfold RuntimeLease.cleanup
  cases phase : lease.worker with
  | stopping attempt late => cases late <;> exact sane.stopAnswered phase outcome
  | _ => exact sane

theorem Sane.removed (sane : Sane policy lease) :
    Sane policy (lease.cleanup policy .removed) := by
  obtain ⟨activation, worker, users, parked, close, callback, start, reports, stops, faultedAt,
    workers⟩ := lease
  have stopping := sane.stopping
  dsimp only at stopping
  cases stopping with
  | withdrawing attempt earlier failed room =>
      refine ⟨sane.stage.work rfl rfl, .done earlier failed room, .inl ⟨rfl, ?_⟩⟩
      change (if callback = .exported then LeaseCallback.withdrawn else callback) ≠ .exported
      split
      · exact fun still => by cases still
      · assumption
  | stopping earlier late failed room => cases late <;> exact sane
  | _ => exact sane

theorem Sane.slept (sane : Sane policy lease) :
    Sane policy (lease.cleanup policy .slept) := by
  obtain ⟨activation, worker, users, parked, close, callback, start, reports, stops, faultedAt,
    workers⟩ := lease
  have stopping := sane.stopping
  dsimp only at stopping
  cases stopping with
  | sleeping stops delay failed room =>
      exact sane.work rfl ⟨rfl, rfl, rfl, rfl, rfl⟩ rfl (.checking stops failed room)
  | stopping earlier late failed room => cases late <;> exact sane
  | _ => exact sane

theorem Sane.cleanup (sane : Sane policy lease) (event : CleanupEvent) :
    Sane policy (lease.cleanup policy event) := by
  cases event with
  | checked outcome => exact sane.checked outcome
  | timedOut => exact sane.timedOut
  | stopped outcome => exact sane.stopped outcome
  | removed => exact sane.removed
  | slept => exact sane.slept

/-! ### Steps of the users -/

theorem Sane.shared (sane : Sane policy lease) (shared : lease.users ≠ 0) (users : Nat)
    (left : users ≠ 0) : Sane policy { lease with users := users } := by
  refine ⟨?_, sane.stopping, sane.callback⟩
  have stage := sane.stage
  obtain ⟨activation, worker, count, parked, close, callback, start, reports, stops, faultedAt,
    workers⟩ := lease
  dsimp only at *
  cases stage with
  | serving result users some => exact .serving result _ (Nat.pos_of_ne_zero left)
  | closing result worker users callback start begun settled =>
      exact .closing result worker _ callback start begun settled
  | _ => exact absurd rfl shared

theorem Sane.closed (sane : Sane policy lease) (shared : lease.users ≠ 0) (users : Nat) :
    Sane policy { lease with users := users }.startCleanup := by
  refine ⟨?_, startCleanup_stopping sane.stopping, startCleanup_callback_done sane.callback⟩
  simp only [startCleanup_activation, startCleanup_users, startCleanup_parked,
    startCleanup_callback, startCleanup_start]
  have stage := sane.stage
  have begun : ({ lease with users := users } : RuntimeLease).startCleanup.worker.begun = true :=
    startCleanup_begun
  generalize ({ lease with users := users } : RuntimeLease).startCleanup.worker = after at *
  obtain ⟨activation, worker, count, parked, close, callback, start, reports, stops, faultedAt,
    workers⟩ := lease
  dsimp only at *
  cases stage with
  | serving result users some => exact .closing result after _ _ _ begun rfl
  | closing result worker users callback start _ settled =>
      exact .closing result after _ _ _ begun settled
  | _ => exact absurd rfl shared

theorem Sane.use (sane : Sane policy lease) (event : LeaseUserEvent) :
    Sane policy (lease.use event) := by
  unfold RuntimeLease.use
  cases event with
  | clone =>
      dsimp only
      split
      · exact sane
      · case isFalse shared => exact sane.shared shared _ (Nat.succ_ne_zero _)
  | drop =>
      dsimp only
      split
      · exact sane
      · case isFalse shared =>
          split
          · exact sane.closed shared _
          · case isFalse others => exact sane.shared shared _ (by omega)
  | close =>
      dsimp only
      split
      · exact sane
      · case isFalse shared => exact sane.closed shared lease.users

/-! ### Runs -/

theorem sane_new : Sane policy RuntimeLease.new :=
  ⟨.early .reserving rfl, .unstarted, .inr ⟨nofun, nofun⟩⟩

theorem Sane.next (sane : Sane policy lease) (event : LeaseEvent) :
    Sane policy (RuntimeLease.next policy lease event) := by
  cases event with
  | activation event =>
      change Sane policy (lease.activate event).dropSlot
      rw [(sane.activate event).dropSlot]
      exact sane.activate event
  | cleanup event =>
      change Sane policy (lease.cleanup policy event).dropSlot
      rw [(sane.cleanup event).dropSlot]
      exact sane.cleanup event
  | user event =>
      change Sane policy (lease.use event).dropSlot
      rw [(sane.use event).dropSlot]
      exact sane.use event

theorem sane_of_reachable (reached : (system policy).Reachable lease) : Sane policy lease := by
  apply reached.invariant
  · intro lease initial
    rw [initial]
    exact sane_new
  · intro before event after stepped sane
    rw [stepped]
    exact sane.next event

/-- How the STOPs of a lease stand to its policy and to START, and what they leave. -/
structure OrderlyStops (policy : RetryPolicy) (lease : RuntimeLease) : Prop where
  bounded : lease.stops.length ≤ policy.retryDelays.length + 1
  numbered : ∀ attempt late, lease.worker = .stopping attempt late → lease.stops.length = attempt
  onlyRetried : ∀ earlier last, lease.stops = earlier ++ [last] → AllFailed earlier
  afterStart : lease.stops ≠ [] → lease.start.settled = true
  noneAfterFault : ∀ count, lease.faultedAt = some count → lease.stops.length = count
  withdrawn : lease.callback = .withdrawn →
    lease.stops.getLast? = some (some .acknowledged)
  oneWorker : lease.workers ≤ 1

theorem Stopping.bounded (stopping : Stopping policy worker stops faultedAt workers) :
    stops.length ≤ policy.maxAttempts := by
  cases stopping with
  | unstarted => exact Nat.zero_le _
  | stopping earlier late failed room => simp; omega
  | withdrawing attempt earlier failed room => simp; omega
  | parked earlier last failed room => simp; omega
  | done earlier failed room => simp; omega
  | _ => omega

theorem AllFailed.of_snoc (failed : AllFailed stops) {earlier : List (Option LeaseStopOutcome)}
    {last : Option LeaseStopOutcome} (split : stops = earlier ++ [last]) : AllFailed earlier := by
  intro stop among
  rw [split] at failed
  exact failed stop (List.mem_append_left _ among)

theorem Stopping.onlyRetried (stopping : Stopping policy worker stops faultedAt workers)
    {earlier : List (Option LeaseStopOutcome)} {last : Option LeaseStopOutcome}
    (split : stops = earlier ++ [last]) : AllFailed earlier := by
  have same {first : List (Option LeaseStopOutcome)} {answer : Option LeaseStopOutcome}
      (failed : AllFailed first) (split : first ++ [answer] = earlier ++ [last]) :
      AllFailed earlier := by
    rw [← (List.append_inj' split rfl).1]
    exact failed
  cases stopping with
  | unstarted => exact absurd split (by simp)
  | checking stops failed room => exact failed.of_snoc split
  | stopping first late failed room => exact same failed split
  | withdrawing attempt first failed room => exact same failed split
  | rechecking stops failed room => exact failed.of_snoc split
  | sleeping stops delay failed room => exact failed.of_snoc split
  | faulted stops failed room => exact failed.of_snoc split
  | parked first answer failed room => exact same failed split
  | done first failed room => exact same failed split

theorem Stage.settled {activation : ActivationPhase} {users : Nat} {parked : Bool}
    {callback : LeaseCallback} {start : StartState}
    (stage : Stage activation worker users parked callback start)
    (begun : worker.begun = true) : start.settled = true := by
  cases stage with
  | rolling phase worker callback start _ settled => exact settled
  | closing result worker users callback start _ settled => exact settled
  | _ => cases begun

theorem Stopping.numbered {attempt : Nat} {late : Bool}
    (stopping : Stopping policy (.stopping attempt late) stops faultedAt workers) :
    stops.length = attempt := by
  cases stopping with
  | stopping earlier late failed room => exact List.length_append

theorem Stopping.begun (stopping : Stopping policy worker stops faultedAt workers)
    (issued : stops ≠ []) :
    worker.begun = true := by
  cases stopping with
  | unstarted => exact absurd rfl issued
  | _ => rfl

theorem Stopping.noneAfterFault {count : Nat}
    (stopping : Stopping policy worker stops (some count) workers) : stops.length = count := by
  cases stopping with
  | faulted stops failed room => rfl

theorem Stopping.acknowledged (stopping : Stopping policy .done stops faultedAt workers) :
    stops.getLast? = some (some .acknowledged) := by
  cases stopping with
  | done earlier failed room => exact List.getLast?_concat

theorem Stopping.oneWorker (stopping : Stopping policy worker stops faultedAt workers) :
    workers ≤ 1 := by
  cases stopping with
  | unstarted => exact Nat.zero_le 1
  | _ => exact Nat.le_refl 1

theorem Sane.orderly (sane : Sane policy lease) : OrderlyStops policy lease where
  bounded := sane.stopping.bounded
  numbered := by
    intro attempt late phase
    have stopping := sane.stopping
    rw [phase] at stopping
    exact stopping.numbered
  onlyRetried := fun _ _ split => sane.stopping.onlyRetried split
  afterStart := fun issued => sane.stage.settled (sane.stopping.begun issued)
  noneAfterFault := by
    intro count faulted
    have stopping := sane.stopping
    rw [faulted] at stopping
    exact stopping.noneAfterFault
  withdrawn := by
    intro withdrawn
    have stopping := sane.stopping
    rcases sane.callback with ⟨done, _⟩ | ⟨_, kept⟩
    · rw [done] at stopping
      exact stopping.acknowledged
    · exact absurd withdrawn kept
  oneWorker := sane.stopping.oneWorker

/-- In any order of answers, panics, timeouts and users, a lease stops its module at most
once for each attempt, one STOP at a time and only behind failures that may be retried,
with START settled or never sent, and with the callback in place until it is stopped. -/
theorem stops_orderly (reached : (system policy).Reachable lease) :
    OrderlyStops policy lease :=
  (sane_of_reachable reached).orderly

def servedAndStopped : List LeaseEvent :=
  [.activation (.returned true), .activation (.returned true), .activation (.returned true),
    .activation (.returned true), .activation (.returned true), .activation (.returned true),
    .activation (.started .started), .user .clone, .user .drop, .user .close,
    .cleanup (.checked .healthy), .cleanup .timedOut, .cleanup (.stopped .retryableFailure),
    .cleanup (.checked .healthy), .cleanup .slept, .cleanup (.checked .healthy),
    .cleanup (.stopped .acknowledged), .cleanup .removed]

def stoppedTwice : RuntimeLease :=
  servedAndStopped.foldl (next { retryDelays := [5] }) new

theorem stoppedTwice_orderly :
    stoppedTwice.callback = .withdrawn ∧ stoppedTwice.stops.length = 2 ∧
      OrderlyStops { retryDelays := [5] } stoppedTwice := by
  have initial : (system { retryDelays := [5] }).initial new := rfl
  have reached : (system { retryDelays := [5] }).Reachable stoppedTwice :=
    System.Reachable.of_foldl initial servedAndStopped
  exact ⟨rfl, rfl, stops_orderly reached⟩

end RuntimeLease

end TinyBus
