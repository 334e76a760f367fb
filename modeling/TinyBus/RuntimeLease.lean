import TinyBus.Library.Transition

/-
A module reservation and its host callback.  An activation reserves, exports the
callback and starts the module; its users share one worker that stops the module,
again and again under a policy, and withdraws the callback after that.

The driver answers as it likes, and everything of it comes as an event.  What was
sent to it and what it answered is kept beside the state of the code.
-/

namespace TinyBus

/-- The first attempt begins at once; each delay starts another one. -/
structure RetryPolicy where
  retryDelays : List Nat

def RetryPolicy.maxAttempts (policy : RetryPolicy) : Nat := policy.retryDelays.length + 1

inductive LeasePhase where
  | reserve
  | validate
  | object
  | callback
  | address
  | exported
  | start
  deriving DecidableEq

inductive LeaseReportOutcome where
  | acknowledged
  | failed
  | timedOut
  | faulted
  | exhausted
  | unacknowledged
  deriving DecidableEq

/-- What came of START: `unissued` until it is sent. -/
inductive StartState where
  | unissued
  | inFlight
  | started
  | settledFailure
  | unacknowledged
  | panicked
  deriving DecidableEq

/-- What the driver answers to START, or its panic. -/
inductive StartOutcome where
  | started
  | settledFailure
  | unacknowledged
  | panicked

/-- What the driver answers to STOP, or its panic. -/
inductive LeaseStopOutcome where
  | acknowledged
  | retryableFailure
  | unacknowledged
  | panicked
  deriving DecidableEq

inductive FaultCheck where
  | healthy
  | faulted
  | panicked

inductive CloseState where
  | opened
  | running
  | acknowledged
  | unacknowledged (attempt : Nat)

/-- The callback on the host: its guard is in the slot while it is `exported`. -/
inductive LeaseCallback where
  | absent
  | exported
  | withdrawn
  deriving DecidableEq

/-- What an activation answers; it may also be unwound by a panic. -/
inductive ActivationResult where
  | activated
  | refused (phase : LeasePhase) (acknowledged : Bool)
  | unwound

inductive ActivationPhase where
  | reserving
  | validating
  | building
  | calling
  | addressing
  | exporting
  | starting
  | rollingBack (phase : LeasePhase)
  | concluded (result : ActivationResult)

inductive CleanupPhase where
  | unstarted
  | checking (attempt : Nat)
  | stopping (attempt : Nat) (timedOut : Bool)
  | withdrawing (attempt : Nat)
  | rechecking (attempt : Nat)
  | sleeping (attempt delay : Nat)
  | parked
  | done

/-- The lease with its activation and its worker.  The last fields are a history: the
answers to STOP in order, none while one is in flight; how many there were when a fault
was found; and how often the worker was started. -/
structure RuntimeLease where
  activation : ActivationPhase
  worker : CleanupPhase
  users : Nat
  parked : Bool
  close : CloseState
  callback : LeaseCallback
  start : StartState
  reports : List (Nat × LeaseReportOutcome)
  stops : List (Option LeaseStopOutcome)
  faultedAt : Option Nat
  workers : Nat

/-- An activation goes on with what it waits for; `returned` is for all of it but START. -/
inductive ActivationEvent where
  | returned (ok : Bool)
  | started (outcome : StartOutcome)
  | waited
  | unwound

inductive CleanupEvent where
  | checked (outcome : FaultCheck)
  | timedOut
  | stopped (outcome : LeaseStopOutcome)
  | removed
  | slept

/-- A user that waits for the end only reads `close`; cancelling it changes nothing. -/
inductive LeaseUserEvent where
  | clone
  | drop
  | close

inductive LeaseEvent where
  | activation (event : ActivationEvent)
  | cleanup (event : CleanupEvent)
  | user (event : LeaseUserEvent)

def StartOutcome.state : StartOutcome → StartState
  | .started => .started
  | .settledFailure => .settledFailure
  | .unacknowledged => .unacknowledged
  | .panicked => .panicked

namespace RuntimeLease

def new : RuntimeLease :=
  { activation := .reserving, worker := .unstarted, users := 0, parked := false, close := .opened
    callback := .absent, start := .unissued, reports := [], stops := [], faultedAt := none
    workers := 0 }

/-- `LeaseControl::start`: the starter is taken once. -/
def startCleanup (lease : RuntimeLease) : RuntimeLease :=
  match lease.worker with
  | .unstarted =>
      { lease with close := .running, worker := .checking 1, workers := lease.workers + 1 }
  | _ => lease

def goTo (lease : RuntimeLease) (phase : ActivationPhase) : RuntimeLease :=
  { lease with activation := phase }

def rollBack (lease : RuntimeLease) (phase : LeasePhase) : RuntimeLease :=
  lease.startCleanup.goTo (.rollingBack phase)

/-- The control and the object are kept for good, and nothing is stopped. -/
def park (lease : RuntimeLease) (result : ActivationResult) : RuntimeLease :=
  { lease with parked := true, activation := .concluded result }

def startAnswered (lease : RuntimeLease) (outcome : StartOutcome) : RuntimeLease :=
  let answered := { lease with start := outcome.state }
  match outcome with
  | .started => { answered with users := 1, activation := .concluded .activated }
  | .settledFailure => answered.rollBack .start
  | .unacknowledged => answered.park (.refused .start false)
  | .panicked => answered.park (.refused .start false)

/-- The drop of an armed rollback. -/
def unwind (lease : RuntimeLease) : RuntimeLease :=
  match lease.activation with
  | .reserving => lease.goTo (.concluded .unwound)
  | .starting => lease.park .unwound
  | .concluded _ => lease
  | _ => lease.startCleanup.goTo (.concluded .unwound)

def activate (lease : RuntimeLease) (event : ActivationEvent) : RuntimeLease :=
  match lease.activation, event with
  | .reserving, .returned ok =>
      lease.goTo (if ok then .validating else .concluded (.refused .reserve false))
  | .validating, .returned ok => if ok then lease.goTo .building else lease.rollBack .validate
  | .building, .returned ok => if ok then lease.goTo .calling else lease.rollBack .object
  | .calling, .returned ok => if ok then lease.goTo .addressing else lease.rollBack .callback
  | .addressing, .returned ok => if ok then lease.goTo .exporting else lease.rollBack .address
  | .exporting, .returned ok =>
      if ok then { lease with callback := .exported, start := .inFlight, activation := .starting }
      else lease.rollBack .exported
  | .starting, .started outcome => lease.startAnswered outcome
  | .rollingBack phase, .waited =>
      match lease.close with
      | .acknowledged => lease.goTo (.concluded (.refused phase true))
      | .unacknowledged _ => lease.goTo (.concluded (.refused phase false))
      | _ => lease
  | .concluded _, .started outcome =>
      -- START outlives an activation that was unwound
      if lease.start = .inFlight then { lease with start := outcome.state } else lease
  | _, .unwound => lease.unwind
  | _, _ => lease

def report (lease : RuntimeLease) (attempt : Nat) (outcome : LeaseReportOutcome) : RuntimeLease :=
  { lease with reports := lease.reports ++ [(attempt, outcome)] }

/-- `mark_unacknowledged`, after which the worker waits for ever. -/
def parkUnacknowledged (lease : RuntimeLease) (attempt : Nat) (outcome : LeaseReportOutcome) :
    RuntimeLease :=
  { lease.report attempt outcome with close := .unacknowledged attempt, worker := .parked }

/-- `check_fault`, with the phase of a healthy reservation. -/
def checkFault (lease : RuntimeLease) (attempt : Nat) (healthy : RuntimeLease) :
    FaultCheck → RuntimeLease
  | .healthy => healthy
  | .faulted =>
      { lease.parkUnacknowledged attempt .faulted with faultedAt := some lease.stops.length }
  | .panicked =>
      { lease.parkUnacknowledged attempt .unacknowledged with
        faultedAt := some lease.stops.length }

def stopAnswered (policy : RetryPolicy) (lease : RuntimeLease) (attempt : Nat)
    (outcome : LeaseStopOutcome) : RuntimeLease :=
  let answered := { lease with stops := lease.stops.dropLast ++ [some outcome] }
  match outcome with
  | .acknowledged => { answered.report attempt .acknowledged with worker := .withdrawing attempt }
  | .retryableFailure =>
      let failed := answered.report attempt .failed
      if attempt = policy.maxAttempts then failed.parkUnacknowledged attempt .exhausted
      else { failed with worker := .rechecking attempt }
  | .unacknowledged => answered.parkUnacknowledged attempt .unacknowledged
  | .panicked => answered.parkUnacknowledged attempt .unacknowledged

def cleanup (policy : RetryPolicy) (lease : RuntimeLease) (event : CleanupEvent) : RuntimeLease :=
  match lease.worker, event with
  | .checking attempt, .checked outcome =>
      lease.checkFault attempt
        { lease with stops := lease.stops ++ [none], worker := .stopping attempt false } outcome
  | .stopping attempt false, .timedOut =>
      { lease.report attempt .timedOut with
        close := .unacknowledged attempt, worker := .stopping attempt true }
  | .stopping attempt _, .stopped outcome => lease.stopAnswered policy attempt outcome
  | .withdrawing _, .removed =>
      { lease with
        callback := if lease.callback = .exported then .withdrawn else lease.callback
        close := .acknowledged, worker := .done }
  | .rechecking attempt, .checked outcome =>
      lease.checkFault attempt
        { lease with
          worker := .sleeping attempt (policy.retryDelays[attempt - 1]?.getD 0) } outcome
  | .sleeping attempt _, .slept => { lease with worker := .checking (attempt + 1) }
  | _, _ => lease

def use (lease : RuntimeLease) : LeaseUserEvent → RuntimeLease
  | .clone => if lease.users = 0 then lease else { lease with users := lease.users + 1 }
  | .drop =>
      if lease.users = 0 then lease
      else
        let dropped := { lease with users := lease.users - 1 }
        if lease.users = 1 then dropped.startCleanup else dropped
  | .close => if lease.users = 0 then lease else lease.startCleanup

def holdsSlot (lease : RuntimeLease) : Bool :=
  let worker := match lease.worker with
    | .unstarted => false
    | .done => false
    | _ => true
  let activation := match lease.activation with
    | .concluded _ => false
    | _ => true
  worker || activation || lease.parked || 0 < lease.users

def dropSlot (lease : RuntimeLease) : RuntimeLease :=
  if lease.callback = .exported ∧ lease.holdsSlot = false then
    { lease with callback := .withdrawn }
  else lease

def next (policy : RetryPolicy) (lease : RuntimeLease) : LeaseEvent → RuntimeLease
  | .activation event => (lease.activate event).dropSlot
  | .cleanup event => (lease.cleanup policy event).dropSlot
  | .user event => (lease.use event).dropSlot

def system (policy : RetryPolicy) : TransitionSystem.System RuntimeLease LeaseEvent :=
  TransitionSystem.System.ofFunction (fun lease => lease = new) (next policy)

end RuntimeLease

end TinyBus
