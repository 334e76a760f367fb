import TinyBus.Library.Programs
import TinyBus.Transport

/-
One admitted instance of a terminal module: the signals that end it, its two hooks, the
worker that cleans it up and the completion that is told to the host.

An action is a section under one lock, one access to an atomic, or one call into foreign
code.  Nothing foreign runs under the lock of the control, which therefore is never
poisoned; the fault that is told to the host comes back as an answer to a later query.
-/

namespace TinyBus

open ModuleTransport (TB_OK TB_CLOSED TB_PANICKED TB_BAD_ARGUMENT)

namespace TerminalState

def TB_NATIVE_TERMINAL_LIVE : Nat := 1

def TB_NATIVE_TERMINAL_STOP_INTENT : Nat := 2

def TB_NATIVE_TERMINAL_FAULT : Nat := 4

inductive TerminalReason where
  | stop
  | hostClosed
  | fault
  | setupFailed
  deriving DecidableEq

/-- What the atomic holds for a reason; a zero is an instance that is not terminal. -/
def TerminalReason.code : TerminalReason → Nat
  | .stop => 1
  | .hostClosed => 2
  | .fault => 3
  | .setupFailed => 4

/-- `reason`. -/
def TerminalReason.ofCode : Nat → TerminalReason
  | 1 => .stop
  | 2 => .hostClosed
  | 4 => .setupFailed
  | _ => .fault

inductive TerminalCompletion where
  | physicallyStopped
  | uncertain
  deriving DecidableEq

inductive RequestState where
  | unregistered
  | idle
  | running
  | done
  | panicked
  deriving DecidableEq

inductive FinishState where
  | idle
  | submitted
  | running
  | complete
  | spawnFailed
  deriving DecidableEq

inductive ReinitOperation where
  | retire
  | construct
  deriving DecidableEq

/-- How the initial task ended: its own result, the abort, or a panic that the runtime
caught. -/
inductive Outcome where
  | ok
  | error
  | cancelled
  | panicked
  deriving DecidableEq

inductive InitialTask where
  | absent
  | ready
  | running
  | ended (outcome : Outcome)
  deriving DecidableEq

/-- The captures that `dispose_setup` takes. -/
inductive Capture where
  | initialFuture
  | reinit
  | request
  | reinitFuture
  deriving DecidableEq

/-- The owners that `release_resources` takes. -/
inductive Resource where
  | setup
  | retainedFactory
  | config
  | reinitializerFactory
  | connection
  | inbound
  | transport
  | runtime
  deriving DecidableEq

/-- An answer of `terminal_shutdown`, with the completion and the reason that it was
made from. -/
structure Judgement where
  completion : TerminalCompletion
  reason : Nat
  code : Int
  deriving DecidableEq

structure Shared where
  reason : Nat
  uncertain : Bool
  vtablePublished : Bool
  sdkOwners : Nat
  anchor : Bool
  -- The control.
  request : Bool
  finish : Bool
  requestState : RequestState
  finishState : FinishState
  published : Bool
  completion : Option TerminalCompletion
  activeReinit : Bool
  reinitOperation : Option ReinitOperation
  constructionCode : Int
  priorPending : Bool
  retirementFailed : Bool
  -- The startup resources that a step looks for.
  config : Bool
  setup : Bool
  runtime : Bool
  connection : Bool
  reinit : Bool
  reinitFuture : Bool
  initial : Bool
  -- The factory call, the owners that are alive, the initial task, and the workers that
  -- were spawned and have not begun.
  factory : Bool
  owners : Nat
  initialTask : InitialTask
  aborted : Bool
  workers : Nat
  -- What happened: the signals, the calls of the hooks, what the finish hook answered,
  -- whether everything was disposed of and released, the fault that the worker's last
  -- check found, and what the host was told.
  committed : List TerminalReason
  requests : List TerminalReason
  finishes : Nat
  confirmed : Option TerminalCompletion
  disposed : Bool
  released : Bool
  checked : Option Bool
  judged : List Judgement

/-- What `is_live` is asked for. -/
inductive LiveUse where
  | view
  | startup
  | initialSetup
  | initialReady
  | reinit
  | reinitCallback
  | reinitRetired
  | construct
  | constructed
  | reinitDone
  deriving DecidableEq

inductive Abi where
  | shutdown
  | reinit
  deriving DecidableEq

inductive Action where
  -- Signals and the request hook.
  | commit (reason : TerminalReason)
  | retainUncertain
  | runRequest
  | callRequest (hook : Bool)
  | requestReturns
  | requestPanicked
  | schedule
  | spawn
  | ifTerminal
  | observeHost
  | isLive (use : LiveUse)
  | stillLive (use : LiveUse)
  -- The factory call.
  | beginFactory
  | parseConfig
  | factory
  | register
  | attachSetup
  | buildRuntime
  | attachTransport
  | attachReinit
  | spawnInitial
  | markVtablePublished
  | factoryEnds (code : Int)
  | failFactory
  | takeAnchor
  | publish
  -- The initial task.
  | beginInitial
  | handshake
  | attachObserver
  | attachConnection
  | setup
  | pollInitial
  | endInitial (outcome : Outcome)
  -- A reinitialization.
  | lookup (abi : Abi)
  | beginReinit
  | callReinit
  | takeFuture
  | retire
  | awaitRetired
  | construct
  | awaitConstructed
  | pollReinit
  | endReinit (code : Int)
  -- The worker.
  | beginWorker
  | runFinish
  | serve (operation : ReinitOperation)
  | parseReinit
  | callSetup
  | served (failed : Bool) (code : Int)
  | settleExecution
  | join
  | readRetired (settled : Bool)
  | disposeSetup (left : List Capture)
  | takeFinish (settled failed : Bool)
  | finishReturns (failed : Bool)
  | releaseResources (left : List Resource)
  | countOwners
  | finalCheck (completed : TerminalCompletion) (released : Bool)
  | finalize (completed : TerminalCompletion) (failed : Bool)
  -- The owners and the end that the host asks for.
  | takeOwner (panicking : Bool)
  | dropOwner
  | awaitCompletion
  | judge (completion : TerminalCompletion)
  | returned (code : Int)
  deriving DecidableEq

abbrev Program := List Action

/-- `signal`. -/
def signal (reason : TerminalReason) : Program := [.commit reason, .runRequest, .schedule]

/-- `source_panic`. -/
def sourcePanic : Program := [.commit .fault, .retainUncertain, .runRequest, .schedule]

/-- `caught_panic`. -/
def caughtPanic : Program := .retainUncertain :: signal .fault

def LiveUse.continues : LiveUse → Program
  | .view => []
  | .startup => [.attachSetup]
  | .initialSetup => [.setup]
  | .initialReady => [.endInitial .ok]
  | .reinit => [.beginReinit]
  | .reinitCallback => [.takeFuture]
  | .reinitRetired => [.construct]
  | .construct => [.parseReinit]
  | .constructed => [.callSetup]
  | .reinitDone => [.endReinit TB_OK]

def LiveUse.otherwise : LiveUse → Program
  | .view => []
  | .startup => [.factoryEnds TB_CLOSED]
  | .initialSetup => [.endInitial .ok]
  | .initialReady => [.endInitial .ok]
  | .reinit => [.returned TB_CLOSED]
  | .reinitCallback => [.endReinit TB_CLOSED]
  | .reinitRetired => [.endReinit TB_CLOSED]
  | .construct => [.served false TB_CLOSED]
  | .constructed => [.served false TB_CLOSED]
  | .reinitDone => [.endReinit TB_CLOSED]

def captures : List Capture := [.initialFuture, .reinit, .request, .reinitFuture]

def resources : List Resource :=
  [.setup, .retainedFactory, .config, .reinitializerFactory, .connection, .inbound, .transport,
    .runtime]

/-- What the worker does with the answer of the finish hook. -/
def afterFinish (completed : TerminalCompletion) (disposalFailed : Bool) : Program :=
  if completed = .physicallyStopped && !disposalFailed then [.releaseResources resources]
  else [.observeHost, .finalCheck completed false]

def hostReason (flags : Option Nat) : TerminalReason :=
  if flags.any (fun flags => flags &&& TB_NATIVE_TERMINAL_FAULT ≠ 0) then .fault
  else if flags.any (fun flags => flags &&& TB_NATIVE_TERMINAL_STOP_INTENT ≠ 0) then .stop
  else .hostClosed

namespace Shared

def isTerminal (shared : Shared) : Bool := shared.reason ≠ 0

def hasFault (shared : Shared) : Bool := 3 ≤ shared.reason

/-! ### Signals and the request hook -/

/-- The loop of exchanges comes down to one access. -/
def commit (shared : Shared) (reason : TerminalReason) : Shared :=
  { shared with
    reason := if shared.reason = 0 || (shared.reason < 3 && 3 ≤ reason.code) then reason.code
      else shared.reason
    committed := shared.committed ++ [reason] }

def recordUncertain (shared : Shared) : Shared :=
  { shared with
    uncertain := true
    completion := if shared.completion = some .physicallyStopped then some .uncertain
      else shared.completion
    anchor := true }

/-- The section of `run_request` in front of the call. -/
def runRequest (shared : Shared) : Shared × Program :=
  if !shared.isTerminal || shared.requestState ≠ .idle then (shared, [])
  else ({ shared with requestState := .running }, [.callRequest shared.request])

def callRequest (shared : Shared) (hook : Bool) : Shared × Program :=
  if hook then
    ({ shared with requests := shared.requests ++ [.ofCode shared.reason] }, [.requestReturns])
  else ({ shared with requestState := .done }, [])

def requestPanicked (shared : Shared) : Shared :=
  { shared.recordUncertain with requestState := .panicked }

def schedule (shared : Shared) : Shared × Program :=
  if shared.finishState ≠ .idle then (shared, [])
  else ({ shared with finishState := .submitted }, [.spawn])

def spawned (shared : Shared) (started : Bool) : Shared × Program :=
  if started then ({ shared with workers := shared.workers + 1 }, [])
  else
    ({ shared.recordUncertain with
        finishState := .spawnFailed, completion := some .uncertain },
      [.commit .fault, .runRequest])

/-- What `register` and `publish` do once their section is over. -/
def ifTerminal (shared : Shared) : Program :=
  if shared.isTerminal then [.runRequest, .schedule] else []

def observeHost (flags : Option Nat) : Program :=
  if flags = some TB_NATIVE_TERMINAL_LIVE then [] else signal (hostReason flags)

def isLive (shared : Shared) (use : LiveUse) : Program :=
  if shared.isTerminal then use.otherwise else [.observeHost, .stillLive use]

def stillLive (shared : Shared) (use : LiveUse) : Program :=
  if shared.isTerminal then use.otherwise else use.continues

/-! ### The factory call -/

def register (shared : Shared) : Shared :=
  { shared with request := true, finish := true, requestState := .idle }

def attachOwner (shared : Shared) : Shared :=
  { shared with sdkOwners := shared.sdkOwners + 1, owners := shared.owners + 1 }

def factoryEnds (shared : Shared) (code : Int) : Program :=
  if code = TB_BAD_ARGUMENT && !shared.config then [.commit .setupFailed, .takeAnchor]
  else if code ≠ TB_OK then [.failFactory]
  else [.publish]

def failFactory (shared : Shared) : Program :=
  (if shared.isTerminal then [] else signal .setupFailed) ++ [.publish]

/-! ### A reinitialization -/

def beginReinit (shared : Shared) : Shared × Program :=
  if shared.isTerminal || shared.activeReinit then (shared, [.returned TB_CLOSED])
  else ({ shared with activeReinit := true }, [.callReinit])

def takeFuture (shared : Shared) : Shared × Program :=
  if !shared.connection then (shared, [.endReinit TB_CLOSED])
  else if shared.reinitFuture then ({ shared with reinitFuture := false }, [.retire])
  else (shared, [.isLive .reinitRetired])

def submit (shared : Shared) (operation : ReinitOperation) : Shared :=
  { shared with reinitOperation := some operation, priorPending := true }

def acknowledged (shared : Shared) : Bool :=
  !shared.priorPending || shared.finishState = .spawnFailed

def awaitRetired (shared : Shared) : Option (Shared × Program) :=
  if !shared.acknowledged then none
  else if shared.retirementFailed || shared.finishState = .spawnFailed then
    some (shared, [.endReinit TB_CLOSED])
  else some (shared, [.isLive .reinitRetired])

def awaitConstructed (shared : Shared) : Option (Shared × Program) :=
  if !shared.acknowledged then none
  else
    let code := if shared.finishState = .spawnFailed then TB_CLOSED else shared.constructionCode
    some (shared, if code ≠ TB_OK then [.endReinit code] else [.pollReinit])

/-! ### The worker -/

/-- The loop of `run_finish`: an operation comes before the end of a reinitialization. -/
def runFinish (shared : Shared) : Option (Shared × Program) :=
  match shared.reinitOperation with
  | some operation => some ({ shared with reinitOperation := none }, [.serve operation])
  | none =>
      if shared.published && !shared.activeReinit &&
          shared.requestState ≠ .idle && shared.requestState ≠ .running then
        some ({ shared with finishState := .running }, [.settleExecution])
      else none

def served (shared : Shared) (failed : Bool) (code : Int) : Shared :=
  { shared with
    retirementFailed := shared.retirementFailed || failed
    constructionCode := code
    priorPending := false }

/-- The handle of the task goes back where there is no runtime to wait on. -/
def settleExecution (shared : Shared) : Shared × Program :=
  if !shared.initial then (shared, [.readRetired true])
  else if !shared.runtime then ({ shared with aborted := true }, [.readRetired false])
  else ({ shared with initial := false, aborted := true }, [.join])

def join (shared : Shared) : Option (Shared × Program) :=
  match shared.initialTask with
  | .ended .ok => some (shared, [.readRetired true])
  | .ended .error => some (shared, signal .setupFailed ++ [.readRetired true])
  | .ended .cancelled => some (shared, [.readRetired true])
  | .ended .panicked => some (shared, sourcePanic ++ [.readRetired true])
  | _ => none

def readRetired (shared : Shared) (settled : Bool) : Program :=
  if settled && !shared.retirementFailed then [.disposeSetup captures]
  else [.takeFinish settled shared.retirementFailed]

def takeCapture (shared : Shared) : Capture → Shared
  | .initialFuture => shared
  | .reinit => { shared with reinit := false }
  | .request => { shared with request := false }
  | .reinitFuture => { shared with reinitFuture := false }

def takeResource (shared : Shared) : Resource → Shared
  | .setup => { shared with setup := false }
  | .config => { shared with config := false }
  | .connection => { shared with connection := false }
  | .runtime => { shared with runtime := false }
  | _ => shared

/-- Where the execution is not settled, the hook is put back.  Hooks that were never
registered have nothing to confirm. -/
def takeFinish (shared : Shared) (settled failed : Bool) : Shared × Program :=
  if !settled then (shared, afterFinish .uncertain failed)
  else if shared.finish then
    ({ shared with finish := false, finishes := shared.finishes + 1 }, [.finishReturns failed])
  else (shared, afterFinish .physicallyStopped failed)

def finalCheck (shared : Shared) (completed : TerminalCompletion) (released : Bool) :
    Shared × Program :=
  ({ shared with checked := some shared.hasFault },
    [.finalize completed (!released || shared.hasFault && shared.vtablePublished)])

def complete (shared : Shared) (completed : TerminalCompletion) : Shared :=
  let completion := if shared.uncertain then .uncertain else completed
  { shared with
    anchor := if completion = .physicallyStopped then false else shared.anchor
    finishState := .complete
    completion := some completion }

def finalize (shared : Shared) (completed : TerminalCompletion) (failed : Bool) : Shared :=
  (if failed then shared.recordUncertain else shared).complete completed

/-! ### The owners and the end that the host asks for -/

def takeOwner (shared : Shared) (panicking : Bool) : Option (Shared × Program) :=
  if shared.owners = 0 then none
  else
    some ({ shared with owners := shared.owners - 1 },
      (if panicking then caughtPanic else []) ++ [.dropOwner])

def lookup (shared : Shared) (abi : Abi) : Program :=
  match shared.anchor, abi with
  | false, _ => [.returned TB_CLOSED]
  | true, .shutdown => .observeHost :: signal .stop ++ [.awaitCompletion]
  | true, .reinit => [.isLive .reinit]

def judge (shared : Shared) (completion : TerminalCompletion) : Shared × Program :=
  let code := if completion ≠ .physicallyStopped || shared.hasFault then TB_PANICKED else TB_OK
  ({ shared with judged := shared.judged ++ [⟨completion, shared.reason, code⟩] },
    if code = TB_OK then [.returned TB_OK] else [.retainUncertain, .returned code])

end Shared

/-! ### Tasks -/

/-- What runs on a thread of its own.  `isLive` is asked by a view of the instance and by
a delivery; `dropOwner` is the end of a transport, a connection or a task. -/
inductive Call where
  | startTerminalFactory
  | initial
  | worker
  | shutdown
  | reinit
  | isLive
  | requestFault
  | caughtPanic
  | dropOwner (panicking : Bool)
  deriving DecidableEq

def program : Call → Program
  | .startTerminalFactory => [.beginFactory]
  | .initial => [.beginInitial]
  | .worker => [.beginWorker]
  | .shutdown => [.lookup .shutdown]
  | .reinit => [.lookup .reinit]
  | .isLive => [.isLive .view]
  | .requestFault => signal .fault
  | .caughtPanic => caughtPanic
  | .dropOwner panicking => [.takeOwner panicking]

/-- How foreign code and the threads around a step behave. -/
inductive Choice where
  | proceed
  | failed
  | panicked
  | cancelled
  | notified
  | unwound
  | timeout
  | spawned (started : Bool)
  | native (flags : Option Nat)
  | completed (completion : TerminalCompletion)
  deriving DecidableEq

def Action.unwinds : Action → Bool
  | .parseConfig => true
  | .factory => true
  | .attachSetup => true
  | .buildRuntime => true
  | .attachTransport => true
  | .attachReinit => true
  | .spawnInitial => true
  | .markVtablePublished => true
  | _ => false

/-! What the actions of each thread do under a choice, and what comes in their place. -/

def actSignal (choice : Choice) (shared : Shared) (action : Action) :
    Option (Shared × Program) :=
  match action, choice with
  | .commit reason, .proceed => some (shared.commit reason, [])
  | .retainUncertain, .proceed => some (shared.recordUncertain, [])
  | .runRequest, .proceed => some shared.runRequest
  | .callRequest hook, .proceed => some (shared.callRequest hook)
  | .requestReturns, .proceed => some ({ shared with requestState := .done }, [])
  | .requestReturns, .panicked => some (shared, [.commit .fault, .requestPanicked])
  | .requestPanicked, .proceed => some (shared.requestPanicked, [])
  | .schedule, .proceed => some shared.schedule
  | .spawn, .spawned started => some (shared.spawned started)
  | .ifTerminal, .proceed => some (shared, shared.ifTerminal)
  | .observeHost, .native flags => some (shared, Shared.observeHost flags)
  | .isLive use, .proceed => some (shared, shared.isLive use)
  | .stillLive use, .proceed => some (shared, shared.stillLive use)
  | _, _ => none

def actFactory (choice : Choice) (shared : Shared) (action : Action) :
    Option (Shared × Program) :=
  match action, choice with
  | .beginFactory, .proceed =>
      if shared.factory then some ({ shared with factory := false }, [.parseConfig]) else none
  | .parseConfig, .proceed => some ({ shared with config := true }, [.factory])
  | .parseConfig, .failed => some (shared, [.factoryEnds TB_BAD_ARGUMENT])
  | .factory, .proceed => some (shared, [.register])
  | .factory, .failed => some (shared, signal .setupFailed ++ [.factoryEnds TB_CLOSED])
  | .register, .proceed => some (shared.register, [.ifTerminal, .isLive .startup])
  | .attachSetup, .proceed =>
      some ({ shared with config := false, setup := true }, [.buildRuntime])
  | .buildRuntime, .proceed => some ({ shared with runtime := true }, [.attachTransport])
  | .buildRuntime, .failed => some (shared, signal .setupFailed ++ [.factoryEnds TB_CLOSED])
  | .attachTransport, .proceed => some (shared.attachOwner, [.attachReinit])
  | .attachReinit, .proceed =>
      some ({ shared with reinit := true }, [.spawnInitial])
  | .spawnInitial, .proceed =>
      some ({ shared with initialTask := .ready, initial := true }, [.markVtablePublished])
  | .markVtablePublished, .proceed =>
      some ({ shared with vtablePublished := true }, [.factoryEnds TB_OK])
  | .factoryEnds code, .proceed => some (shared, shared.factoryEnds code)
  | .failFactory, .proceed => some (shared, shared.failFactory)
  | .takeAnchor, .proceed => some ({ shared with anchor := false }, [])
  | .publish, .proceed => some ({ shared with published := true }, [.ifTerminal])
  | action, .panicked =>
      if action.unwinds then some (shared, sourcePanic ++ [.factoryEnds TB_PANICKED]) else none
  | _, _ => none

def actInitial (choice : Choice) (shared : Shared) (action : Action) :
    Option (Shared × Program) :=
  match action, choice with
  | .beginInitial, .proceed =>
      if shared.initialTask = .ready then
        some ({ shared with initialTask := .running }, [.handshake])
      else none
  | .beginInitial, .cancelled =>
      if shared.initialTask = .ready && shared.aborted then
        some ({ shared with initialTask := .ended .cancelled }, [])
      else none
  | .handshake, .proceed => some (shared, [.attachObserver])
  | .handshake, .failed => some (shared, signal .setupFailed ++ [.endInitial .error])
  | .handshake, .panicked => some (shared, [.endInitial .panicked])
  | .handshake, .cancelled =>
      if shared.aborted then some (shared, [.endInitial .cancelled]) else none
  | .attachObserver, .proceed => some (shared.attachOwner, [.attachConnection])
  | .attachConnection, .proceed =>
      some ({ shared with connection := true }, [.isLive .initialSetup])
  | .setup, .proceed =>
      some ({ shared with setup := false },
        if shared.setup then [.pollInitial] else [.endInitial .error])
  | .setup, .panicked =>
      if shared.setup then
        some ({ shared with setup := false }, sourcePanic ++ [.endInitial .error])
      else none
  | .pollInitial, .proceed => some (shared, [.isLive .initialReady])
  | .pollInitial, .failed => some (shared, signal .setupFailed ++ [.endInitial .error])
  | .pollInitial, .panicked => some (shared, sourcePanic ++ [.endInitial .error])
  | .pollInitial, .cancelled =>
      if shared.aborted then some (shared, [.endInitial .cancelled]) else none
  | .endInitial outcome, .proceed => some ({ shared with initialTask := .ended outcome }, [])
  | _, _ => none

def actReinit (choice : Choice) (shared : Shared) (action : Action) :
    Option (Shared × Program) :=
  match action, choice with
  | .beginReinit, .proceed => some shared.beginReinit
  | .callReinit, .proceed =>
      some (shared,
        if shared.reinit then [.isLive .reinitCallback] else [.endReinit TB_CLOSED])
  | .takeFuture, .proceed => some shared.takeFuture
  | .retire, .proceed => some (shared.submit .retire, [.schedule, .awaitRetired])
  | .awaitRetired, .proceed => shared.awaitRetired
  | .construct, .proceed => some (shared.submit .construct, [.schedule, .awaitConstructed])
  | .awaitConstructed, .proceed => shared.awaitConstructed
  | .pollReinit, .proceed => some (shared, [.isLive .reinitDone])
  | .pollReinit, .failed => some (shared, signal .setupFailed ++ [.endReinit TB_CLOSED])
  | .pollReinit, .panicked => some (shared, sourcePanic ++ [.endReinit TB_CLOSED])
  | .pollReinit, .notified =>
      if shared.isTerminal then some (shared, [.endReinit TB_CLOSED]) else none
  | .pollReinit, .unwound => some (shared, sourcePanic ++ [.endReinit TB_PANICKED])
  | .endReinit code, .proceed => some ({ shared with activeReinit := false }, [.returned code])
  | _, _ => none

def actRunning (choice : Choice) (shared : Shared) (action : Action) :
    Option (Shared × Program) :=
  match action, choice with
  | .beginWorker, .proceed =>
      if shared.workers = 0 then none
      else some ({ shared with workers := shared.workers - 1 }, [.runFinish])
  | .runFinish, .proceed => shared.runFinish
  | .serve .retire, .proceed => some (shared, [.served false TB_OK])
  | .serve .retire, .panicked => some (shared, sourcePanic ++ [.served true TB_CLOSED])
  | .serve .construct, .proceed => some (shared, [.isLive .construct])
  | .parseReinit, .proceed => some ({ shared with config := true }, [.isLive .constructed])
  | .parseReinit, .failed => some (shared, [.served false TB_BAD_ARGUMENT])
  | .parseReinit, .panicked => some (shared, sourcePanic ++ [.served false TB_PANICKED])
  | .callSetup, .proceed =>
      some ({ shared with config := false, reinitFuture := true }, [.served false TB_OK])
  | .callSetup, .panicked =>
      some ({ shared with config := false }, sourcePanic ++ [.served false TB_PANICKED])
  | .served failed code, .proceed => some (shared.served failed code, [.runFinish])
  | .settleExecution, .proceed => some shared.settleExecution
  | .join, .proceed => shared.join
  | _, _ => none

def actFinishing (choice : Choice) (shared : Shared) (action : Action) :
    Option (Shared × Program) :=
  match action, choice with
  | .readRetired settled, .proceed => some (shared, shared.readRetired settled)
  | .disposeSetup [], .proceed =>
      some ({ shared with disposed := true }, [.takeFinish true false])
  | .disposeSetup (head :: rest), .proceed =>
      some (shared.takeCapture head, [.disposeSetup rest])
  | .disposeSetup (head :: _), .panicked =>
      some (shared.takeCapture head, sourcePanic ++ [.takeFinish true true])
  | .takeFinish settled failed, .proceed => some (shared.takeFinish settled failed)
  | .finishReturns failed, .completed completion =>
      some ({ shared with confirmed := some completion }, afterFinish completion failed)
  | .finishReturns failed, .panicked =>
      some (shared, sourcePanic ++ afterFinish .uncertain failed)
  | .releaseResources [], .proceed => some (shared, [.countOwners])
  | .releaseResources (head :: rest), .proceed =>
      some (shared.takeResource head, [.releaseResources rest])
  | .releaseResources (head :: _), .panicked =>
      some (shared.takeResource head,
        sourcePanic ++ [.observeHost, .finalCheck .physicallyStopped false])
  | .countOwners, .proceed =>
      some ({ shared with released := shared.sdkOwners = 0 },
        [.observeHost, .finalCheck .physicallyStopped (shared.sdkOwners = 0)])
  | .finalCheck completed released, .proceed => some (shared.finalCheck completed released)
  | .finalize completed failed, .proceed => some (shared.finalize completed failed, [])
  | _, _ => none

def actEnd (choice : Choice) (shared : Shared) (action : Action) : Option (Shared × Program) :=
  match action, choice with
  | .takeOwner panicking, .proceed => shared.takeOwner panicking
  | .dropOwner, .proceed => some ({ shared with sdkOwners := shared.sdkOwners - 1 }, [])
  | .lookup abi, .proceed => some (shared, shared.lookup abi)
  | .awaitCompletion, .proceed =>
      shared.completion.map (fun completion => (shared, [.observeHost, .judge completion]))
  | .awaitCompletion, .timeout =>
      some (shared, [.observeHost, .judge (shared.completion.getD .uncertain)])
  | .judge completion, .proceed => some (shared.judge completion)
  | _, _ => none

def act (_ : Nat) (choice : Choice) (shared : Shared) (action : Action) :
    Option (Shared × Program) :=
  (actSignal choice shared action).or <| (actFactory choice shared action).or <|
    (actInitial choice shared action).or <| (actReinit choice shared action).or <|
      (actRunning choice shared action).or <| (actFinishing choice shared action).or <|
        actEnd choice shared action

def kind : Tasks.Kind Shared Program Call Choice Empty := Programs.kind program act

def admitted : Shared :=
  { reason := 0, uncertain := false, vtablePublished := false, sdkOwners := 0, anchor := true,
    request := false, finish := false, requestState := .unregistered, finishState := .idle,
    published := false, completion := none, activeReinit := false, reinitOperation := none,
    constructionCode := TB_CLOSED, priorPending := false, retirementFailed := false,
    config := false, setup := false, runtime := false, connection := false,
    reinit := false, reinitFuture := false, initial := false, factory := true, owners := 0,
    initialTask := .absent, aborted := false, workers := 0, committed := [], requests := [],
    finishes := 0, confirmed := none, disposed := false, released := false, checked := none,
    judged := [] }

def system : TransitionSystem.System (Tasks Shared Program) (Tasks.Event Call Choice Empty) :=
  Programs.system program act (· = admitted)

end TerminalState

end TinyBus
