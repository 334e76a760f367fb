import TinyBus.Framing
import TinyBus.ModuleHost
import TinyBus.Library.Tasks

/-
The host's side of one loaded module: what its senders, its drainer, its physical
worker and the host's own operations share, and the actions these are made of.

An action is a section under one lock or one access to an atomic.  The flags never
go back, and so a look at several of them is one action; the two writes of a
terminal cause are one too, since no reader tells them apart.
-/

namespace TinyBus

namespace ModuleTransport

def HOST_QUEUE_CAPACITY : Nat := 256

def TB_OK : Int := 0

def TB_BACKPRESSURE : Int := -1

def TB_CLOSED : Int := -2

def TB_PANICKED : Int := -3

def TB_TIMEOUT : Int := -4

def TB_BAD_ARGUMENT : Int := -5

/-- The size of a vtable of the first version, without the tail field. -/
def TB_MODULE_VTABLE_BASE_SIZE : Nat := 32

def moduleVtableSize : Nat := 40

def MODULE_INIT_DEADLINE_MS : Nat := 5000

/-- What the host checks of the vtable that a module fills. -/
structure Vtable where
  size : Nat
  hasContext : Bool
  reinit : Bool

def Vtable.incomplete (module : Vtable) : Bool :=
  decide (module.size < TB_MODULE_VTABLE_BASE_SIZE) || !module.hasContext ||
    decide (moduleVtableSize ≤ module.size) && !module.reinit

inductive InitState where
  | deferred
  | scheduled
  | entered
  | publishedValid
  | publishedRejected
  | canceledBeforeEntry
  | externalValid
  deriving DecidableEq

inductive CleanupState where
  | idle
  | requested
  | executing
  | complete
  | uncertain
  | noCallbackRequired
  deriving DecidableEq

inductive InitFailure where
  | closed
  | failed (reason : String)

inductive AdmissionTermination where
  | failed
  | canceled

structure NativeTerminal where
  live : Bool
  stopIntent : Bool
  fault : Bool
  physicallyStopped : Bool
  deriving DecidableEq

/-- The reservations of running callbacks, and whether new ones are refused. -/
structure CallbackGate where
  closed : Bool
  active : Nat

/-- A physical job that was submitted, with what its worker takes from it. -/
structure Job where
  initializer : Bool
  guard : Bool
  faultOnSpawnFailure : Bool

/-- A message with the number of the send that brought it. -/
structure Entry where
  id : Nat
  message : Message

/-- A frame on its way to the host: a reply that the host wrote itself to a send, or
one from the module, which may not parse. -/
inductive Incoming where
  | answer (id : Nat)
  | frame (message : Except String Message)

def Incoming.refunds : Incoming → Bool
  | .answer _ => true
  | .frame (.ok message) =>
      message.header.kind = .methodReturn || message.header.kind = .error
  | .frame (.error _) => false

/-- The calls into the module that its lifecycle is made of. -/
inductive NativeCall where
  | init
  | published
  | reinit
  | shutdown
  deriving DecidableEq

/-- What the tasks of one transport share.  The initializer is a deferred one, or one
that the load runs itself.  The last fields record what happened, and no action
reads them. -/
structure Shared where
  label : String
  config : Bytes
  controller : Option BusName
  controllerLive : Bool
  preReadyConfidentialRoutes : List (ObjectPath × InterfaceName × MemberName)
  brokerRouting : Bool
  native : NativeTerminal
  faulted : Bool
  initFailed : Bool
  stopped : Bool
  admissionClosed : Bool
  initStarted : Bool
  ready : Bool
  init : InitState
  cleanup : CleanupState
  job : Bool
  result : Option (Except InitFailure Unit)
  code : Option Int
  gate : Option Bool
  initializer : Bool
  eagerInitializer : Bool
  workers : List Job
  locked : Bool
  lifecyclePending : Bool
  stopTaskSpawned : Bool
  module : Option Vtable
  callbacks : CallbackGate
  hostCallbacks : Bool
  hostCallbacksDrained : Bool
  pending : List Entry
  drainStarted : Bool
  drainers : Nat
  inbound : Bool
  channel : List Incoming
  inflight : UInt64
  calls : List NativeCall
  sent : List Entry
  offered : List Nat
  delivered : List Nat
  discarded : List Nat
  received : List Incoming

/-- What an initialization is awaited for. -/
inductive InitUse where
  | send (message : Message)
  | host
  | reinit (config : Bytes)

/-- A message on its way into the module, for its sender or from the queue. -/
structure Delivery where
  id : Nat
  message : Message
  requiredController : Option BusName
  queued : Bool

inductive Action where
  -- A send, up to the delivery of its message.
  | arrive (message : Message)
  | gate (use : InitUse)
  | schedule (use : InitUse)
  | await (use : InitUse) (initiating : Bool)
  | fail (use : InitUse) (error : Error)
  | answerFailed (message : Message)
  | authorize (message : Message)
  | enqueue (message : Message) (bypass : Option BusName)
  | returned (result : Except Error Unit)
  | canceled
  -- A delivery.
  | frame (delivery : Delivery)
  | check (delivery : Delivery)
  | enter (delivery : Delivery)
  | permit (delivery : Delivery)
  | delivering (delivery : Delivery)
  | backpressure (delivery : Delivery)
  | stalled (delivery : Delivery)
  | expire (delivery : Delivery)
  | undelivered (delivery : Delivery) (error : Error)
  -- The drainer.
  | takeDrain
  | waitReady
  | drain
  | pop
  | recheck
  | finishDrain
  | endDrain
  | faultPending (failed : Entry) (error : Error)
  | clone (failed : List Entry)
  | answer (failed : List Entry)
  -- The end of a transport.
  | publish (fault : Bool)
  | close
  | anchor (fault : Bool)
  | submit (job : Job)
  | unsure
  | abandon
  | terminate (cause : AdmissionTermination) (request : Bool)
  | forget
  | clearConfig
  | finishStop
  | takeInbound
  -- A physical worker.
  | takeJob
  | lockInit
  | enterInit
  | initReturns
  | publishInit (result : Except InitFailure Unit)
  | awaitInit (guard : Bool)
  | drainCallbacks (guard : Bool)
  | awaitCallbacks
  | lockCleanup
  | beginCleanup
  | beginPending
  | stopSync
  | closeSync
  | awaitDrained
  | shutdownReturns
  | endPending
  | publishCleanup (code : Option Int)
  | release
  -- A reinitialization.
  | reinit (config : Bytes)
  | lockReinit (config : Bytes)
  | replaceConfig (config : Bytes)
  | replaced
  | lookModule (config : Bytes)
  | relock (config : Bytes)
  | recheckModule (config : Bytes)
  | lookReady (config : Bytes)
  | awaitReady (config : Bytes)
  | relockReady (config : Bytes)
  | recheckReady (config : Bytes)
  | callReinit (config : Bytes)
  | reinitReturns
  -- A stop.
  | stop
  | lockStop
  | recheckStop
  | handOff
  | awaitStop (ordinary : Bool)
  | stopReturned (outcome : StopOutcome)
  -- An eager initialization.
  | tryLock
  | eagerUnavailable
  | enterEager
  | eagerReturns
  | publishEager (result : Except Error Unit)
  | eagerEnd
  -- The module and the host around it.
  | hostReady
  | hostSend (message : Except String Message)
  | pushInbound (message : Except String Message)
  | recv
  | releaseInitialization (allowed : Bool)
  | pauseInitialization

abbrev Program := List Action

/-- What the surroundings decide at an action that waits or calls out.  The deadline
of a caller further out ends an operation as a cancellation does. -/
inductive Choice where
  | proceed
  | timeout
  | cancel
  | spawned (started : Bool)
  | returned (code : Int)
  | initialized (outcome : Except String Vtable)
  | panicked

/-- The operations that start a task. -/
inductive Call where
  | send (message : Message)
  | ensureInitialized
  | reinit (config : Bytes)
  | stop
  | requestTerminal (fault : Bool)
  | commitTerminal (fault : Bool)
  | commitAdmissionTermination (cause : AdmissionTermination)
  | releaseInitialization (allowed : Bool)
  | pauseInitialization
  | eagerInit
  | drainPending
  | physicalWorker
  | hostFault
  | hostReady
  | hostSend (message : Except String Message)
  | recv

/-- What happens around the tasks. -/
inductive Outside where
  | admitBroker
  | controllerLost
  | bindHostCallbacks
  | hostCallbacksDrained

end ModuleTransport

end TinyBus
