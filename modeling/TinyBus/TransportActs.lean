import TinyBus.Transport

/-
What the actions of a transport do.  An action gives what its operation goes on with,
in front of what the operation has still to do in any case.
-/

namespace TinyBus

namespace ModuleTransport

/-- `request_terminal`. -/
def requestTerminal (fault : Bool) : Program := [.publish fault, .close, .anchor fault]

namespace Shared

def ended (shared : Shared) : Bool := shared.faulted || shared.admissionClosed

def isReady (shared : Shared) : Bool :=
  shared.ready && !shared.faulted && !shared.stopped

def nativeLive (shared : Shared) : Bool :=
  shared.native.live && !shared.native.stopIntent && !shared.native.fault &&
    !shared.native.physicallyStopped

/-! ### The end of a transport -/

def publishTerminalFlags (shared : Shared) (fault : Bool) : Shared :=
  { shared with
    faulted := shared.faulted || fault
    native := { shared.native with
      live := false, stopIntent := true, fault := shared.native.fault || fault } }

def closeAdmission (shared : Shared) : Shared :=
  { shared with
    callbacks := { shared.callbacks with closed := true }
    admissionClosed := true
    pending := []
    discarded := shared.discarded ++ shared.pending.map Entry.id }

/-- The section of `request_terminal` under the lock of the physical state. -/
def anchor (shared : Shared) (fault : Bool) : Shared × Program :=
  let cleanup := if shared.cleanup = .idle then .requested else shared.cleanup
  if shared.job || cleanup ≠ .requested then ({ shared with cleanup := cleanup }, [])
  else if shared.init = .deferred then
    ({ shared with
        init := .canceledBeforeEntry
        cleanup := .noCallbackRequired
        result := some (.error .closed) },
      [.forget, .finishStop, .takeInbound])
  else
    ({ shared with cleanup := cleanup, job := true }, [.submit ⟨false, false, fault⟩])

/-- A submission is spent even when the worker cannot start: what it was given stays
with the job that nobody runs. -/
def submitJob (shared : Shared) (job : Job) (started : Bool) : Shared × Program :=
  if started then ({ shared with workers := shared.workers ++ [job] }, [])
  else (shared, [.publish job.faultOnSpawnFailure, .close, .unsure])

def unsure (shared : Shared) : Shared :=
  { shared with
    cleanup := .uncertain
    result := some (shared.result.getD
      (.error (.failed "module physical worker could not start"))) }

def abandonInitialization (shared : Shared) : Shared × Program :=
  if shared.result.isSome || !shared.nativeLive then (shared, [])
  else
    ({ shared.publishTerminalFlags true with
        cleanup := if shared.cleanup = .idle then .requested else shared.cleanup },
      requestTerminal true)

def terminationFault (shared : Shared) : AdmissionTermination → Bool
  | .failed => true
  | .canceled => !shared.native.stopIntent || shared.native.fault

/-! ### A send up to the delivery of its message -/

def passGate (shared : Shared) (use : InitUse) : Option (Shared × Program) :=
  if shared.ended then some (shared, [.fail use .connectionClosed])
  else
    match shared.gate with
    | some true => some (shared, [.schedule use])
    | some false =>
        some (shared, [.fail use (.transport "module callback admission failed")])
    | none => none

def scheduleInitializer (shared : Shared) (use : InitUse) : Shared × Program :=
  if shared.gate ≠ some true || shared.ended then
    (shared, [.fail use .connectionClosed])
  else if shared.result.isSome || shared.init ≠ .deferred then
    (shared, [.await use false])
  else if shared.initializer then
    ({ shared with
        initializer := false, init := .scheduled, job := true, initStarted := true },
      [.submit ⟨true, false, true⟩, .await use true])
  else
    ({ shared with result := some (.error (.failed "module has no initializer")) },
      [.await use false])

/-- What follows an initialization that is there. -/
def initialized : InitUse → Program
  | .send message => [.authorize message]
  | .host => [.returned (.ok ())]
  | .reinit config => [.relock config]

def awaitResult (shared : Shared) (use : InitUse) : Option (Shared × Program) :=
  match shared.result with
  | none => none
  | some (.ok ()) =>
      some (shared, if shared.ended then [.fail use .connectionClosed] else initialized use)
  | some (.error .closed) => some (shared, [.fail use .connectionClosed])
  | some (.error (.failed reason)) => some (shared, [.fail use (.transport reason)])

/-- The wait of the initializing task ends before there is a result. -/
def giveUp (initiating : Bool) (rest : Program) : Program :=
  if initiating then .abandon :: rest else rest

def failInitialization (shared : Shared) (use : InitUse) (error : Error) :
    Shared × Program :=
  match use with
  | .send message =>
      if shared.admissionClosed && error = .connectionClosed then
        (shared, [.returned (.error .connectionClosed)])
      else
        ({ shared.publishTerminalFlags true with initFailed := true },
          if message.header.kind = .methodCall then
            .answerFailed message :: requestTerminal true ++ [.returned (.ok ())]
          else requestTerminal true ++ [.returned (.error .connectionClosed)])
  | .host => (shared, [.returned (.error error)])
  | .reinit _ => (shared, [.returned (.error error)])

def moduleUnavailable (shared : Shared) (state detail : String) : Error :=
  .moduleUnavailable shared.label state detail

def canAnswer (shared : Shared) (toVec : Message → Except String Bytes) (entry : Entry)
    (error : Error) : Bool :=
  match toVec (Message.errorReply entry.message.header error) with
  | .error _ => false
  | .ok _ => shared.channel.length < HOST_QUEUE_CAPACITY

def tryAnswer (shared : Shared) (toVec : Message → Except String Bytes) (entry : Entry)
    (error : Error) : Shared :=
  if shared.canAnswer toVec entry error then
    { shared with channel := shared.channel ++ [.answer entry.id] }
  else shared

def initializationFailed (shared : Shared) : Error :=
  shared.moduleUnavailable "failed" "module initialization failed"

def stoppedAccepting (shared : Shared) : Error :=
  shared.moduleUnavailable "faulted" "module stopped accepting calls"

/-- The sender of the channel is taken for an answer that can be written, and dropped
with it. -/
def answerFailed (shared : Shared) (toVec : Message → Except String Bytes)
    (entry : Entry) : Shared :=
  match toVec (Message.errorReply entry.message.header shared.initializationFailed) with
  | .error _ => shared
  | .ok _ =>
      if shared.inbound then
        { shared.tryAnswer toVec entry shared.initializationFailed with inbound := false }
      else shared

def isCall (message : Message) : Bool := message.header.kind = .methodCall

/-- A confidential call of the controller that the module may answer before READY. -/
def authorizedPreReadyPeer (shared : Shared) (message : Message) : Option BusName :=
  if !isCall message || !message.header.confidential then none
  else if shared.ready || !shared.initStarted || shared.admissionClosed || shared.faulted ||
      shared.initFailed || shared.stopped || !shared.brokerRouting || !shared.nativeLive then
    none
  else
    match shared.controller with
    | none => none
    | some peer =>
        if message.header.sender ≠ some peer || !shared.controllerLive then none
        else if shared.preReadyConfidentialRoutes.any (fun route =>
            message.header.path = some route.1 && message.header.interface = some route.2.1 &&
              message.header.member = some route.2.2) then some peer
        else none

def enqueue (shared : Shared) (self : Nat) (message : Message) (bypass : Option BusName) :
    Shared × Program :=
  if shared.admissionClosed then (shared, [.returned (.error .connectionClosed)])
  else
    let counted := if isCall message then { shared with inflight := shared.inflight + 1 }
      else shared
    if isCall message && !shared.isReady && bypass.isNone then
      ({ counted with
          pending := shared.pending ++ [⟨self, message⟩]
          drainStarted := true
          drainers := if shared.drainStarted then shared.drainers else shared.drainers + 1 },
        [.returned (.ok ())])
    else (counted, [.frame ⟨self, message, bypass, false⟩])

/-! ### A delivery -/

def frameOf (toVec : Message → Except String Bytes) (delivery : Delivery) : Program :=
  match toVec delivery.message with
  | .error detail => [.undelivered delivery (.json detail)]
  | .ok bytes =>
      if MAX_FRAME_LEN < bytes.length then
        [.undelivered delivery (.protocol "module frame exceeds the size cap")]
      else [.check delivery]

def enterCallback (shared : Shared) (delivery : Delivery) : Shared × Program :=
  if shared.module.isNone || shared.callbacks.closed then
    (shared, [.undelivered delivery .connectionClosed])
  else
    ({ shared with callbacks := { shared.callbacks with active := shared.callbacks.active + 1 } },
      [.permit delivery])

def leaveCallback (shared : Shared) : Shared :=
  { shared with callbacks := { shared.callbacks with active := shared.callbacks.active - 1 } }

def permit (shared : Shared) (delivery : Delivery) : Shared × Program :=
  if delivery.requiredController.any (fun required =>
      shared.controller ≠ some required || !shared.controllerLive) then
    (shared.leaveCallback, [.undelivered delivery .connectionClosed])
  else ({ shared with offered := shared.offered ++ [delivery.id] }, [.delivering delivery])

def afterDelivery (delivery : Delivery) : Program :=
  if delivery.queued then [.drain] else [.returned (.ok ())]

def deliveryReturned (shared : Shared) (delivery : Delivery) (code : Int) :
    Shared × Program :=
  let left := shared.leaveCallback
  if code = TB_OK then
    ({ left with delivered := shared.delivered ++ [delivery.id] }, afterDelivery delivery)
  else if code = TB_BACKPRESSURE then (left, [.backpressure delivery])
  else if code = TB_CLOSED then (left, [.undelivered delivery .connectionClosed])
  else if code = TB_BAD_ARGUMENT then
    (left, [.undelivered delivery (.protocol "module refused a valid frame")])
  else (left, [.undelivered delivery (.transport "module delivery callback failed")])

def expire (shared : Shared) (delivery : Delivery) : Shared × Program :=
  if shared.admissionClosed then (shared, [.undelivered delivery .connectionClosed])
  else
    (shared.publishTerminalFlags true,
      requestTerminal true ++ [.takeInbound, .undelivered delivery
        (.transport "module stopped draining its queue within the deadline")])

def undelivered (shared : Shared) (delivery : Delivery) (error : Error) :
    Shared × Program :=
  if delivery.queued then
    (shared, [.faultPending ⟨delivery.id, delivery.message⟩ error])
  else
    (if isCall delivery.message then { shared with inflight := shared.inflight - 1 }
      else shared, [.returned (.error error)])

/-! ### The drainer -/

def pop (shared : Shared) : Shared × Program :=
  match shared.pending with
  | [] => (shared, [.recheck])
  | head :: rest =>
      ({ shared with pending := rest }, [.frame ⟨head.id, head.message, none, true⟩])

/-- The flag is cleared under the lock of the queue, so that a send that finds it set
may rely on this drainer. -/
def finishDrain (shared : Shared) : Shared × Program :=
  match shared.pending with
  | [] => ({ shared with drainStarted := false }, [])
  | _ :: _ => (shared, [.drain])

def faultPending (shared : Shared) (failed : Entry) (error : Error) : Shared × Program :=
  if shared.admissionClosed && error = .connectionClosed then
    ({ shared with
        pending := []
        discarded := shared.discarded ++ (shared.pending ++ [failed]).map Entry.id },
      [.endDrain])
  else
    ({ shared.publishTerminalFlags true with pending := [] },
      [.clone (shared.pending ++ [failed])])

/-- The rest of `fault_pending` once there is nothing left to answer. -/
def afterFault : Program := requestTerminal true ++ [.takeInbound, .endDrain]

def answerQueued (shared : Shared) (toVec : Message → Except String Bytes)
    (entry : Entry) : Shared :=
  if isCall entry.message then shared.tryAnswer toVec entry shared.stoppedAccepting
  else shared

def answerPending (shared : Shared) (toVec : Message → Except String Bytes)
    (failed : List Entry) : Shared × Program :=
  match failed with
  | [] => (shared, afterFault)
  | entry :: rest => (shared.answerQueued toVec entry, [.answer rest])

/-! ### A physical worker -/

def takeJob (shared : Shared) : Option (Shared × Program) :=
  match shared.workers with
  | [] => none
  | job :: rest =>
      some ({ shared with workers := rest },
        if job.initializer then [.lockInit] else [.awaitInit job.guard])

def cancelInit (shared : Shared) : Shared :=
  { shared with
    init := .canceledBeforeEntry
    cleanup := .noCallbackRequired
    result := some (.error .closed)
    code := some TB_CLOSED
    job := false }

def enterInit (shared : Shared) : Shared × Program :=
  if shared.ended then
    (shared.cancelInit, [.clearConfig, .finishStop, .takeInbound, .release])
  else
    ({ shared with init := .entered, calls := shared.calls ++ [.init] },
      [.initReturns])

/-- `initialize`, with the failure that an invalid vtable is told by. -/
def initReturned (shared : Shared) (outcome : Except String Vtable) : Shared × Program :=
  match outcome with
  | .ok module =>
      if module.incomplete then
        (shared, [.clearConfig, .publish true, .close,
          .publishInit (.error (.failed "module returned an invalid vtable"))])
      else ({ shared with module := some module }, [.clearConfig, .publishInit (.ok ())])
  | .error reason =>
      (shared, [.clearConfig, .publish true, .close, .publishInit (.error (.failed reason))])

def publishInit (shared : Shared) (result : Except InitFailure Unit) : Shared × Program :=
  match result with
  | .ok () =>
      ({ shared with
          init := .publishedValid
          result := some (shared.result.getD (.ok ()))
          job := shared.job && shared.cleanup ≠ .idle
          calls := shared.calls ++ [.published] },
        .release :: if shared.cleanup = .requested then [.drainCallbacks false] else [])
  | .error failure =>
      ({ shared with
          init := .publishedRejected
          result := some (shared.result.getD (.error failure))
          cleanup := .uncertain }, [.release])

/-- A user's callback may need the lifecycle of the module, and so the lock is given
back while they drain. -/
def drainCallbacks (shared : Shared) (guard : Bool) : Shared × Program :=
  (shared,
    match shared.hostCallbacks, guard with
    | true, true => [.release, .awaitCallbacks]
    | true, false => [.awaitCallbacks]
    | false, true => [.beginCleanup]
    | false, false => [.lockCleanup])

def beginCleanup (shared : Shared) : Shared × Program :=
  if shared.cleanup ≠ .requested then (shared, [.release])
  else if shared.init = .deferred || shared.init = .canceledBeforeEntry then
    (shared.cancelInit, [.forget, .finishStop, .takeInbound, .release])
  else if shared.module.isNone then ({ shared with cleanup := .uncertain }, [.release])
  else ({ shared with cleanup := .executing }, [.beginPending])

def stopSync (shared : Shared) : Shared × Program :=
  (shared,
    if shared.stopped then [.endPending, .publishCleanup (some TB_CLOSED)] else [.closeSync])

/-- Every reserved callback has returned. -/
def awaitDrained (shared : Shared) : Option (Shared × Program) :=
  if shared.callbacks.active ≠ 0 then none
  else if shared.module.isSome then
    some ({ shared with calls := shared.calls ++ [.shutdown] }, [.shutdownReturns])
  else
    some (shared,
      [.finishStop, .takeInbound, .endPending, .publishCleanup (some TB_CLOSED)])

def shutdownReturned (shared : Shared) (code : Int) : Shared × Program :=
  (if code = TB_OK then
      { shared with native := { shared.native with physicallyStopped := true } }
    else shared,
    [.finishStop, .takeInbound, .endPending, .publishCleanup (some code)])

def publishCleanup (shared : Shared) (code : Option Int) : Shared :=
  if code = some TB_OK then
    { shared with code := code, cleanup := .complete, job := false }
  else { shared with code := code, cleanup := .uncertain }

/-! ### A reinitialization -/

def lock (shared : Shared) (program : Program) : Option (Shared × Program) :=
  if shared.locked then none else some ({ shared with locked := true }, program)

def timedOut : Error :=
  .timeout ⟨"ReinitializeModule", by rfl⟩ MODULE_INIT_DEADLINE_MS

def replaceConfig (shared : Shared) (config : Bytes) : Shared × Program :=
  if shared.ended then (shared, [.release, .returned (.error .connectionClosed)])
  else if shared.init = .deferred && shared.cleanup = .idle && shared.initializer then
    ({ shared with config := config }, [.replaced])
  else (shared, [.lookModule config])

def replaced (shared : Shared) : Shared × Program :=
  (shared, [.release, .returned
    (if shared.ended then .error .connectionClosed else .ok ())])

def lookModule (shared : Shared) (config : Bytes) : Shared × Program :=
  (shared,
    if shared.module.isSome then [.lookReady config]
    else if shared.init = .scheduled || shared.init = .entered then
      [.release, .gate (.reinit config)]
    else [.release, .returned (.error (.transport "module is not initialized"))])

def recheckModule (shared : Shared) (config : Bytes) : Shared × Program :=
  (shared,
    if shared.ended then [.release, .returned (.error .connectionClosed)]
    else [.lookReady config])

def lookReady (shared : Shared) (config : Bytes) : Shared × Program :=
  (shared,
    if shared.isReady then [.callReinit config]
    else [.release, .awaitReady config])

def awaitReady (shared : Shared) (config : Bytes) : Option (Shared × Program) :=
  if shared.ready || shared.ended then
    some (shared,
      if shared.isReady then [.relockReady config]
      else [.returned (.error .connectionClosed)])
  else none

def recheckReady (shared : Shared) (config : Bytes) : Shared × Program :=
  (shared,
    if shared.ended || !shared.isReady then
      [.release, .returned (.error .connectionClosed)]
    else [.callReinit config])

/-- From here the caller only waits, and the task goes on as the one that calls. -/
def callReinit (shared : Shared) : Shared × Program :=
  match shared.module with
  | none =>
      (shared, [.release, .returned (.error (.transport "module is not initialized"))])
  | some module =>
      if module.size < moduleVtableSize || !module.reinit then
        (shared, [.release,
          .returned (.error (.failed "module does not support reinitialization"))])
      else
        ({ shared with
            lifecyclePending := true, calls := shared.calls ++ [.reinit] },
          [.reinitReturns])

def reinitialized (code : Int) : Except Error Unit :=
  if code = TB_OK then .ok ()
  else if code = TB_BAD_ARGUMENT then .error (.failed "module configuration is invalid")
  else if code = TB_PANICKED then .error (.failed "module reinitialization panicked")
  else if code = TB_TIMEOUT then .error timedOut
  else .error (.failed "module reinitialization failed")

/-! ### A stop -/

/-- The guard goes to the job of the shutdown, where this stop is the one to make it. -/
def handOff (shared : Shared) : Shared × Program :=
  let cleanup := if shared.cleanup = .idle then .requested else shared.cleanup
  let makes := !shared.job && cleanup = .requested
  let ordinary := !shared.faulted && cleanup = .requested &&
    (makes || shared.job && shared.init = .scheduled)
  ({ shared with
      cleanup := cleanup
      job := shared.job || makes
      stopTaskSpawned := shared.stopTaskSpawned || ordinary },
    (if makes then [.submit ⟨false, true, false⟩] else [.release]) ++ [.awaitStop ordinary])

def classify (ordinary : Bool) (error : Error) : StopOutcome :=
  if ordinary then .started error else .notStarted error

def awaitStop (shared : Shared) (ordinary : Bool) : Option (Shared × Program) :=
  match shared.cleanup with
  | .complete => some (shared, [.stopReturned .stopped])
  | .noCallbackRequired => some (shared, [.stopReturned .stopped])
  | .uncertain =>
      some (shared, [.stopReturned
        (if shared.code.isSome then .stopped
          else classify ordinary (.transport "module cleanup is uncertain"))])
  | _ => none

/-! ### An eager initialization -/

def tryLock (shared : Shared) : Option (Shared × Program) :=
  if !shared.eagerInitializer then none
  else if shared.locked then
    some ({ shared with eagerInitializer := false }, [.publish true, .close, .eagerUnavailable])
  else some ({ shared with eagerInitializer := false, locked := true }, [.enterEager])

def enterEager (shared : Shared) : Shared :=
  { shared with
    init := .entered, initStarted := true, calls := shared.calls ++ [.init] }

def eagerReturned (shared : Shared) (outcome : Except String Vtable) : Shared × Program :=
  match outcome with
  | .ok module =>
      if module.incomplete then
        (shared, [.clearConfig,
          .publishEager (.error (.transport "module returned an incomplete vtable"))])
      else ({ shared with module := some module }, [.clearConfig, .publishEager (.ok ())])
  | .error reason => (shared, [.clearConfig, .publishEager (.error (.transport reason))])

def publishEager (shared : Shared) (result : Except Error Unit) : Shared × Program :=
  match result with
  | .ok () =>
      ({ shared with
          init := .externalValid
          result := some (shared.result.getD (.ok ()))
          calls := shared.calls ++ [.published] }, [.release, .eagerEnd])
  | .error error =>
      ({ shared with
          init := .publishedRejected
          result := some (shared.result.getD
            (.error (.failed "module returned an invalid vtable")))
          cleanup := .uncertain
          job := true },
        .release :: requestTerminal true ++ [.returned (.error error)])

/-! ### The module and the host around it -/

def hostReady (shared : Shared) : Shared :=
  if shared.admissionClosed then shared else { shared with ready := true }

def pushInbound (shared : Shared) (message : Except String Message) :
    Option (Shared × Program) :=
  if shared.channel.length < HOST_QUEUE_CAPACITY then
    some ({ shared with channel := shared.channel ++ [.frame message] }, [])
  else none

def recv (shared : Shared) : Option (Shared × Program) :=
  match shared.channel with
  | [] => none
  | head :: rest =>
      some ({ shared with
        channel := rest
        received := shared.received ++ [head]
        inflight := if head.refunds && shared.inflight ≠ 0 then shared.inflight - 1
          else shared.inflight }, [])

end Shared

/-! ### Tasks -/

/-- The program of an operation. -/
def program : Call → Program
  | .send message => [.arrive message]
  | .ensureInitialized => [.gate .host]
  | .reinit config => [.reinit config]
  | .stop => [.stop]
  | .requestTerminal fault => requestTerminal fault
  | .commitTerminal fault => [.publish fault, .close]
  | .commitAdmissionTermination cause => [.terminate cause false]
  | .releaseInitialization allowed => [.releaseInitialization allowed]
  | .pauseInitialization => [.pauseInitialization]
  | .eagerInit => [.tryLock]
  | .drainPending => [.takeDrain]
  | .physicalWorker => [.takeJob]
  | .hostFault => [.publish true, .takeInbound] ++ requestTerminal true
  | .hostReady => [.hostReady]
  | .hostSend message => [.hostSend message]
  | .recv => [.recv]

variable (toVec : Message → Except String Bytes)

/-- What an action does under a choice, and what comes in its place. -/
def act (self : Nat) (shared : Shared) : Action → Choice → Option (Shared × Program)
  | .arrive message, .proceed =>
      if shared.admissionClosed then
        some ({ shared with sent := shared.sent ++ [⟨self, message⟩] },
          [.returned (.error .connectionClosed)])
      else
        some ({ shared with sent := shared.sent ++ [⟨self, message⟩] }, [.gate (.send message)])
  | .gate use, .proceed => shared.passGate use
  | .gate _, .cancel => some (shared, [.canceled])
  | .schedule use, .proceed => some (shared.scheduleInitializer use)
  | .await use _, .proceed => shared.awaitResult use
  | .await use initiating, .timeout =>
      if shared.result.isSome then none
      else some (shared, Shared.giveUp initiating
        [.fail use (.transport "module initialization exceeded its deadline")])
  | .await _ initiating, .cancel => some (shared, Shared.giveUp initiating [.canceled])
  | .fail use error, .proceed => some (shared.failInitialization use error)
  | .answerFailed message, .proceed =>
      some (shared.answerFailed toVec ⟨self, message⟩, [])
  | .authorize message, .proceed =>
      some (shared, [.enqueue message (shared.authorizedPreReadyPeer message)])
  | .enqueue message bypass, .proceed => some (shared.enqueue self message bypass)
  | .frame delivery, .proceed =>
      some (shared,
        if shared.ended then [.undelivered delivery .connectionClosed]
        else Shared.frameOf toVec delivery)
  | .check delivery, .proceed =>
      some (shared,
        if shared.ended then [.undelivered delivery .connectionClosed] else [.enter delivery])
  | .enter delivery, .proceed => some (shared.enterCallback delivery)
  | .permit delivery, .proceed => some (shared.permit delivery)
  | .delivering delivery, .returned code => some (shared.deliveryReturned delivery code)
  | .backpressure delivery, .proceed =>
      some (shared,
        if shared.admissionClosed then [.undelivered delivery .connectionClosed]
        else [.stalled delivery])
  | .stalled delivery, .proceed => some (shared, [.check delivery])
  | .stalled delivery, .timeout => some (shared, [.expire delivery])
  | .stalled delivery, .cancel =>
      if delivery.queued then none else some (shared, [.canceled])
  | .expire delivery, .proceed => some (shared.expire delivery)
  | .undelivered delivery error, .proceed => some (shared.undelivered delivery error)
  | .takeDrain, .proceed =>
      if shared.drainers = 0 then none
      else some ({ shared with drainers := shared.drainers - 1 }, [.waitReady])
  | .waitReady, .proceed =>
      if shared.ready || shared.ended then some (shared, [.drain]) else none
  | .drain, .proceed => some (shared, if shared.ended then [.endDrain] else [.pop])
  | .pop, .proceed => some shared.pop
  | .recheck, .proceed =>
      some (shared, if shared.ended then [.endDrain] else [.finishDrain])
  | .finishDrain, .proceed => some shared.finishDrain
  | .endDrain, .proceed => some ({ shared with drainStarted := false }, [])
  | .faultPending failed error, .proceed => some (shared.faultPending failed error)
  | .clone failed, .proceed =>
      some (shared, if shared.inbound then [.answer failed] else Shared.afterFault)
  | .answer failed, .proceed => some (shared.answerPending toVec failed)
  | .publish fault, .proceed => some (shared.publishTerminalFlags fault, [])
  | .close, .proceed => some (shared.closeAdmission, [])
  | .anchor fault, .proceed => some (shared.anchor fault)
  | .submit job, .spawned started => some (shared.submitJob job started)
  | .unsure, .proceed => some (shared.unsure, [])
  | .abandon, .proceed => some shared.abandonInitialization
  | .terminate cause request, .proceed =>
      let fault := shared.terminationFault cause
      some (shared,
        [.publish fault, .close] ++ if request then requestTerminal fault else [])
  | .forget, .proceed => some ({ shared with initializer := false, config := [] }, [])
  | .clearConfig, .proceed => some ({ shared with config := [] }, [])
  | .finishStop, .proceed => some ({ shared with stopped := true }, [])
  | .takeInbound, .proceed => some ({ shared with inbound := false }, [])
  | .takeJob, .proceed => shared.takeJob
  | .lockInit, .proceed => shared.lock [.enterInit]
  | .enterInit, .proceed => some shared.enterInit
  | .initReturns, .initialized outcome => some (shared.initReturned outcome)
  | .initReturns, .panicked =>
      some (shared.initReturned (.error "module initialization panicked"))
  | .publishInit result, .proceed => some (shared.publishInit result)
  | .awaitInit guard, .proceed =>
      if (shared.init = .scheduled || shared.init = .entered) && shared.result.isNone then none
      else some (shared, [.drainCallbacks guard])
  | .drainCallbacks guard, .proceed => some (shared.drainCallbacks guard)
  | .awaitCallbacks, .proceed =>
      if shared.hostCallbacksDrained then some (shared, [.lockCleanup]) else none
  | .lockCleanup, .proceed => shared.lock [.beginCleanup]
  | .beginCleanup, .proceed => some shared.beginCleanup
  | .beginPending, .proceed => some ({ shared with lifecyclePending := true }, [.stopSync])
  | .stopSync, .proceed => some shared.stopSync
  | .closeSync, .proceed => some (shared.closeAdmission, [.awaitDrained])
  | .awaitDrained, .proceed => shared.awaitDrained
  | .shutdownReturns, .returned code => some (shared.shutdownReturned code)
  | .shutdownReturns, .panicked => some (shared, [.endPending, .publishCleanup none])
  | .endPending, .proceed => some ({ shared with lifecyclePending := false }, [])
  | .publishCleanup code, .proceed => some (shared.publishCleanup code, [.release])
  | .release, .proceed => some ({ shared with locked := false }, [])
  | .reinit config, .proceed =>
      some (shared,
        if shared.admissionClosed then [.returned (.error .connectionClosed)]
        else [.lockReinit config])
  | .lockReinit config, .proceed => shared.lock [.replaceConfig config]
  | .lockReinit _, .timeout => some (shared, [.returned (.error Shared.timedOut)])
  | .lockReinit _, .cancel => some (shared, [.canceled])
  | .replaceConfig config, .proceed => some (shared.replaceConfig config)
  | .replaced, .proceed => some shared.replaced
  | .lookModule config, .proceed => some (shared.lookModule config)
  | .relock config, .proceed => shared.lock [.recheckModule config]
  | .relock _, .timeout => some (shared, [.returned (.error Shared.timedOut)])
  | .relock _, .cancel => some (shared, [.canceled])
  | .recheckModule config, .proceed => some (shared.recheckModule config)
  | .lookReady config, .proceed => some (shared.lookReady config)
  | .awaitReady config, .proceed => shared.awaitReady config
  | .awaitReady _, .timeout => some (shared, [.returned (.error Shared.timedOut)])
  | .awaitReady _, .cancel => some (shared, [.canceled])
  | .relockReady config, .proceed => shared.lock [.recheckReady config]
  | .relockReady _, .timeout => some (shared, [.returned (.error Shared.timedOut)])
  | .relockReady _, .cancel => some (shared, [.canceled])
  | .recheckReady config, .proceed => some (shared.recheckReady config)
  | .callReinit _, .proceed => some shared.callReinit
  | .reinitReturns, .returned code =>
      some (shared, [.endPending, .release, .returned (Shared.reinitialized code)])
  | .stop, .proceed =>
      some (shared,
        if shared.stopped then [.stopReturned (.notStarted .connectionClosed)]
        else [.lockStop])
  | .lockStop, .proceed => shared.lock [.recheckStop]
  | .lockStop, .timeout =>
      some (shared, [.stopReturned
        (.notStarted (.failed "module lifecycle operation exceeded its deadline"))])
  | .lockStop, .cancel => some (shared, [.canceled])
  | .recheckStop, .proceed =>
      some (shared,
        if shared.stopped then [.release, .stopReturned (.notStarted .connectionClosed)]
        else [.publish false, .close, .handOff])
  | .handOff, .proceed => some shared.handOff
  | .awaitStop ordinary, .proceed => shared.awaitStop ordinary
  | .awaitStop ordinary, .timeout =>
      some (shared, [.stopReturned
        (Shared.classify ordinary (.failed "module shutdown exceeded its deadline"))])
  | .awaitStop _, .cancel => some (shared, [.canceled])
  | .tryLock, .proceed => shared.tryLock
  | .eagerUnavailable, .proceed =>
      some ({ shared with cleanup := .uncertain }, [.returned
        (.error (.transport "module initialization lifecycle unavailable"))])
  | .enterEager, .proceed => some (shared.enterEager, [.eagerReturns])
  | .eagerReturns, .initialized outcome => some (shared.eagerReturned outcome)
  | .eagerReturns, .panicked => some (shared, [.release])
  | .publishEager result, .proceed => some (shared.publishEager result)
  | .eagerEnd, .proceed =>
      some (shared, [.returned (if shared.ended then .error .connectionClosed else .ok ())])
  | .hostReady, .proceed => some (shared.hostReady, [])
  | .hostSend message, .proceed =>
      some (shared, if shared.inbound then [.pushInbound message] else [])
  | .pushInbound message, .proceed => shared.pushInbound message
  | .recv, .proceed => shared.recv
  | .releaseInitialization allowed, .proceed =>
      some ({ shared with gate := some allowed },
        if allowed then [] else [.terminate .canceled true])
  | .pauseInitialization, .proceed => some ({ shared with gate := none }, [])
  | _, _ => none

/-- One action of a task. -/
def step (self : Nat) (choice : Choice) (shared : Shared) (task : Program) :
    Option (Shared × Program) :=
  match task with
  | [] => none
  | action :: rest =>
      (act toVec self shared action choice).map (fun done => (done.1, done.2 ++ rest))

def outside (event : Outside) (shared : Shared) : Shared :=
  match event with
  | .admitBroker => { shared with brokerRouting := true }
  | .controllerLost => { shared with controllerLive := false }
  | .bindHostCallbacks => { shared with hostCallbacks := true }
  | .hostCallbacksDrained => { shared with hostCallbacksDrained := true }

def kind : Tasks.Kind Shared Program Call Choice Outside where
  start := program
  step := step toVec
  outside := fun event state => outside event state.shared

/-- A transport as it is made, with an initializer to defer or to run at once. -/
structure Fresh (shared : Shared) : Prop where
  native : shared.native = ⟨true, false, false, false⟩
  flags : shared.faulted = false ∧ shared.initFailed = false ∧ shared.stopped = false ∧
    shared.admissionClosed = false ∧ shared.initStarted = false ∧ shared.ready = false
  physical : shared.init = .deferred ∧ shared.cleanup = .idle ∧ shared.job = false ∧
    shared.result = none ∧ shared.code = none
  gate : shared.gate = some true
  one : shared.initializer = false ∨ shared.eagerInitializer = false
  lifecycle : shared.workers = [] ∧ shared.locked = false ∧
    shared.lifecyclePending = false ∧ shared.stopTaskSpawned = false
  module : shared.module = none
  callbacks : shared.callbacks = ⟨false, 0⟩
  queue : shared.pending = [] ∧ shared.drainStarted = false ∧ shared.drainers = 0
  inbound : shared.inbound = true ∧ shared.channel = [] ∧ shared.inflight = 0
  history : shared.calls = [] ∧ shared.sent = [] ∧ shared.offered = [] ∧
    shared.delivered = [] ∧ shared.discarded = [] ∧ shared.received = []

def system : TransitionSystem.System (Tasks Shared Program)
    (Tasks.Event Call Choice Outside) :=
  Tasks.system (kind toVec) Fresh

end ModuleTransport

end TinyBus
