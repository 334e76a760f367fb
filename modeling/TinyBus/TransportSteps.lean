import TinyBus.TransportActs

/-
What an action of a transport can do, case by case: the actions that leave alone what
is shared and only decide what comes next, and those that change it.
-/

namespace TinyBus

namespace ModuleTransport

inductive Waits : Action → Prop
  | gate {use : InitUse} : Waits (.gate use)
  | stalled {delivery : Delivery} (direct : delivery.queued = false) :
      Waits (.stalled delivery)
  | lockReinit {config : Bytes} : Waits (.lockReinit config)
  | relock {config : Bytes} : Waits (.relock config)
  | awaitReady {config : Bytes} : Waits (.awaitReady config)
  | relockReady {config : Bytes} : Waits (.relockReady config)
  | lockStop : Waits .lockStop
  | awaitStop {ordinary : Bool} : Waits (.awaitStop ordinary)

inductive LooksSend (self : Nat) (shared : Shared) : Action → Program → Prop
  | gateFails {use : InitUse} {error : Error} :
      LooksSend self shared (.gate use) [.fail use error]
  | gatePasses {use : InitUse} : LooksSend self shared (.gate use) [.schedule use]
  | scheduleFails {use : InitUse} :
      LooksSend self shared (.schedule use) [.fail use .connectionClosed]
  | scheduleFollows {use : InitUse} : LooksSend self shared (.schedule use) [.await use false]
  | awaitSucceeds {use : InitUse} {initiating : Bool} :
      LooksSend self shared (.await use initiating) (Shared.initialized use)
  | awaitFails {use : InitUse} {initiating : Bool} {error : Error} :
      LooksSend self shared (.await use initiating) [.fail use error]
  | awaitExpires {use : InitUse} {initiating : Bool} {error : Error} :
      LooksSend self shared (.await use initiating)
        (Shared.giveUp initiating [.fail use error])
  | awaitCanceled {use : InitUse} {initiating : Bool} :
      LooksSend self shared (.await use initiating) (Shared.giveUp initiating [.canceled])
  | failClosed {message : Message} {error : Error} (closed : shared.admissionClosed = true) :
      LooksSend self shared (.fail (.send message) error)
        [.returned (.error .connectionClosed)]
  | failHost {error : Error} :
      LooksSend self shared (.fail .host error) [.returned (.error error)]
  | failReinit {config : Bytes} {error : Error} :
      LooksSend self shared (.fail (.reinit config) error) [.returned (.error error)]
  | authorizes {message : Message} :
      LooksSend self shared (.authorize message)
        [.enqueue message (shared.authorizedPreReadyPeer message)]
  | enqueueClosed {message : Message} {bypass : Option BusName}
      (closed : shared.admissionClosed = true) :
      LooksSend self shared (.enqueue message bypass) [.returned (.error .connectionClosed)]

inductive LooksDelivery (toVec : Message → Except String Bytes) (shared : Shared) :
    Action → Program → Prop
  | frameClosed {delivery : Delivery} (ended : shared.ended = true) :
      LooksDelivery toVec shared (.frame delivery) [.undelivered delivery .connectionClosed]
  | frames {delivery : Delivery} (going : shared.ended = false) :
      LooksDelivery toVec shared (.frame delivery) (Shared.frameOf toVec delivery)
  | checkClosed {delivery : Delivery} (ended : shared.ended = true) :
      LooksDelivery toVec shared (.check delivery) [.undelivered delivery .connectionClosed]
  | checks {delivery : Delivery} (going : shared.ended = false) :
      LooksDelivery toVec shared (.check delivery) [.enter delivery]
  | enterRefused {delivery : Delivery} :
      LooksDelivery toVec shared (.enter delivery) [.undelivered delivery .connectionClosed]
  | pressClosed {delivery : Delivery} (closed : shared.admissionClosed = true) :
      LooksDelivery toVec shared (.backpressure delivery)
        [.undelivered delivery .connectionClosed]
  | presses {delivery : Delivery} :
      LooksDelivery toVec shared (.backpressure delivery) [.stalled delivery]
  | wakes {delivery : Delivery} :
      LooksDelivery toVec shared (.stalled delivery) [.check delivery]
  | expires {delivery : Delivery} :
      LooksDelivery toVec shared (.stalled delivery) [.expire delivery]
  | expireClosed {delivery : Delivery} (closed : shared.admissionClosed = true) :
      LooksDelivery toVec shared (.expire delivery) [.undelivered delivery .connectionClosed]
  | hands {delivery : Delivery} {error : Error} (queued : delivery.queued = true) :
      LooksDelivery toVec shared (.undelivered delivery error)
        [.faultPending ⟨delivery.id, delivery.message⟩ error]
  | readies : LooksDelivery toVec shared .waitReady [.drain]
  | drainEnds (ended : shared.ended = true) : LooksDelivery toVec shared .drain [.endDrain]
  | drains : LooksDelivery toVec shared .drain [.pop]
  | popsNothing (empty : shared.pending = []) : LooksDelivery toVec shared .pop [.recheck]
  | recheckEnds (ended : shared.ended = true) : LooksDelivery toVec shared .recheck [.endDrain]
  | rechecks : LooksDelivery toVec shared .recheck [.finishDrain]
  | restarts : LooksDelivery toVec shared .finishDrain [.drain]
  | clones {failed : List Entry} (inbound : shared.inbound = true) :
      LooksDelivery toVec shared (.clone failed) [.answer failed]
  | cloneFails {failed : List Entry} (dropped : shared.inbound = false) :
      LooksDelivery toVec shared (.clone failed) Shared.afterFault
  | answerLost {entry : Entry} {rest : List Entry}
      (lost : Shared.isCall entry.message = false ∨
        shared.canAnswer toVec entry shared.stoppedAccepting = false) :
      LooksDelivery toVec shared (.answer (entry :: rest)) [.answer rest]
  | answersDone : LooksDelivery toVec shared (.answer []) Shared.afterFault

inductive LooksPhysical (shared : Shared) : Action → Program → Prop
  | submitFails {job : Job} :
      LooksPhysical shared (.submit job) [.publish job.faultOnSpawnFailure, .close, .unsure]
  | abandonSkips : LooksPhysical shared .abandon []
  | terminates {cause : AdmissionTermination} {fault : Bool} :
      LooksPhysical shared (.terminate cause false) [.publish fault, .close]
  | requests {cause : AdmissionTermination} {fault : Bool} :
      LooksPhysical shared (.terminate cause true)
        ([.publish fault, .close] ++ requestTerminal fault)
  | initRejected {failure : InitFailure} :
      LooksPhysical shared .initReturns
        [.clearConfig, .publish true, .close, .publishInit (.error failure)]
  | awaitsInit {guard : Bool} :
      LooksPhysical shared (.awaitInit guard) [.drainCallbacks guard]
  | drainReleases :
      LooksPhysical shared (.drainCallbacks true) [.release, .awaitCallbacks]
  | drainWaits : LooksPhysical shared (.drainCallbacks false) [.awaitCallbacks]
  | drainSkipsHeld : LooksPhysical shared (.drainCallbacks true) [.beginCleanup]
  | drainSkips : LooksPhysical shared (.drainCallbacks false) [.lockCleanup]
  | callbacksDrained : LooksPhysical shared .awaitCallbacks [.lockCleanup]
  | cleanupTaken : LooksPhysical shared .beginCleanup [.release]
  | alreadyStopped :
      LooksPhysical shared .stopSync [.endPending, .publishCleanup (some TB_CLOSED)]
  | stops : LooksPhysical shared .stopSync [.closeSync]
  | nothingToStop :
      LooksPhysical shared .awaitDrained
        [.finishStop, .takeInbound, .endPending, .publishCleanup (some TB_CLOSED)]
  | shutdownFails {code : Int} (failed : code ≠ TB_OK) :
      LooksPhysical shared .shutdownReturns
        [.finishStop, .takeInbound, .endPending, .publishCleanup (some code)]
  | shutdownPanics :
      LooksPhysical shared .shutdownReturns [.endPending, .publishCleanup none]
  | stopRefused {outcome : StopOutcome} :
      LooksPhysical shared .stop [.stopReturned outcome]
  | stopStarts : LooksPhysical shared .stop [.lockStop]
  | stopExpires {outcome : StopOutcome} :
      LooksPhysical shared .lockStop [.stopReturned outcome]
  | stopLate {outcome : StopOutcome} :
      LooksPhysical shared .recheckStop [.release, .stopReturned outcome]
  | stopCommits : LooksPhysical shared .recheckStop [.publish false, .close, .handOff]
  | stopAnswers {ordinary : Bool} {outcome : StopOutcome} :
      LooksPhysical shared (.awaitStop ordinary) [.stopReturned outcome]
  | eagerRejected {error : Error} :
      LooksPhysical shared .eagerReturns [.clearConfig, .publishEager (.error error)]
  | eagerPanics : LooksPhysical shared .eagerReturns [.release]
  | eagerAnswers {result : Except Error Unit} :
      LooksPhysical shared .eagerEnd [.returned result]
  | readyRefused (closed : shared.admissionClosed = true) :
      LooksPhysical shared .hostReady []
  | sends {message : Except String Message} :
      LooksPhysical shared (.hostSend message) [.pushInbound message]
  | sendRefused {message : Except String Message} :
      LooksPhysical shared (.hostSend message) []

inductive LooksReinit (shared : Shared) : Action → Program → Prop
  | refused {config : Bytes} {result : Except Error Unit} :
      LooksReinit shared (.reinit config) [.returned result]
  | starts {config : Bytes} : LooksReinit shared (.reinit config) [.lockReinit config]
  | lockExpires {config : Bytes} {result : Except Error Unit} :
      LooksReinit shared (.lockReinit config) [.returned result]
  | relockExpires {config : Bytes} {result : Except Error Unit} :
      LooksReinit shared (.relock config) [.returned result]
  | readyExpires {config : Bytes} {result : Except Error Unit} :
      LooksReinit shared (.awaitReady config) [.returned result]
  | relockReadyExpires {config : Bytes} {result : Except Error Unit} :
      LooksReinit shared (.relockReady config) [.returned result]
  | replaceFails {config : Bytes} {result : Except Error Unit} :
      LooksReinit shared (.replaceConfig config) [.release, .returned result]
  | replaceSkips {config : Bytes} : LooksReinit shared (.replaceConfig config) [.lookModule config]
  | replaced {result : Except Error Unit} :
      LooksReinit shared .replaced [.release, .returned result]
  | found {config : Bytes} : LooksReinit shared (.lookModule config) [.lookReady config]
  | initializing {config : Bytes} :
      LooksReinit shared (.lookModule config) [.release, .gate (.reinit config)]
  | missing {config : Bytes} {result : Except Error Unit} :
      LooksReinit shared (.lookModule config) [.release, .returned result]
  | recheckFails {config : Bytes} {result : Except Error Unit} :
      LooksReinit shared (.recheckModule config) [.release, .returned result]
  | rechecks {config : Bytes} : LooksReinit shared (.recheckModule config) [.lookReady config]
  | isReady {config : Bytes} : LooksReinit shared (.lookReady config) [.callReinit config]
  | notReady {config : Bytes} :
      LooksReinit shared (.lookReady config) [.release, .awaitReady config]
  | readied {config : Bytes} : LooksReinit shared (.awaitReady config) [.relockReady config]
  | recheckReadyFails {config : Bytes} {result : Except Error Unit} :
      LooksReinit shared (.recheckReady config) [.release, .returned result]
  | recheckReady {config : Bytes} :
      LooksReinit shared (.recheckReady config) [.callReinit config]
  | unsupported {config : Bytes} {result : Except Error Unit} :
      LooksReinit shared (.callReinit config) [.release, .returned result]
  | returns {result : Except Error Unit} :
      LooksReinit shared .reinitReturns [.endPending, .release, .returned result]

inductive Locks : Action → Action → Prop
  | init : Locks .lockInit .enterInit
  | cleanup : Locks .lockCleanup .beginCleanup
  | reinit {config : Bytes} : Locks (.lockReinit config) (.replaceConfig config)
  | relock {config : Bytes} : Locks (.relock config) (.recheckModule config)
  | relockReady {config : Bytes} : Locks (.relockReady config) (.recheckReady config)
  | stop : Locks .lockStop .recheckStop

inductive Notes (shared : Shared) : Action → Shared → Program → Prop
  | clears : Notes shared .clearConfig { shared with config := [] } []
  | replaces {config : Bytes} :
      Notes shared (.replaceConfig config) { shared with config := config } [.replaced]
  | stopped : Notes shared .finishStop { shared with stopped := true } []
  | begins : Notes shared .beginPending { shared with lifecyclePending := true } [.stopSync]
  | ends : Notes shared .endPending { shared with lifecyclePending := false } []
  | shutdown : Notes shared .shutdownReturns
      { shared with native := { shared.native with physicallyStopped := true } }
      [.finishStop, .takeInbound, .endPending, .publishCleanup (some TB_OK)]
  | readies (admitting : shared.admissionClosed = false) :
      Notes shared .hostReady { shared with ready := true } []
  | releases {allowed : Bool} : Notes shared (.releaseInitialization allowed)
      { shared with gate := some allowed }
      (if allowed then [] else [.terminate .canceled true])
  | pauses : Notes shared .pauseInitialization { shared with gate := none } []
  | noInitializer {use : InitUse} : Notes shared (.schedule use)
      { shared with result := some (.error (.failed "module has no initializer")) }
      [.await use false]

inductive Acts (toVec : Message → Except String Bytes) (self : Nat) (shared : Shared) :
    Action → Shared → Program → Prop
  | canceled {action : Action} (waits : Waits action) :
      Acts toVec self shared action shared [.canceled]
  | sendLooks {action : Action} {more : Program} (looks : LooksSend self shared action more) :
      Acts toVec self shared action shared more
  | deliveryLooks {action : Action} {more : Program}
      (looks : LooksDelivery toVec shared action more) :
      Acts toVec self shared action shared more
  | physicalLooks {action : Action} {more : Program}
      (looks : LooksPhysical shared action more) :
      Acts toVec self shared action shared more
  | reinitLooks {action : Action} {more : Program} (looks : LooksReinit shared action more) :
      Acts toVec self shared action shared more
  | locks {action next : Action} (takes : Locks action next) (free : shared.locked = false) :
      Acts toVec self shared action { shared with locked := true } [next]
  | notes {action : Action} {after : Shared} {more : Program}
      (notes : Notes shared action after more) :
      Acts toVec self shared action after more
  | arrives {message : Message} :
      Acts toVec self shared (.arrive message)
        { shared with sent := shared.sent ++ [⟨self, message⟩] } [.gate (.send message)]
  | arrivesLate {message : Message} :
      Acts toVec self shared (.arrive message)
        { shared with sent := shared.sent ++ [⟨self, message⟩] } [.returned (.error .connectionClosed)]
  | schedules {use : InitUse} (deferred : shared.init = .deferred)
      (there : shared.initializer = true) :
      Acts toVec self shared (.schedule use)
        { shared with
          initializer := false, init := .scheduled, job := true, initStarted := true }
        [.submit ⟨true, false, true⟩, .await use true]
  | fails {message : Message} {error : Error} :
      Acts toVec self shared (.fail (.send message) error)
        { shared.publishTerminalFlags true with initFailed := true }
        (if message.header.kind = .methodCall then
          .answerFailed message :: requestTerminal true ++ [.returned (.ok ())]
        else requestTerminal true ++ [.returned (.error .connectionClosed)])
  | answersFailed {message : Message} :
      Acts toVec self shared (.answerFailed message)
        { shared with channel := shared.channel ++ [.answer self], inbound := false } []
  | losesFailed {message : Message} {inbound : Bool}
      (lost : shared.inbound = false ∨
        shared.canAnswer toVec ⟨self, message⟩ shared.initializationFailed = false) :
      Acts toVec self shared (.answerFailed message) { shared with inbound := inbound } []
  | queues {message : Message} {bypass : Option BusName} {inflight : UInt64} {drainers : Nat}
      (admitting : shared.admissionClosed = false) (call : Shared.isCall message = true)
      (notReady : shared.isReady = false) (direct : bypass = none)
      (spawned : drainers = if shared.drainStarted then shared.drainers
        else shared.drainers + 1) :
      Acts toVec self shared (.enqueue message bypass)
        { shared with
          inflight := inflight
          pending := shared.pending ++ [⟨self, message⟩]
          drainStarted := true
          drainers := drainers } [.returned (.ok ())]
  | goesDirect {message : Message} {bypass : Option BusName} {inflight : UInt64}
      (admitting : shared.admissionClosed = false)
      (passes : Shared.isCall message = false ∨ shared.isReady = true ∨ bypass.isSome = true) :
      Acts toVec self shared (.enqueue message bypass) { shared with inflight := inflight }
        [.frame ⟨self, message, bypass, false⟩]
  | enters {delivery : Delivery} (entry : shared.callbacks.closed = false) :
      Acts toVec self shared (.enter delivery)
        { shared with
          callbacks := { shared.callbacks with active := shared.callbacks.active + 1 } }
        [.permit delivery]
  | permitRefused {delivery : Delivery} :
      Acts toVec self shared (.permit delivery) shared.leaveCallback
        [.undelivered delivery .connectionClosed]
  | permits {delivery : Delivery} :
      Acts toVec self shared (.permit delivery)
        { shared with offered := shared.offered ++ [delivery.id] } [.delivering delivery]
  | delivers {delivery : Delivery} :
      Acts toVec self shared (.delivering delivery)
        { shared.leaveCallback with delivered := shared.delivered ++ [delivery.id] }
        (Shared.afterDelivery delivery)
  | pushesBack {delivery : Delivery} :
      Acts toVec self shared (.delivering delivery) shared.leaveCallback
        [.backpressure delivery]
  | deliveryFails {delivery : Delivery} {error : Error} :
      Acts toVec self shared (.delivering delivery) shared.leaveCallback
        [.undelivered delivery error]
  | expires {delivery : Delivery} {error : Error} (admitting : shared.admissionClosed = false) :
      Acts toVec self shared (.expire delivery) (shared.publishTerminalFlags true)
        (requestTerminal true ++ [.takeInbound, .undelivered delivery error])
  | refuses {delivery : Delivery} {error : Error} {inflight : UInt64}
      (direct : delivery.queued = false) :
      Acts toVec self shared (.undelivered delivery error)
        { shared with inflight := inflight } [.returned (.error error)]
  | takesDrain (spawned : shared.drainers ≠ 0) :
      Acts toVec self shared .takeDrain { shared with drainers := shared.drainers - 1 }
        [.waitReady]
  | pops {head : Entry} {rest : List Entry} (queued : shared.pending = head :: rest) :
      Acts toVec self shared .pop { shared with pending := rest }
        [.frame ⟨head.id, head.message, none, true⟩]
  | finishesDrain (empty : shared.pending = []) :
      Acts toVec self shared .finishDrain { shared with drainStarted := false } []
  | endsDrain : Acts toVec self shared .endDrain { shared with drainStarted := false } []
  | dropsPending {failed : Entry} {error : Error} (closed : shared.admissionClosed = true) :
      Acts toVec self shared (.faultPending failed error)
        { shared with
          pending := []
          discarded := shared.discarded ++ (shared.pending ++ [failed]).map Entry.id }
        [.endDrain]
  | faultsPending {failed : Entry} {error : Error} :
      Acts toVec self shared (.faultPending failed error)
        { shared.publishTerminalFlags true with pending := [] }
        [.clone (shared.pending ++ [failed])]
  | answers {entry : Entry} {rest : List Entry} :
      Acts toVec self shared (.answer (entry :: rest))
        { shared with channel := shared.channel ++ [.answer entry.id] } [.answer rest]
  | publishes {fault : Bool} :
      Acts toVec self shared (.publish fault) (shared.publishTerminalFlags fault) []
  | closes : Acts toVec self shared .close shared.closeAdmission []
  | closesSync : Acts toVec self shared .closeSync shared.closeAdmission [.awaitDrained]
  | anchorIdle {fault : Bool} {cleanup : CleanupState}
      (moves : cleanup = shared.cleanup ∨
        shared.cleanup = .idle ∧ cleanup = .requested) :
      Acts toVec self shared (.anchor fault) { shared with cleanup := cleanup } []
  | anchorCancels {fault : Bool} :
      Acts toVec self shared (.anchor fault)
        { shared with
          init := .canceledBeforeEntry
          cleanup := .noCallbackRequired
          result := some (.error .closed) } [.forget, .finishStop, .takeInbound]
  | anchorSubmits {fault : Bool}
      (moves : shared.cleanup = .requested ∨ shared.cleanup = .idle) :
      Acts toVec self shared (.anchor fault)
        { shared with cleanup := .requested, job := true } [.submit ⟨false, false, fault⟩]
  | submits {job : Job} :
      Acts toVec self shared (.submit job) { shared with workers := shared.workers ++ [job] } []
  | unsures : Acts toVec self shared .unsure shared.unsure []
  | abandons {cleanup : CleanupState}
      (moves : cleanup = shared.cleanup ∨
        shared.cleanup = .idle ∧ cleanup = .requested) :
      Acts toVec self shared .abandon
        { shared.publishTerminalFlags true with cleanup := cleanup } (requestTerminal true)
  | forgets :
      Acts toVec self shared .forget { shared with initializer := false, config := [] } []
  | takesInbound : Acts toVec self shared .takeInbound { shared with inbound := false } []
  | takesJob {job : Job} {rest : List Job} (queued : shared.workers = job :: rest) :
      Acts toVec self shared .takeJob { shared with workers := rest }
        (if job.initializer then [.lockInit] else [.awaitInit job.guard])
  | initCanceled :
      Acts toVec self shared .enterInit shared.cancelInit
        [.clearConfig, .finishStop, .takeInbound, .release]
  | entersInit :
      Acts toVec self shared .enterInit
        { shared with init := .entered, calls := shared.calls ++ [.init] } [.initReturns]
  | initReturned {module : Vtable} :
      Acts toVec self shared .initReturns { shared with module := some module }
        [.clearConfig, .publishInit (.ok ())]
  | publishesInit {result : Option (Except InitFailure Unit)} :
      Acts toVec self shared (.publishInit (.ok ()))
        { shared with
          init := .publishedValid
          result := result
          job := shared.job && shared.cleanup ≠ .idle
          calls := shared.calls ++ [.published] }
        (.release :: if shared.cleanup = .requested then [.drainCallbacks false] else [])
  | rejectsInit {failure : InitFailure} {result : Option (Except InitFailure Unit)} :
      Acts toVec self shared (.publishInit (.error failure))
        { shared with
          init := .publishedRejected
          result := result
          cleanup := .uncertain } [.release]
  | cleanupCanceled :
      Acts toVec self shared .beginCleanup shared.cancelInit
        [.forget, .finishStop, .takeInbound, .release]
  | cleanupUncertain :
      Acts toVec self shared .beginCleanup { shared with cleanup := .uncertain } [.release]
  | beginsCleanup (requested : shared.cleanup = .requested)
      (there : shared.module.isSome = true) :
      Acts toVec self shared .beginCleanup { shared with cleanup := .executing }
        [.beginPending]
  | shutsDown (drained : shared.callbacks.active = 0) (there : shared.module.isSome = true) :
      Acts toVec self shared .awaitDrained { shared with calls := shared.calls ++ [.shutdown] }
        [.shutdownReturns]
  | publishesCleanup {code : Option Int} {cleanup : CleanupState} {job : Bool}
      (finished : cleanup = .complete ∨ cleanup = .uncertain) :
      Acts toVec self shared (.publishCleanup code)
        { shared with code := code, cleanup := cleanup, job := job } [.release]
  | releases : Acts toVec self shared .release { shared with locked := false } []
  | callsReinit {config : Bytes} :
      Acts toVec self shared (.callReinit config)
        { shared with lifecyclePending := true, calls := shared.calls ++ [.reinit] }
        [.reinitReturns]
  | handsOff {ordinary spawned : Bool} (moves : shared.cleanup = .requested ∨ shared.cleanup = .idle) :
      Acts toVec self shared .handOff
        { shared with cleanup := .requested, job := true, stopTaskSpawned := spawned }
        [.submit ⟨false, true, false⟩, .awaitStop ordinary]
  | follows {ordinary spawned : Bool} {cleanup : CleanupState}
      (moves : cleanup = shared.cleanup ∨ shared.cleanup = .idle ∧ cleanup = .requested) :
      Acts toVec self shared .handOff
        { shared with cleanup := cleanup, stopTaskSpawned := spawned }
        [.release, .awaitStop ordinary]
  | triesLock (there : shared.eagerInitializer = true) (free : shared.locked = false) :
      Acts toVec self shared .tryLock
        { shared with eagerInitializer := false, locked := true } [.enterEager]
  | lockTaken (there : shared.eagerInitializer = true) :
      Acts toVec self shared .tryLock { shared with eagerInitializer := false }
        [.publish true, .close, .eagerUnavailable]
  | eagerUnavailable {result : Except Error Unit} :
      Acts toVec self shared .eagerUnavailable { shared with cleanup := .uncertain }
        [.returned result]
  | entersEager :
      Acts toVec self shared .enterEager shared.enterEager [.eagerReturns]
  | eagerReturned {module : Vtable} :
      Acts toVec self shared .eagerReturns { shared with module := some module }
        [.clearConfig, .publishEager (.ok ())]
  | publishesEager {result : Option (Except InitFailure Unit)} :
      Acts toVec self shared (.publishEager (.ok ()))
        { shared with
          init := .externalValid
          result := result
          calls := shared.calls ++ [.published] } [.release, .eagerEnd]
  | rejectsEager {error : Error} {result : Option (Except InitFailure Unit)} :
      Acts toVec self shared (.publishEager (.error error))
        { shared with
          init := .publishedRejected
          result := result
          cleanup := .uncertain
          job := true } (.release :: requestTerminal true ++ [.returned (.error error)])
  | pushes {message : Except String Message} :
      Acts toVec self shared (.pushInbound message)
        { shared with channel := shared.channel ++ [.frame message] } []
  | receives {head : Incoming} {rest : List Incoming} {inflight : UInt64}
      (queued : shared.channel = head :: rest) :
      Acts toVec self shared .recv
        { shared with
          channel := rest
          received := shared.received ++ [head]
          inflight := inflight } []

variable {toVec : Message → Except String Bytes} {self : Nat} {shared after : Shared}
  {action : Action} {choice : Choice} {more : Program}

/-! ### The inversion of an action -/

section

variable {use : InitUse} {message : Message} {delivery : Delivery}

private theorem lock_acts {next : Action} (takes : Locks action next)
    (done : shared.lock [next] = some (after, more)) :
    Acts toVec self shared action after more := by
  unfold Shared.lock at done
  split at done
  · cases done
  · rename_i free
    cases done
    exact .locks takes (eq_false_of_ne_true free)

private theorem passGate_acts (done : shared.passGate use = some (after, more)) :
    Acts toVec self shared (.gate use) after more := by
  unfold Shared.passGate at done
  split at done
  · cases done
    exact .sendLooks .gateFails
  · split at done
    · cases done
      exact .sendLooks .gatePasses
    · cases done
      exact .sendLooks .gateFails
    · cases done

private theorem schedule_acts (done : shared.scheduleInitializer use = (after, more)) :
    Acts toVec self shared (.schedule use) after more := by
  unfold Shared.scheduleInitializer at done
  split at done
  · cases done
    exact .sendLooks .scheduleFails
  · split at done
    · cases done
      exact .sendLooks .scheduleFollows
    · rename_i pending
      rw [Bool.or_eq_true, not_or, decide_eq_true_iff, not_not] at pending
      split at done
      · rename_i there
        cases done
        exact .schedules pending.2 there
      · cases done
        exact .notes .noInitializer

private theorem awaitResult_acts {initiating : Bool}
    (done : shared.awaitResult use = some (after, more)) :
    Acts toVec self shared (.await use initiating) after more := by
  unfold Shared.awaitResult at done
  split at done
  · cases done
  · cases done
    split
    · exact .sendLooks .awaitFails
    · exact .sendLooks .awaitSucceeds
  · cases done
    exact .sendLooks .awaitFails
  · cases done
    exact .sendLooks .awaitFails

private theorem fail_acts {error : Error}
    (done : shared.failInitialization use error = (after, more)) :
    Acts toVec self shared (.fail use error) after more := by
  unfold Shared.failInitialization at done
  split at done
  · split at done
    · rename_i closed
      cases done
      rw [Bool.and_eq_true] at closed
      exact .sendLooks (.failClosed closed.1)
    · cases done
      exact .fails
  · cases done
    exact .sendLooks .failHost
  · cases done
    exact .sendLooks .failReinit

private theorem enqueue_acts {bypass : Option BusName}
    (done : shared.enqueue self message bypass = (after, more)) :
    Acts toVec self shared (.enqueue message bypass) after more := by
  unfold Shared.enqueue at done
  dsimp only at done
  split at done
  · rename_i closed
    cases done
    exact .sendLooks (.enqueueClosed closed)
  · rename_i admitting
    have admitting := eq_false_of_ne_true admitting
    split at done
    · rename_i queues
      rw [Bool.and_eq_true, Bool.and_eq_true, Bool.not_eq_true', Option.isNone_iff_eq_none]
        at queues
      cases done
      rw [if_pos queues.1.1]
      exact .queues admitting queues.1.1 queues.1.2 queues.2 rfl
    · rename_i passes
      have direct : Shared.isCall message = false ∨ shared.isReady = true ∨
          bypass.isSome = true := by
        cases call : Shared.isCall message with
        | false => exact .inl rfl
        | true =>
            rw [call, Bool.true_and, Bool.and_eq_true, not_and_or, Bool.not_eq_true,
              Bool.not_eq_false', Option.isNone_iff_eq_none, ← ne_eq,
              Option.ne_none_iff_isSome] at passes
            exact .inr passes
      cases done
      split
      · exact .goesDirect admitting direct
      · exact .goesDirect admitting direct

private theorem enter_acts (done : shared.enterCallback delivery = (after, more)) :
    Acts toVec self shared (.enter delivery) after more := by
  unfold Shared.enterCallback at done
  split at done
  · cases done
    exact .deliveryLooks .enterRefused
  · rename_i admits
    rw [Bool.or_eq_true, not_or, Bool.not_eq_true, Bool.not_eq_true] at admits
    cases done
    exact .enters admits.2

private theorem permit_acts (done : shared.permit delivery = (after, more)) :
    Acts toVec self shared (.permit delivery) after more := by
  unfold Shared.permit at done
  split at done
  · cases done
    exact .permitRefused
  · cases done
    exact .permits

private theorem returned_acts {code : Int}
    (done : shared.deliveryReturned delivery code = (after, more)) :
    Acts toVec self shared (.delivering delivery) after more := by
  unfold Shared.deliveryReturned at done
  dsimp only at done
  split at done
  · cases done
    exact .delivers
  · split at done
    · cases done
      exact .pushesBack
    · split at done
      · cases done
        exact .deliveryFails
      · split at done
        · cases done
          exact .deliveryFails
        · cases done
          exact .deliveryFails

private theorem expire_acts (done : shared.expire delivery = (after, more)) :
    Acts toVec self shared (.expire delivery) after more := by
  unfold Shared.expire at done
  split at done
  · rename_i closed
    cases done
    exact .deliveryLooks (.expireClosed closed)
  · rename_i admitting
    cases done
    exact .expires (eq_false_of_ne_true admitting)

private theorem undelivered_acts {error : Error}
    (done : shared.undelivered delivery error = (after, more)) :
    Acts toVec self shared (.undelivered delivery error) after more := by
  unfold Shared.undelivered at done
  split at done
  · rename_i queued
    cases done
    exact .deliveryLooks (.hands queued)
  · rename_i direct
    have direct := eq_false_of_ne_true direct
    cases done
    split
    · exact .refuses direct
    · exact .refuses direct

private theorem pop_acts (done : shared.pop = (after, more)) :
    Acts toVec self shared .pop after more := by
  unfold Shared.pop at done
  split at done
  · rename_i empty
    cases done
    exact .deliveryLooks (.popsNothing empty)
  · rename_i queued
    cases done
    exact .pops queued

private theorem finishDrain_acts (done : shared.finishDrain = (after, more)) :
    Acts toVec self shared .finishDrain after more := by
  unfold Shared.finishDrain at done
  split at done
  · rename_i empty
    cases done
    exact .finishesDrain empty
  · cases done
    exact .deliveryLooks .restarts

private theorem faultPending_acts {failed : Entry} {error : Error}
    (done : shared.faultPending failed error = (after, more)) :
    Acts toVec self shared (.faultPending failed error) after more := by
  unfold Shared.faultPending at done
  split at done
  · rename_i closed
    rw [Bool.and_eq_true] at closed
    cases done
    exact .dropsPending closed.1
  · cases done
    exact .faultsPending

private theorem answer_acts {failed : List Entry}
    (done : shared.answerPending toVec failed = (after, more)) :
    Acts toVec self shared (.answer failed) after more := by
  unfold Shared.answerPending at done
  split at done
  · cases done
    exact .deliveryLooks .answersDone
  · cases done
    unfold Shared.answerQueued
    split
    · unfold Shared.tryAnswer
      split
      · exact .answers
      · rename_i refused
        exact .deliveryLooks (.answerLost (.inr (eq_false_of_ne_true refused)))
    · rename_i other
      exact .deliveryLooks (.answerLost (.inl (eq_false_of_ne_true other)))

private theorem answerFailed_acts :
    Acts toVec self shared (.answerFailed message)
      (shared.answerFailed toVec ⟨self, message⟩) [] := by
  unfold Shared.answerFailed
  split
  · rename_i unwritten
    refine .losesFailed (.inr ?_)
    unfold Shared.canAnswer
    rw [unwritten]
  · split
    · unfold Shared.tryAnswer
      split
      · exact .answersFailed
      · rename_i refused
        exact .losesFailed (.inr (eq_false_of_ne_true refused))
    · rename_i dropped
      exact .losesFailed (.inl (eq_false_of_ne_true dropped))

private theorem requested_moves {cleanup later : CleanupState}
    (moved : (if cleanup = .idle then CleanupState.requested else cleanup) = later) :
    later = cleanup ∨ cleanup = .idle ∧ later = .requested := by
  by_cases idle : cleanup = .idle
  · rw [if_pos idle] at moved
    exact .inr ⟨idle, moved.symm⟩
  · rw [if_neg idle] at moved
    exact .inl moved.symm

private theorem requested_from {cleanup later : CleanupState}
    (moves : later = cleanup ∨ cleanup = .idle ∧ later = .requested)
    (requested : later = .requested) : cleanup = .requested ∨ cleanup = .idle := by
  rcases moves with same | ⟨idle, _⟩
  · exact .inl (same.symm.trans requested)
  · exact .inr idle

private theorem anchor_acts {fault : Bool} (done : shared.anchor fault = (after, more)) :
    Acts toVec self shared (.anchor fault) after more := by
  unfold Shared.anchor at done
  dsimp only at done
  generalize moved : (if shared.cleanup = .idle then CleanupState.requested
    else shared.cleanup) = cleanup at done
  have moves := requested_moves moved
  split at done
  · cases done
    exact .anchorIdle moves
  · rename_i free
    rw [Bool.or_eq_true, not_or, decide_eq_true_iff, not_not] at free
    split at done
    · cases done
      exact .anchorCancels
    · cases done
      rw [free.2]
      exact .anchorSubmits (requested_from moves free.2)

private theorem submit_acts {job : Job} {started : Bool}
    (done : shared.submitJob job started = (after, more)) :
    Acts toVec self shared (.submit job) after more := by
  unfold Shared.submitJob at done
  split at done
  · cases done
    exact .submits
  · cases done
    exact .physicalLooks .submitFails

private theorem abandon_acts (done : shared.abandonInitialization = (after, more)) :
    Acts toVec self shared .abandon after more := by
  unfold Shared.abandonInitialization at done
  split at done
  · cases done
    exact .physicalLooks .abandonSkips
  · cases done
    exact .abandons (requested_moves rfl)

private theorem takeJob_acts (done : shared.takeJob = some (after, more)) :
    Acts toVec self shared .takeJob after more := by
  unfold Shared.takeJob at done
  split at done
  · cases done
  · rename_i queued
    cases done
    exact .takesJob queued

private theorem enterInit_acts (done : shared.enterInit = (after, more)) :
    Acts toVec self shared .enterInit after more := by
  unfold Shared.enterInit at done
  split at done
  · cases done
    exact .initCanceled
  · cases done
    exact .entersInit

private theorem initReturned_acts {outcome : Except String Vtable}
    (done : shared.initReturned outcome = (after, more)) :
    Acts toVec self shared .initReturns after more := by
  unfold Shared.initReturned at done
  split at done
  · split at done
    · cases done
      exact .physicalLooks .initRejected
    · cases done
      exact .initReturned
  · cases done
    exact .physicalLooks .initRejected

private theorem publishInit_acts {result : Except InitFailure Unit}
    (done : shared.publishInit result = (after, more)) :
    Acts toVec self shared (.publishInit result) after more := by
  unfold Shared.publishInit at done
  split at done
  · cases done
    exact .publishesInit
  · cases done
    exact .rejectsInit

private theorem drainCallbacks_acts {guard : Bool}
    (done : shared.drainCallbacks guard = (after, more)) :
    Acts toVec self shared (.drainCallbacks guard) after more := by
  unfold Shared.drainCallbacks at done
  cases done
  split
  · exact .physicalLooks .drainReleases
  · exact .physicalLooks .drainWaits
  · exact .physicalLooks .drainSkipsHeld
  · exact .physicalLooks .drainSkips

private theorem beginCleanup_acts (done : shared.beginCleanup = (after, more)) :
    Acts toVec self shared .beginCleanup after more := by
  unfold Shared.beginCleanup at done
  split at done
  · cases done
    exact .physicalLooks .cleanupTaken
  · rename_i requested
    split at done
    · cases done
      exact .cleanupCanceled
    · split at done
      · cases done
        exact .cleanupUncertain
      · rename_i there
        cases done
        refine .beginsCleanup (Classical.not_not.mp requested) ?_
        rw [Option.isNone_iff_eq_none, ← ne_eq, Option.ne_none_iff_isSome] at there
        exact there

private theorem awaitDrained_acts (done : shared.awaitDrained = some (after, more)) :
    Acts toVec self shared .awaitDrained after more := by
  unfold Shared.awaitDrained at done
  split at done
  · cases done
  · rename_i drained
    split at done
    · rename_i there
      cases done
      exact .shutsDown (Classical.not_not.mp drained) there
    · cases done
      exact .physicalLooks .nothingToStop

private theorem shutdownReturned_acts {code : Int}
    (done : shared.shutdownReturned code = (after, more)) :
    Acts toVec self shared .shutdownReturns after more := by
  unfold Shared.shutdownReturned at done
  cases done
  split
  · rename_i fine
    rw [fine]
    exact .notes .shutdown
  · rename_i failed
    exact .physicalLooks (.shutdownFails failed)

private theorem publishCleanup_acts {code : Option Int} :
    Acts toVec self shared (.publishCleanup code) (shared.publishCleanup code) [.release] := by
  unfold Shared.publishCleanup
  split
  · exact .publishesCleanup (.inl rfl)
  · exact .publishesCleanup (.inr rfl)

private theorem replaceConfig_acts {config : Bytes}
    (done : shared.replaceConfig config = (after, more)) :
    Acts toVec self shared (.replaceConfig config) after more := by
  unfold Shared.replaceConfig at done
  split at done
  · cases done
    exact .reinitLooks .replaceFails
  · split at done
    · cases done
      exact .notes .replaces
    · cases done
      exact .reinitLooks .replaceSkips

private theorem lookModule_acts {config : Bytes}
    (done : shared.lookModule config = (after, more)) :
    Acts toVec self shared (.lookModule config) after more := by
  unfold Shared.lookModule at done
  cases done
  split
  · exact .reinitLooks .found
  · split
    · exact .reinitLooks .initializing
    · exact .reinitLooks .missing

private theorem awaitReady_acts {config : Bytes}
    (done : shared.awaitReady config = some (after, more)) :
    Acts toVec self shared (.awaitReady config) after more := by
  unfold Shared.awaitReady at done
  split at done
  · cases done
    split
    · exact .reinitLooks .readied
    · exact .reinitLooks .readyExpires
  · cases done

private theorem callReinit_acts {config : Bytes}
    (done : shared.callReinit = (after, more)) :
    Acts toVec self shared (.callReinit config) after more := by
  unfold Shared.callReinit at done
  split at done
  · cases done
    exact .reinitLooks .unsupported
  · split at done
    · cases done
      exact .reinitLooks .unsupported
    · cases done
      exact .callsReinit

private theorem handOff_acts (done : shared.handOff = (after, more)) :
    Acts toVec self shared .handOff after more := by
  unfold Shared.handOff at done
  dsimp only at done
  generalize moved : (if shared.cleanup = .idle then CleanupState.requested
    else shared.cleanup) = cleanup at done
  have moves := requested_moves moved
  generalize makes : (!shared.job && decide (cleanup = .requested)) = made at done
  cases made with
  | true =>
      rw [Bool.and_eq_true, decide_eq_true_iff] at makes
      cases done
      rw [Bool.or_true, makes.2]
      exact .handsOff (requested_from moves makes.2)
  | false =>
      cases done
      rw [Bool.or_false]
      exact .follows moves

private theorem awaitStop_acts {ordinary : Bool}
    (done : shared.awaitStop ordinary = some (after, more)) :
    Acts toVec self shared (.awaitStop ordinary) after more := by
  unfold Shared.awaitStop at done
  split at done
  · cases done
    exact .physicalLooks .stopAnswers
  · cases done
    exact .physicalLooks .stopAnswers
  · cases done
    exact .physicalLooks .stopAnswers
  · cases done

private theorem tryLock_acts (done : shared.tryLock = some (after, more)) :
    Acts toVec self shared .tryLock after more := by
  unfold Shared.tryLock at done
  split at done
  · cases done
  · rename_i there
    rw [Bool.not_eq_true', Bool.not_eq_false] at there
    split at done
    · cases done
      exact .lockTaken there
    · rename_i free
      cases done
      exact .triesLock there (eq_false_of_ne_true free)

private theorem eagerReturned_acts {outcome : Except String Vtable}
    (done : shared.eagerReturned outcome = (after, more)) :
    Acts toVec self shared .eagerReturns after more := by
  unfold Shared.eagerReturned at done
  split at done
  · split at done
    · cases done
      exact .physicalLooks .eagerRejected
    · cases done
      exact .eagerReturned
  · cases done
    exact .physicalLooks .eagerRejected

private theorem publishEager_acts {result : Except Error Unit}
    (done : shared.publishEager result = (after, more)) :
    Acts toVec self shared (.publishEager result) after more := by
  unfold Shared.publishEager at done
  split at done
  · cases done
    exact .publishesEager
  · cases done
    exact .rejectsEager

private theorem hostReady_acts :
    Acts toVec self shared .hostReady shared.hostReady [] := by
  unfold Shared.hostReady
  split
  · rename_i closed
    exact .physicalLooks (.readyRefused closed)
  · rename_i admitting
    exact .notes (.readies (eq_false_of_ne_true admitting))

private theorem pushInbound_acts {message : Except String Message}
    (done : shared.pushInbound message = some (after, more)) :
    Acts toVec self shared (.pushInbound message) after more := by
  unfold Shared.pushInbound at done
  split at done
  · cases done
    exact .pushes
  · cases done

private theorem recv_acts (done : shared.recv = some (after, more)) :
    Acts toVec self shared .recv after more := by
  unfold Shared.recv at done
  split at done
  · cases done
  · rename_i queued
    cases done
    exact .receives queued

theorem act_acts (done : act toVec self shared action choice = some (after, more)) :
    Acts toVec self shared action after more := by
  cases action with
  | arrive message =>
      cases choice with
      | proceed =>
          change (if _ then _ else _) = _ at done
          split at done
          · cases done
            exact .arrivesLate
          · cases done
            exact .arrives
      | _ => cases done
  | gate use =>
      cases choice with
      | proceed => exact passGate_acts done
      | cancel =>
          cases done
          exact .canceled .gate
      | _ => cases done
  | schedule use =>
      cases choice with
      | proceed => exact schedule_acts (Option.some.inj done)
      | _ => cases done
  | await use initiating =>
      cases choice with
      | proceed => exact awaitResult_acts done
      | timeout =>
          change (if _ then _ else _) = _ at done
          split at done
          · cases done
          · cases done
            exact .sendLooks .awaitExpires
      | cancel =>
          cases done
          exact .sendLooks .awaitCanceled
      | _ => cases done
  | fail use error =>
      cases choice with
      | proceed => exact fail_acts (Option.some.inj done)
      | _ => cases done
  | answerFailed message =>
      cases choice with
      | proceed =>
          cases done
          exact answerFailed_acts
      | _ => cases done
  | authorize message =>
      cases choice with
      | proceed =>
          cases done
          exact .sendLooks .authorizes
      | _ => cases done
  | enqueue message bypass =>
      cases choice with
      | proceed => exact enqueue_acts (Option.some.inj done)
      | _ => cases done
  | returned result =>
      cases choice <;> cases done
  | canceled =>
      cases choice <;> cases done
  | frame delivery =>
      cases choice with
      | proceed =>
          cases done
          split
          · rename_i ended
            exact .deliveryLooks (.frameClosed ended)
          · rename_i going
            exact .deliveryLooks (.frames (eq_false_of_ne_true going))
      | _ => cases done
  | check delivery =>
      cases choice with
      | proceed =>
          cases done
          split
          · rename_i ended
            exact .deliveryLooks (.checkClosed ended)
          · rename_i going
            exact .deliveryLooks (.checks (eq_false_of_ne_true going))
      | _ => cases done
  | enter delivery =>
      cases choice with
      | proceed => exact enter_acts (Option.some.inj done)
      | _ => cases done
  | permit delivery =>
      cases choice with
      | proceed => exact permit_acts (Option.some.inj done)
      | _ => cases done
  | delivering delivery =>
      cases choice with
      | returned code => exact returned_acts (Option.some.inj done)
      | _ => cases done
  | backpressure delivery =>
      cases choice with
      | proceed =>
          cases done
          split
          · rename_i closed
            exact .deliveryLooks (.pressClosed closed)
          · exact .deliveryLooks .presses
      | _ => cases done
  | stalled delivery =>
      cases choice with
      | proceed =>
          cases done
          exact .deliveryLooks .wakes
      | timeout =>
          cases done
          exact .deliveryLooks .expires
      | cancel =>
          change (if _ then _ else _) = _ at done
          split at done
          · cases done
          · rename_i direct
            cases done
            exact .canceled (.stalled (eq_false_of_ne_true direct))
      | _ => cases done
  | expire delivery =>
      cases choice with
      | proceed => exact expire_acts (Option.some.inj done)
      | _ => cases done
  | undelivered delivery error =>
      cases choice with
      | proceed => exact undelivered_acts (Option.some.inj done)
      | _ => cases done
  | takeDrain =>
      cases choice with
      | proceed =>
          change (if _ then _ else _) = _ at done
          split at done
          · cases done
          · rename_i spawned
            cases done
            exact .takesDrain spawned
      | _ => cases done
  | waitReady =>
      cases choice with
      | proceed =>
          change (if _ then _ else _) = _ at done
          split at done
          · cases done
            exact .deliveryLooks .readies
          · cases done
      | _ => cases done
  | drain =>
      cases choice with
      | proceed =>
          cases done
          split
          · rename_i ended
            exact .deliveryLooks (.drainEnds ended)
          · exact .deliveryLooks .drains
      | _ => cases done
  | pop =>
      cases choice with
      | proceed => exact pop_acts (Option.some.inj done)
      | _ => cases done
  | recheck =>
      cases choice with
      | proceed =>
          cases done
          split
          · rename_i ended
            exact .deliveryLooks (.recheckEnds ended)
          · exact .deliveryLooks .rechecks
      | _ => cases done
  | finishDrain =>
      cases choice with
      | proceed => exact finishDrain_acts (Option.some.inj done)
      | _ => cases done
  | endDrain =>
      cases choice with
      | proceed =>
          cases done
          exact .endsDrain
      | _ => cases done
  | faultPending failed error =>
      cases choice with
      | proceed => exact faultPending_acts (Option.some.inj done)
      | _ => cases done
  | clone failed =>
      cases choice with
      | proceed =>
          cases done
          split
          · rename_i inbound
            exact .deliveryLooks (.clones inbound)
          · rename_i dropped
            exact .deliveryLooks (.cloneFails (eq_false_of_ne_true dropped))
      | _ => cases done
  | answer failed =>
      cases choice with
      | proceed => exact answer_acts (Option.some.inj done)
      | _ => cases done
  | publish fault =>
      cases choice with
      | proceed =>
          cases done
          exact .publishes
      | _ => cases done
  | close =>
      cases choice with
      | proceed =>
          cases done
          exact .closes
      | _ => cases done
  | anchor fault =>
      cases choice with
      | proceed => exact anchor_acts (Option.some.inj done)
      | _ => cases done
  | submit job =>
      cases choice with
      | spawned started => exact submit_acts (Option.some.inj done)
      | _ => cases done
  | unsure =>
      cases choice with
      | proceed =>
          cases done
          exact .unsures
      | _ => cases done
  | abandon =>
      cases choice with
      | proceed => exact abandon_acts (Option.some.inj done)
      | _ => cases done
  | terminate cause request =>
      cases choice with
      | proceed =>
          cases done
          cases request with
          | false =>
              rw [if_neg Bool.false_ne_true, List.append_nil]
              exact .physicalLooks .terminates
          | true => exact .physicalLooks .requests
      | _ => cases done
  | forget =>
      cases choice with
      | proceed =>
          cases done
          exact .forgets
      | _ => cases done
  | clearConfig =>
      cases choice with
      | proceed =>
          cases done
          exact .notes .clears
      | _ => cases done
  | finishStop =>
      cases choice with
      | proceed =>
          cases done
          exact .notes .stopped
      | _ => cases done
  | takeInbound =>
      cases choice with
      | proceed =>
          cases done
          exact .takesInbound
      | _ => cases done
  | takeJob =>
      cases choice with
      | proceed => exact takeJob_acts done
      | _ => cases done
  | lockInit =>
      cases choice with
      | proceed => exact lock_acts .init done
      | _ => cases done
  | enterInit =>
      cases choice with
      | proceed => exact enterInit_acts (Option.some.inj done)
      | _ => cases done
  | initReturns =>
      cases choice with
      | initialized outcome => exact initReturned_acts (Option.some.inj done)
      | panicked => exact initReturned_acts (Option.some.inj done)
      | _ => cases done
  | publishInit result =>
      cases choice with
      | proceed => exact publishInit_acts (Option.some.inj done)
      | _ => cases done
  | awaitInit guard =>
      cases choice with
      | proceed =>
          change (if _ then _ else _) = _ at done
          split at done
          · cases done
          · cases done
            exact .physicalLooks .awaitsInit
      | _ => cases done
  | drainCallbacks guard =>
      cases choice with
      | proceed => exact drainCallbacks_acts (Option.some.inj done)
      | _ => cases done
  | awaitCallbacks =>
      cases choice with
      | proceed =>
          change (if _ then _ else _) = _ at done
          split at done
          · cases done
            exact .physicalLooks .callbacksDrained
          · cases done
      | _ => cases done
  | lockCleanup =>
      cases choice with
      | proceed => exact lock_acts .cleanup done
      | _ => cases done
  | beginCleanup =>
      cases choice with
      | proceed => exact beginCleanup_acts (Option.some.inj done)
      | _ => cases done
  | beginPending =>
      cases choice with
      | proceed =>
          cases done
          exact .notes .begins
      | _ => cases done
  | stopSync =>
      cases choice with
      | proceed =>
          cases done
          split
          · exact .physicalLooks .alreadyStopped
          · exact .physicalLooks .stops
      | _ => cases done
  | closeSync =>
      cases choice with
      | proceed =>
          cases done
          exact .closesSync
      | _ => cases done
  | awaitDrained =>
      cases choice with
      | proceed => exact awaitDrained_acts done
      | _ => cases done
  | shutdownReturns =>
      cases choice with
      | returned code => exact shutdownReturned_acts (Option.some.inj done)
      | panicked =>
          cases done
          exact .physicalLooks .shutdownPanics
      | _ => cases done
  | endPending =>
      cases choice with
      | proceed =>
          cases done
          exact .notes .ends
      | _ => cases done
  | publishCleanup code =>
      cases choice with
      | proceed =>
          cases done
          exact publishCleanup_acts
      | _ => cases done
  | release =>
      cases choice with
      | proceed =>
          cases done
          exact .releases
      | _ => cases done
  | reinit config =>
      cases choice with
      | proceed =>
          cases done
          split
          · exact .reinitLooks .refused
          · exact .reinitLooks .starts
      | _ => cases done
  | lockReinit config =>
      cases choice with
      | proceed => exact lock_acts .reinit done
      | timeout =>
          cases done
          exact .reinitLooks .lockExpires
      | cancel =>
          cases done
          exact .canceled .lockReinit
      | _ => cases done
  | replaceConfig config =>
      cases choice with
      | proceed => exact replaceConfig_acts (Option.some.inj done)
      | _ => cases done
  | replaced =>
      cases choice with
      | proceed =>
          cases done
          exact .reinitLooks .replaced
      | _ => cases done
  | lookModule config =>
      cases choice with
      | proceed => exact lookModule_acts (Option.some.inj done)
      | _ => cases done
  | relock config =>
      cases choice with
      | proceed => exact lock_acts .relock done
      | timeout =>
          cases done
          exact .reinitLooks .relockExpires
      | cancel =>
          cases done
          exact .canceled .relock
      | _ => cases done
  | recheckModule config =>
      cases choice with
      | proceed =>
          cases done
          split
          · exact .reinitLooks .recheckFails
          · exact .reinitLooks .rechecks
      | _ => cases done
  | lookReady config =>
      cases choice with
      | proceed =>
          cases done
          split
          · exact .reinitLooks .isReady
          · exact .reinitLooks .notReady
      | _ => cases done
  | awaitReady config =>
      cases choice with
      | proceed => exact awaitReady_acts done
      | timeout =>
          cases done
          exact .reinitLooks .readyExpires
      | cancel =>
          cases done
          exact .canceled .awaitReady
      | _ => cases done
  | relockReady config =>
      cases choice with
      | proceed => exact lock_acts .relockReady done
      | timeout =>
          cases done
          exact .reinitLooks .relockReadyExpires
      | cancel =>
          cases done
          exact .canceled .relockReady
      | _ => cases done
  | recheckReady config =>
      cases choice with
      | proceed =>
          cases done
          split
          · exact .reinitLooks .recheckReadyFails
          · exact .reinitLooks .recheckReady
      | _ => cases done
  | callReinit config =>
      cases choice with
      | proceed => exact callReinit_acts (Option.some.inj done)
      | _ => cases done
  | reinitReturns =>
      cases choice with
      | returned code =>
          cases done
          exact .reinitLooks .returns
      | _ => cases done
  | stop =>
      cases choice with
      | proceed =>
          cases done
          split
          · exact .physicalLooks .stopRefused
          · exact .physicalLooks .stopStarts
      | _ => cases done
  | lockStop =>
      cases choice with
      | proceed => exact lock_acts .stop done
      | timeout =>
          cases done
          exact .physicalLooks .stopExpires
      | cancel =>
          cases done
          exact .canceled .lockStop
      | _ => cases done
  | recheckStop =>
      cases choice with
      | proceed =>
          cases done
          split
          · exact .physicalLooks .stopLate
          · exact .physicalLooks .stopCommits
      | _ => cases done
  | handOff =>
      cases choice with
      | proceed => exact handOff_acts (Option.some.inj done)
      | _ => cases done
  | awaitStop ordinary =>
      cases choice with
      | proceed => exact awaitStop_acts done
      | timeout =>
          cases done
          exact .physicalLooks .stopAnswers
      | cancel =>
          cases done
          exact .canceled .awaitStop
      | _ => cases done
  | stopReturned outcome =>
      cases choice <;> cases done
  | tryLock =>
      cases choice with
      | proceed => exact tryLock_acts done
      | _ => cases done
  | eagerUnavailable =>
      cases choice with
      | proceed =>
          cases done
          exact .eagerUnavailable
      | _ => cases done
  | enterEager =>
      cases choice with
      | proceed =>
          cases done
          exact .entersEager
      | _ => cases done
  | eagerReturns =>
      cases choice with
      | initialized outcome => exact eagerReturned_acts (Option.some.inj done)
      | panicked =>
          cases done
          exact .physicalLooks .eagerPanics
      | _ => cases done
  | publishEager result =>
      cases choice with
      | proceed => exact publishEager_acts (Option.some.inj done)
      | _ => cases done
  | eagerEnd =>
      cases choice with
      | proceed =>
          cases done
          exact .physicalLooks .eagerAnswers
      | _ => cases done
  | hostReady =>
      cases choice with
      | proceed =>
          cases done
          exact hostReady_acts
      | _ => cases done
  | hostSend message =>
      cases choice with
      | proceed =>
          cases done
          split
          · exact .physicalLooks .sends
          · exact .physicalLooks .sendRefused
      | _ => cases done
  | pushInbound message =>
      cases choice with
      | proceed => exact pushInbound_acts done
      | _ => cases done
  | recv =>
      cases choice with
      | proceed => exact recv_acts done
      | _ => cases done
  | releaseInitialization allowed =>
      cases choice with
      | proceed =>
          cases done
          exact .notes .releases
      | _ => cases done
  | pauseInitialization =>
      cases choice with
      | proceed =>
          cases done
          exact .notes .pauses
      | _ => cases done

end

theorem step_acts {task stepped : Program}
    (done : step toVec self choice shared task = some (after, stepped)) :
    ∃ action rest more, task = action :: rest ∧ stepped = more ++ rest ∧
      Acts toVec self shared action after more := by
  unfold step at done
  cases task with
  | nil => cases done
  | cons action rest =>
      obtain ⟨⟨later, more⟩, acted, same⟩ := Option.map_eq_some_iff.mp done
      cases same
      exact ⟨action, rest, more, rfl, rfl, act_acts acted⟩

end ModuleTransport

end TinyBus
