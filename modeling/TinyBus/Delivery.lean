/-
The tasks behind the routing table: one reader and one writer for each peer, and
the bounded queue between them.  A reader handles one message at a time, and
then waits for room in a queue or for its own transport; a writer takes the
oldest message of its queue in hand and waits for its transport.
-/

import TinyBus.Handling
import TinyBus.Library.Custody

namespace TinyBus

open TransitionSystem

def PEER_QUEUE_CAPACITY : Nat := 256

/-- A routed message; `call` is its number where it is a call. -/
structure Item where
  message : Message
  call : Option Nat

/-- What a reader still has to do for the message it took: push what it routed,
push the answer of the bus and then the announcements, or send an error reply.
`header` is the header the message came with. -/
inductive Duty where
  | push (target : Outbox) (item : Item) (header : Header)
  | answer (target : Outbox) (message : Message) (announced : List (Outbox × Message))
  | reply (call : Nat) (message : Message)

def Duty.call : Duty → Option Nat
  | .push _ item _ => item.call
  | .answer _ _ _ => none
  | .reply call _ => some call

inductive SendOutcome where
  | sent
  | refused
  | failed

/-- `callers` lists the peer each call was read from, by number.  `accepted` are the
calls a transport took, `served` those the bus took, `answered` those an error reply
was sent for.  `left` are the peers whose reader ended. -/
structure DeliveryState (Host : Type) where
  broker : Broker Host
  duties : List (PeerId × Duty)
  queued : List (Outbox × Item)
  hands : List (Outbox × Item)
  closed : Outbox → Bool
  callers : List PeerId
  accepted : List Nat
  served : List Nat
  answered : List Nat
  left : List PeerId

inductive DeliveryEvent (Host : Type) where
  | hear (source : PeerId) (message : Message)
  | proceed (index : Nat)
  | reply (index : Nat) (outcome : SendOutcome)
  | take (index : Nat)
  | write (index : Nat) (outcome : SendOutcome)
  | discard (outbox : Outbox)
  | hangUp (source : PeerId)
  | notify (outbox : Outbox) (message : Message)
  | table (op : RouterOp)
  | hostMoves (modules : Option Host) (controller : Option ModuleControllerBinding)

namespace DeliveryState

variable {Host : Type}

def hasRoom (state : DeliveryState Host) (outbox : Outbox) : Bool :=
  (state.queued.filter (fun entry => entry.1 = outbox)).length < PEER_QUEUE_CAPACITY

def enqueue (state : DeliveryState Host) (outbox : Outbox) (item : Item) :
    DeliveryState Host :=
  { state with queued := state.queued ++ [(outbox, item)] }

/-- Signals are best-effort: a full or closed queue loses them. -/
def trySend (state : DeliveryState Host) (entry : Outbox × Message) : DeliveryState Host :=
  if !state.closed entry.1 && state.hasRoom entry.1 then
    state.enqueue entry.1 ⟨entry.2, none⟩
  else state

def trySendAll (state : DeliveryState Host) (sends : List (Outbox × Message)) :
    DeliveryState Host :=
  sends.foldl trySend state

def withDuty (state : DeliveryState Host) (source : PeerId) (duty : Duty) :
    DeliveryState Host :=
  { state with duties := state.duties ++ [(source, duty)] }

/-- Only a call that failed is answered with an error reply. -/
def refuse (state : DeliveryState Host) (source : PeerId) (call : Option Nat)
    (header : Header) (failure : Error) : DeliveryState Host :=
  match call with
  | none => state
  | some call => state.withDuty source (.reply call (Broker.refusalReply header failure))

def numberOf (state : DeliveryState Host) (message : Message) : Option Nat :=
  if message.header.kind = .methodCall then some state.callers.length else none

def numbered (state : DeliveryState Host) (source : PeerId) (message : Message) :
    DeliveryState Host :=
  if message.header.kind = .methodCall then
    { state with callers := state.callers ++ [source] }
  else state

def withBroker (state : DeliveryState Host) (broker : Broker Host) :
    DeliveryState Host :=
  { state with broker := broker }

def hear (control : ModuleControl Host) (state : DeliveryState Host) (source : PeerId)
    (message : Message) : DeliveryState Host :=
  let sourceName := BusName.unique source
  let call := state.numberOf message
  let handled := Broker.handle control state.broker source sourceName message
  let read := (state.numbered source message).withBroker handled.broker
  match Broker.route state.broker.router (state.broker.unavailable control) source
      sourceName message with
  | .error failure => read.refuse source call message.header failure
  | .ok (.deliver target stamped) =>
      read.withDuty source (.push target ⟨stamped, call⟩ message.header)
  | .ok (.bus _) =>
      match handled.outcome, handled.sends with
      | .error failure, _ => read.refuse source call message.header failure
      | .ok (), [] => { read with served := read.served ++ call.toList }
      | .ok (), (target, answer) :: announced =>
          { read with served := read.served ++ call.toList }.withDuty source
            (.answer target answer announced)
  | .ok _ => read.trySendAll handled.sends

def undelivered (header : Header) : Error :=
  (header.destination.map Error.nameHasNoOwner).getD
    (.protocol "message has no destination")

/-- A reader goes on with what it has to push. -/
def proceed (state : DeliveryState Host) (index : Nat) : DeliveryState Host :=
  match state.duties[index]? with
  | some (source, .push target item header) =>
      let rest := { state with duties := state.duties.eraseIdx index }
      if state.closed target then
        rest.refuse source item.call header (undelivered header)
      else if state.hasRoom target then rest.enqueue target item
      else state
  | some (_, .answer target message announced) =>
      let rest := { state with duties := state.duties.eraseIdx index }
      if state.closed target then rest.trySendAll announced
      else if state.hasRoom target then
        (rest.enqueue target ⟨message, none⟩).trySendAll announced
      else state
  | _ => state

def replyTo (state : DeliveryState Host) (index : Nat) (outcome : SendOutcome) :
    DeliveryState Host :=
  match state.duties[index]? with
  | some (_, .reply call _) =>
      let rest := { state with duties := state.duties.eraseIdx index }
      match outcome with
      | .sent => { rest with answered := rest.answered ++ [call] }
      -- The reader ignores what became of the reply, and reads on.
      | .refused => rest
      | .failed => rest
  | _ => state

/-- A writer takes the oldest message of its queue. -/
def take (state : DeliveryState Host) (index : Nat) : DeliveryState Host :=
  match state.queued[index]? with
  | none => state
  | some entry =>
      { state with
        queued := state.queued.eraseIdx index
        hands := state.hands ++ [entry] }

def discard (state : DeliveryState Host) (outbox : Outbox) : DeliveryState Host :=
  { state with
    queued := state.queued.filter (fun entry => !decide (entry.1 = outbox))
    closed := fun other => decide (other = outbox) || state.closed other }

/-- A transport takes a frame, refuses that one frame, or fails: a refused frame is
dropped, and a failure ends the writer. -/
def write (state : DeliveryState Host) (index : Nat) (outcome : SendOutcome) :
    DeliveryState Host :=
  match state.hands[index]? with
  | none => state
  | some (outbox, item) =>
      let rest := { state with hands := state.hands.eraseIdx index }
      match outcome with
      | .sent => { rest with accepted := rest.accepted ++ item.call.toList }
      | .refused => rest
      | .failed => rest.discard outbox

def next (control : ModuleControl Host) (state : DeliveryState Host) :
    DeliveryEvent Host → DeliveryState Host
  | .hear source message => state.hear control source message
  | .proceed index => state.proceed index
  | .reply index outcome => state.replyTo index outcome
  | .take index => state.take index
  | .write index outcome => state.write index outcome
  | .discard outbox => state.discard outbox
  | .hangUp source =>
      { state.withBroker { state.broker with
          router := (state.broker.router.detach source).2 } with
        left := state.left ++ [source] }
  | .notify outbox message => state.trySend (outbox, message)
  | .table op =>
      state.withBroker { state.broker with router := (state.broker.router.perform op).2 }
  | .hostMoves modules controller =>
      state.withBroker { state.broker with
        modules := modules, moduleController := controller }

def Idle (state : DeliveryState Host) (source : PeerId) : Prop :=
  source ∉ state.left ∧ ∀ entry ∈ state.duties, entry.1 ≠ source

def Unused (state : DeliveryState Host) (outbox : Outbox) : Prop :=
  state.closed outbox = false ∧ ∀ id peer,
    state.broker.router.peers.lookup id = some peer → peer.outbox ≠ outbox

/-- A reader takes a message when it has no other, and a writer the oldest of its
queue when its hand is free; only a queue no writer was started for is discarded;
the rest are signals and operations of the broker. -/
def Possible (state : DeliveryState Host) : DeliveryEvent Host → Prop
  | .hear source _ => state.Idle source
  | .hangUp source => state.Idle source
  | .take index => ∀ entry, state.queued[index]? = some entry →
      (∀ earlier ∈ state.queued.take index, earlier.1 ≠ entry.1) ∧
        (∀ held ∈ state.hands, held.1 ≠ entry.1) ∧ state.closed entry.1 = false
  | .discard outbox => ∀ held ∈ state.hands, held.1 ≠ outbox
  | .notify _ message => message.header.kind = .signal
  | .table op => op.Issued state.broker.router ∧
      ∀ outbox, op = .attach outbox → state.Unused outbox
  | _ => True

/-- A broker with a table it reached, and no message read yet. -/
structure Quiet (state : DeliveryState Host) : Prop where
  table : Router.brokered.Reachable state.broker.router
  duties : state.duties = []
  queues : state.queued = [] ∧ state.hands = []
  calls : state.callers = [] ∧ state.accepted = [] ∧ state.served = [] ∧
    state.answered = []

def system (control : ModuleControl Host) :
    System (DeliveryState Host) (DeliveryEvent Host) :=
  (System.ofFunction Quiet (next control)).restrict Possible

end DeliveryState

end TinyBus
