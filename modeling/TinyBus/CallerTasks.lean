/-
The callers of a connection as tasks that run at once with its reader and its
writer.  A step of a caller ends where its future waits: for the table of pending
calls, for room in the outbox or for the reply.  A future may be dropped wherever
it waits, and its deadline runs while it waits for the reply.
-/

import TinyBus.SendingPaths
import TinyBus.Library.Tasks

namespace TinyBus

open TransitionSystem

def outboxCapacity : Nat := 1024

/-- What the channel of a call was given: its reply, or the transport's refusal of
the call. -/
inductive Delivery where
  | answer (message : Message)
  | refusal (error : Error)

/-- The reader reads, has left its loop, or has cleared the table after that. -/
inductive Reader where
  | reading
  | closing
  | ended
  deriving DecidableEq

/-- What the callers of a connection share with its reader and its writer. -/
structure Link where
  serial : Nat
  uniqueName : Option BusName
  pending : Table Nat PendingReply
  mailbox : Table Nat Delivery
  outbox : List Message
  writing : Bool
  reader : Reader

/-- What ends a call: its reply, a refusal of the transport, an error of its own
checks, the end of the link or its deadline. -/
inductive CallEnd where
  | replied (message : Message)
  | refused (error : Error)
  | rejected (error : Error)
  | closed
  | timedOut

/-- Where the future of a call is.  `withdrawing` waits for the table to take its
slot out again. -/
inductive CallerPhase where
  | ready
  | locking (serial : Nat)
  | handing (serial : Nat)
  | awaiting (serial : Nat)
  | withdrawing (serial : Nat) (ending : CallEnd)
  | finished (ending : CallEnd)
  | dropped

/-- A call, and the one that goes on once this one has found its target. -/
structure Caller where
  message : Message
  expected : Option BusName
  busControl : Bool
  rest : Option (BusName × Message)
  phase : CallerPhase

namespace Caller

def start (message : Message) : Caller :=
  { message := message, expected := none, busControl := false, rest := none, phase := .ready }

def goTo (caller : Caller) (phase : CallerPhase) : Caller := { caller with phase := phase }

def draw (link : Link) (message : Message) (expected : Option BusName) (busControl : Bool)
    (rest : Option (BusName × Message)) : Link × Caller :=
  ({ link with serial := link.serial + 1 },
    { message := message.numbered link.serial, expected := expected,
      busControl := busControl, rest := rest, phase := .locking link.serial })

def begin (link : Link) (caller : Caller) : Link × Caller :=
  match Client.checkCall caller.message with
  | .error refusal => (link, caller.goTo (.finished (.rejected refusal)))
  | .ok () =>
      match callTarget link.uniqueName.isSome caller.message.header.destination with
      | .bus => draw link caller.message none true none
      | .responder owner => draw link caller.message (some owner) false none
      | .unidentified => draw link caller.message none false none
      | .negotiate destination =>
          let question := Client.busCall resolveMember (.array [destination.toValue])
          match Client.checkCall question with
          | .error refusal => (link, caller.goTo (.finished (.rejected refusal)))
          | .ok () => draw link question none true (some (destination, caller.message))

def slot (link : Link) (caller : Caller) : PendingReply :=
  ⟨caller.expected, caller.busControl, caller.message.header.confidential,
    link.uniqueName.isNone⟩

/-- A reply in hand ends the call, or names the owner that a waiting call is for. -/
def answered (link : Link) (caller : Caller) (reply : Message) : Link × Caller :=
  match caller.rest with
  | none => (link, caller.goTo (.finished (.replied reply)))
  | some (destination, waiting) =>
      if reply.header.kind = .error then (link, caller.goTo (.finished (.replied reply)))
      else
        match Decoder.tryFrom BusName.new reply.body with
        | .error complaint => (link, caller.goTo (.finished (.rejected (.json complaint))))
        | .ok owner =>
            if owner.isUnique = false then
              (link, caller.goTo (.finished (.rejected
                (.protocol "broker returned a non-unique call target"))))
            else if waiting.header.expectedResponder.any (fun expected => expected != owner)
            then (link, caller.goTo (.finished (.rejected (.nameHasNoOwner destination))))
            else draw link (waiting.expecting owner) (some owner) false none

end Caller

inductive CallerChoice where
  | run
  | deadline
  | drop

namespace Link

def attached : Link :=
  { serial := 1, uniqueName := none, pending := ∅, mailbox := ∅, outbox := [],
    writing := true, reader := .reading }

def open' (link : Link) (serial : Nat) : Bool :=
  (link.pending.lookup serial).isSome && (link.mailbox.lookup serial).isNone

def accept (link : Link) (message : Message) : Option Link :=
  if link.writing && decide (link.outbox.length < outboxCapacity) then
    some { link with outbox := link.outbox ++ [message] }
  else none

/-- Take a slot out and give its channel what it waits for. -/
def deliver (link : Link) (serial : Nat) (delivery : Delivery) : Link :=
  match link.pending.lookup serial with
  | none => link
  | some _ =>
      { link with
        pending := link.pending.erase serial
        mailbox := link.mailbox.insert serial delivery }

def receive (link : Link) (reply : Message) (brokered : Bool) : Link :=
  match reply.header.replySerial with
  | none => link
  | some serial =>
      if (link.pending.lookup serial).any (fun slot => slot.accepts reply brokered) then
        link.deliver serial (.answer reply)
      else link

/-- One turn of the writer.  A call that the transport refused is answered with the
refusal; any other error ends the writer, and its queue is gone with it. -/
def write (link : Link) (outcome : WriteOutcome) : Link :=
  match link.writing, link.outbox with
  | true, message :: rest =>
      match outcome with
      | .sent => { link with outbox := rest }
      | .refused reason =>
          if message.header.kind = .methodCall then
            { link with outbox := rest }.deliver message.header.serial
              (.refusal (.protocol reason))
          else { link with outbox := rest }
      | .failed => { link with outbox := [], writing := false }
  | _, _ => link

end Link

namespace Caller

def step (_ : Nat) (choice : CallerChoice) (link : Link) (caller : Caller) :
    Option (Link × Caller) :=
  match choice, caller.phase with
  | .run, .ready => some (caller.begin link)
  | .run, .locking serial =>
      some ({ link with pending := link.pending.insert serial (caller.slot link) },
        caller.goTo (.handing serial))
  | .run, .handing serial =>
      if link.writing then
        (link.accept caller.message).map (fun link => (link, caller.goTo (.awaiting serial)))
      else some (link, caller.goTo (.withdrawing serial .closed))
  | .run, .awaiting serial =>
      match link.mailbox.lookup serial with
      | some (.answer reply) => some (caller.answered link reply)
      | some (.refusal error) => some (link, caller.goTo (.finished (.refused error)))
      | none =>
          if (link.pending.lookup serial).isSome then none
          else some (link, caller.goTo (.finished .closed))
  | .run, .withdrawing serial ending =>
      some ({ link with pending := link.pending.erase serial }, caller.goTo (.finished ending))
  | .deadline, .awaiting serial =>
      if link.open' serial then some (link, caller.goTo (.withdrawing serial .timedOut))
      else none
  | .drop, .finished _ => none
  | .drop, .dropped => none
  | .drop, _ => some (link, caller.goTo .dropped)
  | _, _ => none

end Caller

inductive LinkEvent where
  | hello (name : BusName)
  | receive (reply : Message) (brokered : Bool)
  | readerEnds
  | clear
  | write (outcome : WriteOutcome)
  | post (message : Message)

def LinkEvent.apply (link : Link) : LinkEvent → Link
  | .hello name => { link with uniqueName := some name }
  | .receive reply brokered =>
      if link.reader = .reading then link.receive reply brokered else link
  | .readerEnds =>
      if link.reader = .reading then { link with reader := .closing } else link
  | .clear =>
      if link.reader = .closing then { link with pending := ∅, reader := .ended } else link
  | .write outcome => link.write outcome
  | .post message =>
      let drawn := { link with serial := link.serial + 1 }
      (drawn.accept (message.numbered link.serial)).getD drawn

namespace Caller

def kind : Tasks.Kind Link Caller Message CallerChoice LinkEvent :=
  { start := Caller.start
    step := Caller.step
    outside := fun event state => event.apply state.shared }

abbrev State := Tasks Link Caller

abbrev Event := Tasks.Event Message CallerChoice LinkEvent

def system : System State Event := Tasks.system kind (fun link => link = .attached)

def attached : State := { shared := .attached, tasks := ∅ }

theorem run_of_replay {events : List Event} {last : State}
    (replayed : replay (Tasks.next kind) (fun _ _ => true) attached events = some last) :
    system.Run attached events last :=
  System.Run.of_replay (fun _ _ _ => rfl) replayed

def askedPeer : BusName := ⟨":1.2", by rfl⟩

def question : Message :=
  .methodCall askedPeer .root storeInterface ⟨"Get", by rfl⟩ .null

end Caller

end TinyBus
