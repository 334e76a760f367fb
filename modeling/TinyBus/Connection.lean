/-
One connection's side of its calls: which messages it accepts as calls, whom it
expects an answer from, which answer a pending slot accepts and what else ends
a call.  Drawing the serial, inserting the slot and handing the message to the
writer are steps of their own; whatever else runs on the connection may come
between them.
-/

import TinyBus.Broker

namespace TinyBus

/-- The shape of a stream handle: an `id`, perhaps a content type and a length,
and no other field. -/
def streamRefShape (fields : List (String × Value)) : Bool :=
  fields.all (fun field => ["id", "content_type", "len"].contains field.1) &&
    (Value.field? fields "id").any (fun id => (Decoder.string id).isOk) &&
    (Value.field? fields "content_type").all (fun contentType =>
      (Decoder.optional Decoder.string contentType).isOk) &&
    (Value.field? fields "len").all (fun len =>
      (Decoder.optional Decoder.uint64 len).isOk)

mutual

def bodyContainsStreamRef : Value → Bool
  | .object fields => streamRefShape fields || fieldsContainStreamRef fields
  | .array items => itemsContainStreamRef items
  | _ => false

def itemsContainStreamRef : List Value → Bool
  | [] => false
  | item :: rest => bodyContainsStreamRef item || itemsContainStreamRef rest

def fieldsContainStreamRef : List (String × Value) → Bool
  | [] => false
  | (_, value) :: rest => bodyContainsStreamRef value || fieldsContainStreamRef rest

end

/-- Reply identity is captured before sending, never inferred from its body. -/
structure PendingReply where
  expected : Option BusName
  busControl : Bool
  confidential : Bool
  unverifiedDirect : Bool
  deriving DecidableEq

namespace PendingReply

def identityMatches (pending : PendingReply) (reply : Message) (brokered : Bool) :
    Bool :=
  let brokerSender := reply.header.sender == some busName
  if pending.busControl then
    reply.header.sender.isNone || brokerSender
  else
    match pending.expected with
    | some expected =>
        reply.header.sender == some expected ||
          (reply.header.kind == .error && brokerSender) ||
          (pending.unverifiedDirect && !brokered && reply.header.sender.isNone)
    | none => !brokered

def accepts (pending : PendingReply) (reply : Message) (brokered : Bool) : Bool :=
  pending.identityMatches reply brokered &&
    (reply.header.kind == .error || !pending.confidential ||
      reply.header.confidential)

end PendingReply

inductive Purpose where
  | plain
  | handshake
  | negotiation (waiting : Message)

/-- A call that drew its serial.  `named` tells whether the connection had its
unique name when it chose the responder. -/
structure Call where
  message : Message
  expected : Option BusName
  busControl : Bool
  named : Bool
  purpose : Purpose

def Call.serial (call : Call) : Nat := call.message.header.serial

structure Slot where
  call : Call
  waiter : PendingReply

/-- A frame on its way to the connection.  `cause` is the message, and the peer
it came from, that the broker was handling when it sent the frame; what the bus
announces on its own has none. -/
structure Parcel where
  message : Message
  cause : Option (PeerId × Message)

/-- What ended a call: a frame, which came with a proof that the broker delivered
it or without, the connection's own writer, the deadline or the end of the link. -/
inductive Ending where
  | reply (parcel : Parcel) (brokered : Bool)
  | refused (error : Error)
  | timedOut
  | closed

structure Completion where
  call : Call
  ending : Ending

def Completion.serial (completion : Completion) : Nat := completion.call.serial

inductive CallTarget where
  | bus
  | responder (owner : BusName)
  | negotiate (destination : BusName)
  | unidentified

def callTarget (named : Bool) (destination : Option BusName) : CallTarget :=
  match destination with
  | none => .unidentified
  | some destination =>
      if destination = busName then .bus
      else if destination.isUnique then .responder destination
      else if named then .negotiate destination
      else .unidentified

/-- `issued` records every message that drew a serial, `answered` the completions
that the connection itself has yet to act on. -/
structure Client where
  serial : Nat
  uniqueName : Option BusName
  numbered : List Call
  pending : Table Nat Slot
  entered : List Message
  outbox : List Message
  writing : Bool
  reading : Bool
  answered : List (Purpose × Message)
  completed : List Completion
  issued : Table Nat Message

inductive WriteOutcome where
  | sent
  | refused (reason : String)
  | failed

def resolveMember : MemberName := ⟨"ResolveCallTarget", by rfl⟩

namespace Client

/-- A connection that is attached and has not said hello. -/
def attached : Client :=
  { serial := 1, uniqueName := none, numbered := [], pending := ∅, entered := [],
    outbox := [], writing := true, reading := true, answered := [], completed := [],
    issued := ∅ }

def numberedMessage (client : Client) (message : Message) : Message :=
  { message with header := { message.header with serial := client.serial } }

def draw (client : Client) (message : Message) : Client :=
  { client with
    serial := client.serial + 1
    issued := client.issued.insert client.serial (client.numberedMessage message) }

/-- A call past its checks, up to its first await. -/
def start (client : Client) (message : Message) (expected : Option BusName)
    (busControl : Bool) (purpose : Purpose) : Client :=
  { client.draw message with
    numbered := client.numbered ++
      [⟨client.numberedMessage message, expected, busControl,
        client.uniqueName.isSome, purpose⟩] }

def checkCall (message : Message) : Except Error Unit :=
  let checked := { message with header := { message.header with serial := 1 } }
  match checked.validate with
  | .error refusal => .error refusal
  | .ok () =>
      if message.header.confidential ∧ message.header.streamReply then
        .error (.protocol "a confidential call cannot request a streamed reply")
      else if (message.header.confidential || message.header.sensitive) &&
          bodyContainsStreamRef message.body then
        .error (.protocol ("a private call cannot carry a stream handle: the stream's " ++
          "bytes travel as separate unattested writes, so the payload would not be " ++
          "private even though the handle was"))
      else .ok ()

def busCall (member : MemberName) (body : Value) : Message :=
  Message.methodCall busName busPath busInterface member body

def callBus (client : Client) (member : MemberName) (body : Value)
    (purpose : Purpose) : Client :=
  match checkCall (busCall member body) with
  | .error _ => client
  | .ok () => client.start (busCall member body) none true purpose

/-- Begin a call; one to a well-known name asks the bus for its owner first. -/
def callRawMessage (client : Client) (message : Message) : Client :=
  match checkCall message with
  | .error _ => client
  | .ok () =>
      match callTarget client.uniqueName.isSome message.header.destination with
      | .bus => client.start message none true .plain
      | .responder owner => client.start message (some owner) false .plain
      | .unidentified => client.start message none false .plain
      | .negotiate destination =>
          client.callBus resolveMember (.array [destination.toValue])
            (.negotiation message)

def handshake (client : Client) : Client :=
  client.callBus ⟨"Hello", by rfl⟩ (.array []) .handshake

def insertPending (client : Client) (index : Nat) : Client :=
  match client.numbered[index]? with
  | none => client
  | some call =>
      { client with
        numbered := client.numbered.eraseIdx index
        entered := client.entered ++ [call.message]
        pending := client.pending.insert call.serial
          ⟨call, ⟨call.expected, call.busControl, call.message.header.confidential,
            client.uniqueName.isNone⟩⟩ }

/-- Remove a slot and end its call. -/
def settle (client : Client) (serial : Nat) (ending : Ending) : Client :=
  match client.pending.lookup serial with
  | none => client
  | some slot =>
      { client with
        pending := client.pending.erase serial
        completed := client.completed ++ [⟨slot.call, ending⟩] }

/-- Hand a message to the writer; a writer that is gone ends the call. -/
def enqueue (client : Client) (index : Nat) : Client :=
  match client.entered[index]? with
  | none => client
  | some message =>
      let taken := { client with entered := client.entered.eraseIdx index }
      if client.writing then { taken with outbox := taken.outbox ++ [message] }
      else taken.settle message.header.serial .closed

/-- Send a message with no reply expected, a reply of a served method included. -/
def send (client : Client) (message : Message) : Client :=
  let drawn := client.draw message
  if client.writing then
    { drawn with outbox := drawn.outbox ++ [client.numberedMessage message] }
  else drawn

/-- One turn of the writer, and the message it put on the wire. -/
def writerLoop (client : Client) (outcome : WriteOutcome) : Client × Option Message :=
  match client.writing, client.outbox with
  | true, message :: rest =>
      let taken := { client with outbox := rest }
      match outcome with
      | .sent => (taken, some message)
      | .refused reason =>
          -- The refused message was a call: its caller is answered now.
          if message.header.kind = .methodCall then
            (taken.settle message.header.serial (.refused (.protocol reason)), none)
          else (taken, none)
      | .failed => ({ client with outbox := [], writing := false }, none)
  | _, _ => (client, none)

def dispatchReply (client : Client) (parcel : Parcel) (brokered : Bool) : Client :=
  match parcel.message.header.replySerial with
  | none => client
  | some serial =>
      match client.pending.lookup serial with
      | none => client
      | some slot =>
          if slot.waiter.accepts parcel.message brokered then
            let settled := client.settle serial (.reply parcel brokered)
            { settled with
              answered := settled.answered ++ [(slot.call.purpose, parcel.message)] }
          else client

def dispatch (client : Client) (parcel : Parcel) (brokered : Bool) : Client :=
  if client.reading then
    match parcel.message.header.kind with
    | .methodReturn => client.dispatchReply parcel brokered
    | .error => client.dispatchReply parcel brokered
    | _ => client
  else client

def negotiated (client : Client) (waiting : Message) (body : Value) : Client :=
  match Decoder.tryFrom BusName.new body with
  | .error _ => client
  | .ok owner =>
      if owner.isUnique = false then client
      else if waiting.header.expectedResponder.any (fun expected => expected != owner) then
        client
      else
        client.start
          { waiting with header := { waiting.header with expectedResponder := some owner } }
          (some owner) false .plain

def helloed (client : Client) (body : Value) : Client :=
  match Decoder.tryFrom BusName.new body with
  | .error _ => client
  | .ok name => { client with uniqueName := some name }

def resume (client : Client) (index : Nat) : Client :=
  match client.answered[index]? with
  | none => client
  | some (purpose, answer) =>
      let taken := { client with answered := client.answered.eraseIdx index }
      if answer.header.kind = .error then taken
      else
        match purpose with
        | .plain => taken
        | .handshake => taken.helloed answer.body
        | .negotiation waiting => taken.negotiated waiting answer.body

def timeout (client : Client) (serial : Nat) : Client :=
  if client.entered.any (fun message => message.header.serial = serial) then client
  else client.settle serial .timedOut

def readerEnds (client : Client) : Client :=
  { client with
    reading := false
    pending := ∅
    completed := client.completed ++
      client.pending.pairs.map (fun entry => ⟨entry.2.call, .closed⟩) }

end Client

end TinyBus
