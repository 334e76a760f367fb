/-
What a connection sends.  Every public way to send a message, and the answer to
a call that the connection serves, is a program that draws serials, hands
messages to the writer and goes on with what comes back.
-/

import TinyBus.Connection
import TinyBus.Stream
import TinyBus.Library.Dialogue

namespace TinyBus

/-- What the streams of a connection answer a call with, at once or where a write
waited. -/
inductive StreamRegistry.Answers (header : Header) (body : Value) :
    Except Error Value → Prop
  | atOnce {registry after : StreamRegistry} {now : Nat} {order : List String}
      {result : Except Error Value} :
      registry.dispatch now header body order = (.done result, after) →
      Answers header body result
  | atGate {registry after : StreamRegistry} {now : Nat} {id : String}
      {result : Except Error Value} :
      registry.takeGate now id = (.done result, after) → Answers header body result
  | atWindow {registry after : StreamRegistry} {now : Nat} {id : String}
      {result : Except Error Value} :
      registry.send now id = (.done result, after) → Answers header body result

/-- What a program of the connection needs from outside of it.  A message that
is called waits for its reply, one that is posted waits for room at most. -/
inductive Request where
  | serial
  | uniqueName
  | call (message : Message)
  | post (message : Message)
  | streams (header : Header) (body : Value)

def Request.Answer : Request → Type
  | .serial => Nat
  | .uniqueName => Option BusName
  | .call _ => Except Error Message
  | .post _ => Except Error Unit
  | .streams header body =>
      { result : Except Error Value // StreamRegistry.Answers header body result }

/-- The message that a request puts on the wire. -/
def Request.message : Request → Option Message
  | .call message => some message
  | .post message => some message
  | _ => none

abbrev Sending := Dialogue Request Request.Answer Error

def storeInterface : InterfaceName := ⟨"org.example.Store", by rfl⟩

namespace Message

def numbered (message : Message) (serial : Nat) : Message :=
  { message with header := { message.header with serial := serial } }

def expecting (message : Message) (owner : BusName) : Message :=
  { message with header := { message.header with expectedResponder := some owner } }

def confidentialCall (destination : BusName) (path : ObjectPath)
    (interface : InterfaceName) (member : MemberName) (body : Value) : Message :=
  let message := methodCall destination path interface member body
  { message with header := { message.header with confidential := true } }

def sensitiveControlCall (destination : BusName) (path : ObjectPath)
    (interface : InterfaceName) (member : MemberName) (body : Value) : Message :=
  let message := methodCall destination path interface member body
  { message with header := { message.header with sensitive := true } }

def streamingCall (destination : BusName) (path : ObjectPath)
    (interface : InterfaceName) (member : MemberName) (body : Value) : Message :=
  let message := methodCall destination path interface member body
  { message with header := { message.header with streamReply := true } }

def signalTo (destination : BusName) (path : ObjectPath) (interface : InterfaceName)
    (member : MemberName) (body : Value) : Message :=
  let message := signal path interface member body
  { message with header := { message.header with destination := some destination } }

end Message

/-- A handle to a stream open on the receiving peer. -/
structure StreamRef where
  id : String
  contentType : Option String
  len : Option UInt64
  deriving DecidableEq

namespace StreamRef

def fields (handle : StreamRef) : List (String × Value) :=
  ("id", .string handle.id) ::
    (handle.contentType.toList.map (fun text => ("content_type", Value.string text)) ++
      handle.len.toList.map (fun len => ("len", Value.number (.posInt len))))

def toValue (handle : StreamRef) : Value := .object handle.fields

end StreamRef

def StreamDescriptor.toValue (descriptor : StreamDescriptor) : Value :=
  .object
    (descriptor.contentType.toList.map (fun text => ("content_type", Value.string text)) ++
      descriptor.totalLen.toList.map (fun len =>
        ("total_len", Value.number (.posInt (UInt64.ofNat len)))))

/-- The positional array that the protocol wants for a body. -/
def toBody : Value → Value
  | .array items => .array items
  | .null => .array []
  | value => .array [value]

/-- What the program put behind the connection: the objects that answer calls, a
panic that was caught included, and the chunks of an encoded value. -/
structure Service where
  invoke : ObjectPath → InterfaceName → MemberName → Header → Value → Except Error Value
  encode : Value → List Chunk

namespace Sending

def drawSerial : Sending Nat := .ask .serial .done

def uniqueName : Sending (Option BusName) := .ask .uniqueName .done

def exchange (message : Message) : Sending (Except Error Message) :=
  .ask (.call message) .done

def post (message : Message) : Sending (Except Error Unit) :=
  .ask (.post message) .done

def streamAnswer (header : Header) (body : Value) : Sending (Except Error Value) :=
  .ask (.streams header body) (fun answer => .done answer.val)

/-- Hand a message to the writer. -/
def enqueue (message : Message) : Sending Unit := do
  let accepted ← post message
  Dialogue.ofExcept accepted

def transmit (message : Message) : Sending Message := do
  let serial ← drawSerial
  let reply ← exchange (message.numbered serial)
  Dialogue.ofExcept reply

/-- A call to the bus is not one to a name that has to be resolved first. -/
def callBusWithTimeout (member : MemberName) (body : Value) : Sending Value := do
  Dialogue.ofExcept (Client.checkCall (Client.busCall member body))
  let reply ← transmit (Client.busCall member body)
  return reply.body

def resolveCallTarget (destination : BusName) : Sending BusName := do
  let answer ← callBusWithTimeout resolveMember (.array [destination.toValue])
  Dialogue.ofExcept ((Decoder.tryFrom BusName.new answer).mapError .json)

/-- A call that was checked; one to a well-known name asks the bus for its owner
first. -/
def address (message : Message) (named : Bool) : Sending Message :=
  match callTarget named message.header.destination with
  | .negotiate destination => do
      let owner ← resolveCallTarget destination
      if owner.isUnique = false then
        .fail (.protocol "broker returned a non-unique call target")
      else if message.header.expectedResponder.any (fun expected => expected != owner) then
        .fail (.nameHasNoOwner destination)
      else transmit (message.expecting owner)
  | _ => transmit message

def callRawMessage (message : Message) : Sending Message := do
  Dialogue.ofExcept (Client.checkCall message)
  let name ← uniqueName
  address message name.isSome

def callRaw (message : Message) : Sending Value := do
  let reply ← callRawMessage message
  return reply.body

def call (destination : BusName) (path : ObjectPath) (interface : InterfaceName)
    (member : MemberName) (args : Value) : Sending Value :=
  callRaw (.methodCall destination path interface member (toBody args))

def callConfidential (destination : BusName) (path : ObjectPath)
    (interface : InterfaceName) (member : MemberName) (args : Value) : Sending Value :=
  callRaw (.confidentialCall destination path interface member (toBody args))

def callSensitive (destination : BusName) (path : ObjectPath)
    (interface : InterfaceName) (member : MemberName) (args : Value) : Sending Value :=
  callRaw (.sensitiveControlCall destination path interface member (toBody args))

/-- To read a streamed reply sends nothing. -/
def callStreaming (destination : BusName) (path : ObjectPath) (interface : InterfaceName)
    (member : MemberName) (args : Value) : Sending Message :=
  callRawMessage (.streamingCall destination path interface member (toBody args))

def callBus (member : MemberName) (args : Value) : Sending Value :=
  callRaw (Client.busCall member args)

def callBusSensitive (member : MemberName) (args : Value) : Sending Value :=
  callRaw (.sensitiveControlCall busName busPath busInterface member args)

def callStreamMember (destination : BusName) (member : MemberName) (args : Value) :
    Sending Message :=
  callRawMessage (.methodCall destination streamPath streamInterface member args)

/-- The sending half of a stream. -/
structure StreamWriter where
  destination : BusName
  id : String
  contentType : Option String
  declaredLen : Option Nat
  seq : Nat
  sent : Nat

def StreamWriter.streamRef (writer : StreamWriter) : StreamRef :=
  ⟨writer.id, writer.contentType, writer.declaredLen.map UInt64.ofNat⟩

def openStream (destination : BusName) (descriptor : StreamDescriptor) :
    Sending StreamWriter := do
  let reply ← callStreamMember destination openMember (.array [descriptor.toValue])
  let id ← Dialogue.ofExcept ((Decoder.string reply.body).mapError .json)
  return ⟨reply.header.sender.getD destination, id, descriptor.contentType,
    descriptor.totalLen, 0, 0⟩

def countValue (count : Nat) : Value := .number (.posInt (UInt64.ofNat count))

namespace StreamWriter

def writeChunk (writer : StreamWriter) (chunk : Chunk) : Sending StreamWriter := do
  if maxChunkLen < chunk.length then
    .fail (.protocol ("chunk of " ++ toString chunk.length ++ " bytes exceeds the " ++
      toString maxChunkLen ++ "-byte cap"))
  else
    let _ ← callStreamMember writer.destination writeMember
      (.array [.string writer.id, countValue writer.seq, .string (Base64.encode chunk)])
    return { writer with seq := writer.seq + 1, sent := writer.sent + chunk.length }

def writeChunks (writer : StreamWriter) : List Chunk → Sending StreamWriter
  | [] => .done writer
  | chunk :: rest => do
      let written ← writer.writeChunk chunk
      written.writeChunks rest

def write (writer : StreamWriter) (bytes : Chunk) : Sending StreamWriter :=
  writer.writeChunks (bytes.toChunks maxChunkLen)

def finish (writer : StreamWriter) : Sending StreamRef := do
  let _ ← callStreamMember writer.destination closeMember
    (.array [.string writer.id, countValue writer.sent])
  return ⟨writer.id, writer.contentType, some (UInt64.ofNat writer.sent)⟩

/-- Also what a task of its own does for a writer that is dropped unfinished. -/
def abort (writer : StreamWriter) : Sending Unit := do
  let _ ← callStreamMember writer.destination abortMember
    (.array [.string writer.id])
  return ()

end StreamWriter

/-- The call and its payload are in flight together. -/
def callWithStream (destination : BusName) (path : ObjectPath) (interface : InterfaceName)
    (member : MemberName) (args : StreamRef → Value) (bytes : Chunk)
    (turns : List Bool) : Sending Value := do
  let writer ← openStream destination ⟨none, some bytes.length⟩
  let message := Message.methodCall writer.destination path interface member
    (toBody (args writer.streamRef))
  let transfer : Sending StreamRef := do
    let written ← writer.write bytes
    written.finish
  let answered ← Dialogue.together turns (callRaw message) transfer
  return answered.1

/-- A ready message gets its serial and is checked as the broker checks it. -/
def handOver (message : Message) : Sending Unit := do
  let serial ← drawSerial
  Dialogue.ofExcept (message.numbered serial).validate
  enqueue (message.numbered serial)

def send (message : Message) : Sending Unit := handOver message

/-- Where `send` waits for room, this one is refused. -/
def trySend (message : Message) : Sending Unit := handOver message

def emit (path : ObjectPath) (interface : InterfaceName) (member : MemberName)
    (body : Value) : Sending Unit :=
  send (.signal path interface member (toBody body))

def emitTo (destination : BusName) (path : ObjectPath) (interface : InterfaceName)
    (member : MemberName) (body : Value) : Sending Unit :=
  send (.signalTo destination path interface member (toBody body))

def tryEmit (path : ObjectPath) (interface : InterfaceName) (member : MemberName)
    (body : Value) : Sending Unit :=
  trySend (.signal path interface member (toBody body))

def dispatch (service : Service) (header : Header) (body : Value) :
    Sending (Except Error Value) :=
  if StreamRegistry.handles header then streamAnswer header body
  else
    match header.path, header.interface, header.member with
    | some path, some interface, some member =>
        return service.invoke path interface member header body
    | _, _, _ => return .error (.protocol "method call is missing an address")

def sendReply (reply : Message) : Sending Bool := do
  let serial ← drawSerial
  let accepted ← post (reply.numbered serial)
  return accepted.isOk

/-- The object that carries the handle of a streamed reply. -/
def streamReplyEnvelope (handle : StreamRef) : Value :=
  .object [("$tinybus_stream_reply", handle.toValue)]

/-- Once the handle was sent, nothing that fails is reported. -/
def sendStreamedReply (service : Service) (header : Header) (value : Value) :
    Sending Unit := do
  match header.sender <|> header.destination with
  | none => .fail (.protocol "a streamed reply needs a caller")
  | some destination =>
      let chunks := service.encode value
      let writer ← openStream destination
        ⟨some "application/json", some (chunks.map List.length).sum⟩
      let accepted ← sendReply
        (.methodReturn header (streamReplyEnvelope writer.streamRef))
      if accepted then
        let transfer : Sending StreamRef := do
          let written ← writer.writeChunks chunks
          written.finish
        let _ ← transfer.attempt
        return ()
      else return ()

def handleCall (service : Service) (header : Header) (body : Value) : Sending Unit := do
  let result ←
    if header.streamReply && header.confidential then
      (return .error (.protocol "a confidential call cannot request a streamed reply") :
        Sending (Except Error Value))
    else dispatch service header body
  match result with
  | .error error =>
      let _ ← sendReply (.errorReply header error)
      return ()
  | .ok value =>
      if header.streamReply then
        let streamed ← (sendStreamedReply service header value).attempt
        match streamed with
        | .ok _ => return ()
        | .error error =>
            let _ ← sendReply (.errorReply header error)
            return ()
      else
        let _ ← sendReply (.methodReturn header value)
        return ()

end Sending

end TinyBus
