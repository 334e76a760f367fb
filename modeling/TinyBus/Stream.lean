/-
The bulk streams a connection receives.  A stream is opened, written in
numbered chunks, closed with a total or aborted; its reader takes the chunks
out of a bounded channel and then learns how the stream ended.

An operation runs to its end or to the next place where it waits.  Only a write
waits: for the gate of its stream, and then for room in the window.
-/

import TinyBus.Base64
import TinyBus.Message
import TinyBus.Version
import TinyBus.Library.Table
import Mathlib.Data.List.Sort

namespace TinyBus

def streamInterface : InterfaceName := ⟨"ai.tinyhumans.tinybus.Stream", by rfl⟩

def streamPath : ObjectPath := ⟨"/ai/tinyhumans/tinybus/Stream", by rfl⟩

def openMember : MemberName := ⟨"Open", by rfl⟩
def writeMember : MemberName := ⟨"Write", by rfl⟩
def closeMember : MemberName := ⟨"Close", by rfl⟩
def abortMember : MemberName := ⟨"Abort", by rfl⟩

def maxChunkLen : Nat := 512 * 1024

abbrev Chunk := List UInt8

/-- Durations are in milliseconds. -/
structure StreamLimits where
  maxStreamLen : Nat
  maxStreamsPerPeer : Nat
  windowChunks : Nat
  idleTimeout : Nat
  deriving DecidableEq

def StreamLimits.default : StreamLimits :=
  { maxStreamLen := 256 * 1024 * 1024, maxStreamsPerPeer := 4, windowChunks := 8,
    idleTimeout := 60 * 1000 }

structure StreamDescriptor where
  contentType : Option String
  totalLen : Option Nat
  deriving DecidableEq

inductive Outcome where
  | complete
  | aborted (reason : String)
  deriving DecidableEq

/-- A write with its chunk decoded, and the limits it read when it arrived. -/
structure PendingWrite where
  seq : Nat
  chunk : Chunk
  limits : StreamLimits
  deriving DecidableEq

inductive ReadingHalf where
  | unclaimed
  | claimed
  | dropped
  deriving DecidableEq

/-- One stream being received.  `writing` says that the writing half is still
in place; `sending` is the write that holds the gate and a copy of that half,
and `gate` the writes that wait for it.  `buffered` is what the channel holds. -/
structure Inbound where
  owner : Option BusName
  contentType : Option String
  declaredLen : Option Nat
  nextSeq : Nat
  received : Nat
  writing : Bool
  reader : ReadingHalf
  outcome : Option Outcome
  aborted : Bool
  lastActivity : Nat
  window : Nat
  buffered : List Chunk
  sending : Option PendingWrite
  gate : List PendingWrite
  registered : Bool
  deriving DecidableEq

namespace Inbound

/-- Record how the stream ended, keeping the first verdict. -/
def finish (stream : Inbound) (outcome : Outcome) : Inbound :=
  match stream.outcome with
  | some _ => stream
  | none =>
      { stream with
        outcome := some outcome
        aborted := stream.aborted || outcome ≠ .complete }

def sealed (stream : Inbound) : Inbound := { stream with writing := false }

def touch (now : Nat) (stream : Inbound) : Inbound :=
  { stream with lastActivity := now }

def dropReader (stream : Inbound) : Inbound :=
  match stream.reader with
  | .unclaimed => { stream with reader := .dropped, buffered := [] }
  | _ => stream

/-- The registry forgets the stream, which lives on while a reader or a write
still holds it. -/
def unregister (stream : Inbound) : Inbound := { stream with registered := false }

def killed (reason : String) (stream : Inbound) : Inbound :=
  ((stream.unregister.finish (.aborted reason)).sealed).dropReader

def idleFor (stream : Inbound) (now : Nat) : Nat := now - stream.lastActivity

/-- What a write that holds the gate may not do, and the reason its stream is
killed for where it is. -/
def refusal (stream : Inbound) (write : PendingWrite) :
    Option (Error × Option String) :=
  if !stream.writing then
    some (.streamAborted "the stream is already closed", none)
  else if write.seq ≠ stream.nextSeq then
    some (.protocol "stream chunk arrived out of order",
      some "the sender wrote chunks out of order")
  else if write.limits.maxStreamLen < stream.received + write.chunk.length ∨
      stream.declaredLen.any (fun total =>
        decide (total < stream.received + write.chunk.length)) = true then
    some (.streamTooLarge write.limits.maxStreamLen,
      some "the sender exceeded the length it may write")
  else none

def count (now : Nat) (write : PendingWrite) (stream : Inbound) : Inbound :=
  { stream with
    nextSeq := stream.nextSeq + 1
    received := stream.received + write.chunk.length
    lastActivity := now }

def closed (now totalLen : Nat) (stream : Inbound) : Inbound :=
  ((stream.touch now).finish
    (if stream.received ≠ totalLen then
      .aborted "the sender closed a truncated stream"
    else .complete)).sealed

def abandoned (now : Nat) (stream : Inbound) : Inbound :=
  let ended := ((stream.finish (.aborted "the sender aborted the stream")).touch now).sealed
  if ended.reader = .unclaimed then ended else ended.unregister

def reaped (stream : Inbound) : Inbound :=
  ((stream.unregister.finish (.aborted "the stream went idle and was reaped")).sealed).dropReader

def evicted (stream : Inbound) : Inbound :=
  stream.unregister.finish (.aborted "the receiver never collected the stream")

end Inbound

/-- Every stream one connection has been receiving; the registered ones are
those its map holds. -/
structure StreamRegistry where
  limits : StreamLimits
  streams : Table String Inbound
  nextId : Nat

/-- A call runs to its answer, or waits. -/
inductive Progress where
  | done (result : Except Error Value)
  | waiting

/-- A call of the stream interface, with its arguments read. -/
inductive StreamCall where
  | openStream (descriptor : StreamDescriptor)
  | write (id : String) (seq : Nat) (data : String)
  | close (id : String) (totalLen : Nat)
  | abort (id : String)
  deriving DecidableEq

def streamId (number : Nat) : String := "s" ++ toString number

namespace StreamRegistry

def new : StreamRegistry := { limits := .default, streams := ∅, nextId := 1 }

def handles (header : Header) : Bool :=
  header.interface = some streamInterface && header.path = some streamPath

def decodeDescriptor : Decoder StreamDescriptor
  | .object fields => do
      let contentType ← decodeField fields "content_type" (Decoder.optional Decoder.string)
      let totalLen ← decodeField fields "total_len" (Decoder.optional Decoder.uint64)
      return ⟨contentType.getD none, (totalLen.getD none).map UInt64.toNat⟩
  | .array items => do
      let expected := "struct StreamDescriptor with 2 elements"
      let contentType ← decodeElement items 0
        (Decoder.optional Decoder.string) (some none) expected
      let totalLen ← decodeElement items 1
        (Decoder.optional Decoder.uint64) (some none) expected
      if items.length ≤ 2 then return ⟨contentType, totalLen.map UInt64.toNat⟩
      else throw (invalidLength items.length "fewer elements in array")
  | value => .error (invalidType value "struct StreamDescriptor")

def decodeWrite : Decoder (String × UInt64 × String)
  | .array items => do
      let expected := "a tuple of size 3"
      let id ← decodeElement items 0 Decoder.string none expected
      let seq ← decodeElement items 1 Decoder.uint64 none expected
      let data ← decodeElement items 2 Decoder.string none expected
      if items.length ≤ 3 then return (id, seq, data)
      else throw (invalidLength items.length "fewer elements in array")
  | value => .error (invalidType value "a tuple of size 3")

def parse (header : Header) (body : Value) : Except Error StreamCall :=
  match header.member with
  | none => .error (.protocol "stream call is missing a member")
  | some member =>
      if member.text = "Open" then
        (parseArgs (Decoder.one decodeDescriptor) member body).map .openStream
      else if member.text = "Write" then
        (parseArgs decodeWrite member body).map
          (fun arguments => .write arguments.1 arguments.2.1.toNat arguments.2.2)
      else if member.text = "Close" then
        (parseArgs (Decoder.two Decoder.string Decoder.uint64) member body).map
          (fun arguments => .close arguments.1 arguments.2.toNat)
      else if member.text = "Abort" then
        (parseArgs (Decoder.one Decoder.string) member body).map .abort
      else .error (.unknownMethod (header.interface.getD streamInterface) member)

/-- The registered stream under an id. -/
def get (registry : StreamRegistry) (id : String) : Option Inbound :=
  (registry.streams.lookup id).filter Inbound.registered

/-- The ids of the map. -/
def registered (registry : StreamRegistry) : List String :=
  (registry.streams.pairs.filter (fun entry => entry.2.registered)).map Prod.fst

def modify (registry : StreamRegistry) (id : String) (update : Inbound → Inbound) :
    StreamRegistry :=
  { registry with streams := registry.streams.modify id update }

/-- A stream of another peer is reported as no stream at all. -/
def lookup (registry : StreamRegistry) (id : String) (sender : Option BusName) :
    Except Error Inbound :=
  match registry.get id with
  | none => .error (.unknownStream id)
  | some stream =>
      if stream.owner = sender then .ok stream else .error (.unknownStream id)

def kill (registry : StreamRegistry) (id reason : String) : StreamRegistry :=
  registry.modify id (Inbound.killed reason)

def reap (registry : StreamRegistry) (now : Nat) (limits : StreamLimits) : StreamRegistry :=
  { registry with
    streams := registry.streams.mapValues (fun _ stream =>
      if stream.registered && !decide (stream.idleFor now < limits.idleTimeout) then
        stream.reaped
      else stream) }

/-- The registered streams of one peer, in an order of the map. -/
def owned (registry : StreamRegistry) (sender : Option BusName) (order : List String) :
    List (String × Inbound) :=
  order.filterMap (fun id =>
    ((registry.get id).filter (fun stream => stream.owner = sender)).map (id, ·))

def isLive (entry : String × Inbound) : Bool := entry.2.writing

/-- The streams to forget before a peer that has `count` closed and uncollected
streams may open another: the longest untouched ones. -/
def evictions (closed : List (String × Inbound)) (limit : Nat) : List String :=
  if closed.length < limit then []
  else
    ((closed.map (fun entry => (entry.1, entry.2.lastActivity))).insertionSort
      (fun left right => left.2 ≤ right.2)).take (closed.length + 1 - limit) |>.map Prod.fst

def evict (registry : StreamRegistry) (ids : List String) : StreamRegistry :=
  ids.foldl (fun registry id => registry.modify id Inbound.evicted) registry

def fresh (sender : Option BusName) (descriptor : StreamDescriptor) (limits : StreamLimits)
    (now : Nat) : Inbound :=
  { owner := sender, contentType := descriptor.contentType,
    declaredLen := descriptor.totalLen, nextSeq := 0, received := 0, writing := true,
    reader := .unclaimed, outcome := none, aborted := false, lastActivity := now,
    window := max limits.windowChunks 1, buffered := [], sending := none, gate := [],
    registered := true }

/-- `order` is the order in which the map of streams is iterated. -/
def openStream (registry : StreamRegistry) (now : Nat) (sender : Option BusName)
    (descriptor : StreamDescriptor) (order : List String) :
    Except Error Value × StreamRegistry :=
  let limits := registry.limits
  if descriptor.totalLen.any (fun total => decide (limits.maxStreamLen < total)) = true then
    (.error (.streamTooLarge limits.maxStreamLen), registry)
  else
    let id := streamId registry.nextId
    let reaped := { registry with nextId := registry.nextId + 1 }.reap now limits
    let owned := reaped.owned sender order
    if limits.maxStreamsPerPeer ≤ (owned.filter isLive).length then
      (.error (.tooManyStreams limits.maxStreamsPerPeer), reaped)
    else
      let kept := reaped.evict
        (evictions (owned.filter (fun entry => !isLive entry)) limits.maxStreamsPerPeer)
      (.ok (.string id),
        { kept with streams := kept.streams.insert id (fresh sender descriptor limits now) })

/-- A write that holds the gate: it is refused, or its chunk is counted and it
goes on to wait for the window. -/
def enter (registry : StreamRegistry) (now : Nat) (id : String) (stream : Inbound)
    (write : PendingWrite) : Progress × StreamRegistry :=
  match stream.refusal write with
  | some (error, some reason) => (.done (.error error), registry.kill id reason)
  | some (error, none) => (.done (.error error), registry)
  | none =>
      if stream.aborted then
        (.done (.error (.streamAborted "the sender aborted the stream")),
          registry.modify id (Inbound.count now write))
      else
        (.waiting, registry.modify id (fun stream =>
          { stream.count now write with sending := some write }))

def write (registry : StreamRegistry) (now : Nat) (sender : Option BusName) (id : String)
    (seq : Nat) (data : String) : Progress × StreamRegistry :=
  match registry.lookup id sender with
  | .error error => (.done (.error error), registry)
  | .ok stream =>
      match Base64.decode data with
      | .error error => (.done (.error error), registry)
      | .ok chunk =>
          if maxChunkLen < chunk.length then
            (.done (.error (.protocol ("chunk of " ++ toString chunk.length ++
              " bytes exceeds the " ++ toString maxChunkLen ++ "-byte cap"))),
              registry.kill id "the sender exceeded the chunk cap")
          else
            let write : PendingWrite := ⟨seq, chunk, registry.limits⟩
            if stream.sending = none ∧ stream.gate = [] then
              registry.enter now id stream write
            else
              (.waiting, registry.modify id (fun stream =>
                { stream with gate := stream.gate ++ [write] }))

def takeGate (registry : StreamRegistry) (now : Nat) (id : String) :
    Progress × StreamRegistry :=
  match registry.streams.lookup id with
  | none => (.waiting, registry)
  | some stream =>
      match stream.sending, stream.gate with
      | none, write :: rest =>
          let passed := registry.modify id (fun stream => { stream with gate := rest })
          passed.enter now id { stream with gate := rest } write
      | _, _ => (.waiting, registry)

/-- The write that holds the gate looks at the channel: an abort and a reader
that is gone end it, room in the window completes it. -/
def send (registry : StreamRegistry) (now : Nat) (id : String) : Progress × StreamRegistry :=
  match registry.streams.lookup id with
  | none => (.waiting, registry)
  | some stream =>
      match stream.sending with
      | none => (.waiting, registry)
      | some write =>
          let released := registry.modify id (fun stream => { stream with sending := none })
          if stream.aborted then
            (.done (.error (.streamAborted "the sender aborted the stream")), released)
          else if stream.reader = .dropped then
            (.done (.error (.streamAborted "the receiver stopped reading")),
              released.kill id "the receiver stopped reading")
          else if stream.buffered.length < stream.window then
            (.done (.ok .null), released.modify id (fun stream =>
              { stream with
                buffered := stream.buffered ++ [write.chunk], lastActivity := now }))
          else (.waiting, registry)

def close (registry : StreamRegistry) (now : Nat) (sender : Option BusName) (id : String)
    (totalLen : Nat) : Except Error Value × StreamRegistry :=
  match registry.lookup id sender with
  | .error error => (.error error, registry)
  | .ok stream =>
      (if stream.received ≠ totalLen then
        .error (.protocol ("stream closed after " ++ toString stream.received ++
          " bytes, " ++ toString totalLen ++ " declared"))
      else .ok .null,
        registry.modify id (Inbound.closed now totalLen))

def abort (registry : StreamRegistry) (now : Nat) (sender : Option BusName) (id : String) :
    Except Error Value × StreamRegistry :=
  match registry.lookup id sender with
  | .error error => (.error error, registry)
  | .ok _ => (.ok .null, registry.modify id (Inbound.abandoned now))

def perform (registry : StreamRegistry) (now : Nat) (sender : Option BusName)
    (order : List String) : StreamCall → Progress × StreamRegistry
  | .openStream descriptor =>
      let answered := registry.openStream now sender descriptor order
      (.done answered.1, answered.2)
  | .write id seq data => registry.write now sender id seq data
  | .close id totalLen =>
      let answered := registry.close now sender id totalLen
      (.done answered.1, answered.2)
  | .abort id =>
      let answered := registry.abort now sender id
      (.done answered.1, answered.2)

/-- Run one call against the stream interface. -/
def dispatch (registry : StreamRegistry) (now : Nat) (header : Header) (body : Value)
    (order : List String) : Progress × StreamRegistry :=
  match parse header body with
  | .error error => (.done (.error error), registry)
  | .ok call => registry.perform now header.sender order call

/-- What a `StreamReader` needs of its stream. -/
structure StreamReader where
  id : String
  contentType : Option String
  declaredLen : Option Nat
  idleTimeout : Nat
  deriving DecidableEq

def takeReaderInner (registry : StreamRegistry) (id : String)
    (expectedOwner : Option (Option BusName)) : Except Error StreamReader × StreamRegistry :=
  match registry.get id with
  | none => (.error (.unknownStream id), registry)
  | some stream =>
      if expectedOwner.any (fun owner => stream.owner ≠ owner) = true then
        (.error (.protocol "a streamed reply handle belongs to another peer"), registry)
      else
        let passed := if stream.writing then registry else registry.modify id .unregister
        if stream.reader = .unclaimed then
          (.ok ⟨id, stream.contentType, stream.declaredLen, registry.limits.idleTimeout⟩,
            passed.modify id (fun stream => { stream with reader := .claimed }))
        else
          (.error (.streamAborted "the stream is already being read"), passed)

def takeReader (registry : StreamRegistry) (id : String) :
    Except Error StreamReader × StreamRegistry :=
  registry.takeReaderInner id none

def takeReaderFrom (registry : StreamRegistry) (id : String) (owner : Option BusName) :
    Except Error StreamReader × StreamRegistry :=
  registry.takeReaderInner id (some owner)

def takeReaderOpenedBy (registry : StreamRegistry) (id : String) (opener : BusName) :
    Except Error StreamReader × StreamRegistry :=
  match registry.get id with
  | none => (.error (.unknownStream id), registry)
  | some stream =>
      if stream.owner = some opener then registry.takeReaderInner id none
      else (.error (.unknownStream id), registry)

end StreamRegistry

def Inbound.ending (stream : Inbound) : Except Error (Option Chunk) :=
  match stream.outcome with
  | some .complete => .ok none
  | some (.aborted reason) => .error (.streamAborted reason)
  | none => .error (.streamAborted "the connection closed mid-stream")

/-- One poll of `next_chunk`, where `timedOut` says that its deadline passed.
The channel is closed once the writing half and every copy of it are gone. -/
def Inbound.nextChunk (stream : Inbound) (timedOut : Bool) :
    Option (Except Error (Option Chunk)) × Inbound :=
  match stream.buffered with
  | chunk :: rest => (some (.ok (some chunk)), { stream with buffered := rest })
  | [] =>
      if !stream.writing && stream.sending = none then (some stream.ending, stream)
      else if timedOut then
        (some (.error (.streamAborted "the stream went idle while being read")), stream)
      else (none, stream)

end TinyBus
