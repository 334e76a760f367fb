/-
Chunks from the serializer to the reader.  The encoder of a reply cuts what is serialized,
and counts what it declares; a writer numbers the chunks of a payload; the receiver puts
them together again.
-/

import TinyBus.StreamTransfers

namespace TinyBus

open TransitionSystem Receiver

theorem StreamRegistry.openStream_ok {registry : StreamRegistry} {now : Nat}
    {sender : Option BusName} {descriptor : StreamDescriptor} {order : List String}
    {id : String}
    (opened : (registry.openStream now sender descriptor order).1 = .ok (.string id)) :
    id = streamId registry.nextId ∧
      (registry.openStream now sender descriptor order).2.limits = registry.limits ∧
      (registry.openStream now sender descriptor order).2.streams.lookup id =
        some (fresh sender descriptor registry.limits now) := by
  unfold openStream at opened ⊢
  dsimp only at opened ⊢
  split at opened
  · cases opened
  · split at opened
    · cases opened
    · rename_i declared room
      cases opened
      rw [if_neg declared, if_neg room]
      refine ⟨rfl, evict_limits _ _, ?_⟩
      rw [Table.lookup_insert_eq, if_pos rfl]

theorem Inbound.fresh_receiving (session : Session) (descriptor : StreamDescriptor)
    (declared : session.declared = descriptor.totalLen) (now : Nat) :
    session.Receiving [] 0 none
      (StreamRegistry.fresh session.sender descriptor session.limits now, .blank) := by
  refine ⟨rfl, declared.symm, rfl, rfl, rfl, rfl, rfl, rfl, rfl, rfl, ?_, ?_, rfl, rfl⟩
  · intro impossible
    cases impossible
  · exact Nat.lt_of_lt_of_le Nat.zero_lt_one (Nat.le_max_right _ _)

theorem Session.open_of_call {before after : StreamState} {header : Header} {body : Value}
    {order : List String} {descriptor : StreamDescriptor} {id : String}
    (reached : StreamState.system.Reachable before)
    (parsed : StreamRegistry.parse header body = .ok (.openStream descriptor))
    (called : StreamState.system.step before (.call header body order) after)
    (answered : before.answer header body order = .done (.ok (.string id))) :
    Session.Open ⟨header.sender, id, before.registry.limits, descriptor.totalLen⟩ [] 0 none
      after := by
  obtain ⟨_, rfl⟩ := called
  have opens : before.answer header body order =
      .done (before.registry.openStream before.now header.sender descriptor order).1 := by
    unfold StreamState.answer StreamRegistry.dispatch
    rw [parsed]
    rfl
  rw [opens, Progress.done.injEq] at answered
  obtain ⟨named, limits, added⟩ := StreamRegistry.openStream_ok answered
  have everywhere : StreamState.Everywhere (fun _ => True) before :=
    StreamState.everywhere_of_moves (fun _ _ _ _ => trivial) (fun _ _ _ held => held)
      (StreamState.unrestricted reached)
  have vacant : before.registry.streams.lookup id = none := by
    cases found : before.registry.streams.lookup id with
    | none => rfl
    | some stream =>
        obtain ⟨number, given, same⟩ := everywhere.numbered id stream found
        have equal := StreamRegistry.streamId_injective (named.symm.trans same)
        omega
  have next : (before.next (.call header body order)).registry =
      (before.registry.openStream before.now header.sender descriptor order).2 := by
    unfold StreamState.next
    dsimp only
    unfold StreamRegistry.dispatch
    rw [parsed]
    rfl
  have unheard : (before.next (.call header body order)).transcripts id = .blank := by
    have silent : before.announced header body = before.transcripts := by
      unfold StreamState.announced
      rw [parsed]
    unfold StreamState.next
    dsimp only
    rw [silent]
    exact everywhere.unheard id vacant
  refine ⟨?_, StreamRegistry.fresh header.sender descriptor before.registry.limits before.now,
    ?_, ?_⟩
  · rw [next]
    exact limits
  · rw [next]
    exact added
  · rw [unheard]
    exact Inbound.fresh_receiving ⟨header.sender, id, before.registry.limits, descriptor.totalLen⟩
      descriptor rfl before.now

/-- What the encoder makes of the writes of a serializer. -/
structure EncodesInChunks (pieces : List (List UInt8)) : Prop where
  succeeds : (StreamReplyEncoder.encode none pieces).1 = .ok ()
  whole : (StreamReplyEncoder.encode none pieces).2.sent.flatten = pieces.flatten
  counted : ∀ recounted counted, recounted.flatten = pieces.flatten →
    CountingWriter.new.writeAll recounted = .ok counted →
      ((StreamReplyEncoder.encode none pieces).2.sent.map List.length).sum =
        counted.total.toNat
  -- Also where the receiver goes away after some chunks.
  sized : ∀ room, ∀ chunk ∈ (StreamReplyEncoder.encode room pieces).2.sent,
    chunk ≠ [] ∧ chunk.length ≤ streamReplyEncodeChunk
  front : ∀ room, (StreamReplyEncoder.encode room pieces).2.sent.flatten <+: pieces.flatten

theorem encodesInChunks (pieces : List (List UInt8)) : EncodesInChunks pieces := by
  have positive : 0 < streamReplyEncodeChunk := by decide
  obtain ⟨succeeds, sent⟩ := StreamReplyEncoder.encode_open pieces
  have chunked := List.toChunks_chunked positive pieces.flatten
  rw [← sent] at chunked
  refine ⟨succeeds, chunked.flatten, ?_, ?_, ?_⟩
  · intro recounted counted same counts
    rw [← List.length_flatten, chunked.flatten, CountingWriter.writeAll_ok counts, same]
    exact (Nat.zero_add _).symm
  · intro room chunk member
    have ended := StreamReplyEncoder.encode_ended room pieces
    unfold StreamReplyEncoder.Ended at ended
    split at ended
    · exact ⟨ended.ne_nil positive member, ended.length_le member⟩
    · have full := ended.full chunk member
      refine ⟨?_, Nat.le_of_eq full⟩
      intro empty
      rw [empty, List.length_nil] at full
      cases full
  · intro room
    have ended := StreamReplyEncoder.encode_ended room pieces
    unfold StreamReplyEncoder.Ended at ended
    split at ended
    · exact ⟨[], (List.append_nil _).trans ended.flatten⟩
    · exact ended.front

open Sending StreamWriter

/-- A writer whose stream was just opened. -/
structure Begins (session : Session) (named : Bool) (writer : StreamWriter)
    (before : Receiver) : Prop where
  direct : Direct named writer.destination
  opened : session.Open [] 0 none before.state
  handle : writer.id = session.id
  seq : writer.seq = 0
  sent : writer.sent = 0
  limited : session.limits.maxStreamLen < UInt64.size

variable {session : Session} {named : Bool} {writer : StreamWriter} {before : Receiver}

theorem Begins.writes (begins : Begins session named writer before) :
    Writes session named writer [] before := by
  obtain ⟨direct, opened, handle, seq, sent, limited⟩ := begins
  rw [← seq] at opened
  exact ⟨direct, opened, handle, sent, Nat.le_of_eq seq, limited,
    ⟨Nat.zero_le _, fun _ _ => Nat.zero_le _⟩⟩

/-- What the receiver makes of a payload: it takes one that fits, and puts it together. -/
structure Reassembles (session : Session) (named : Bool) (writer : StreamWriter)
    (before : Receiver) (pieces : List (List UInt8)) : Prop where
  -- The requests that reach it are in order and numbered, whatever it answers.
  numbered : ∀ after outcome,
    Dialogue.Runs (Receiver.Answers session.sender named) before
      (writer.transfer pieces) after outcome →
      Made before after
        (writeRequests session.id 0 (chunksOf pieces) ++
          [closeRequest session.id pieces.flatten.length]) (∃ handle, outcome = .ok handle)
  sized : ∀ chunk ∈ chunksOf pieces, chunk ≠ [] ∧ chunk.length ≤ maxChunkLen
  whole : (chunksOf pieces).flatten = pieces.flatten
  possible : session.Fits pieces.flatten.length →
    ∃ after handle, Dialogue.Runs (Receiver.Answers session.sender named) before
      (writer.transfer pieces) after (.ok handle)
  accepted : session.Fits pieces.flatten.length → ∀ after outcome,
    Dialogue.Runs (Receiver.Answers session.sender named) before
      (writer.transfer pieces) after outcome →
      (∃ handle, outcome = .ok handle ∧
        handle.len = some (UInt64.ofNat pieces.flatten.length)) ∧
        session.Closed pieces.flatten after.state
  refused : ¬ session.Fits pieces.flatten.length → ∀ after outcome,
    Dialogue.Runs (Receiver.Answers session.sender named) before
      (writer.transfer pieces) after outcome →
      ∃ failure, outcome = .error failure
  -- A reader of it can read to a clean end, and then has all of the payload.
  readable : ∀ state, session.Closed pieces.flatten state →
    (∃ events after, StreamState.quietly.Run state events after ∧
      (after.transcripts session.id).cleanEnd = true) ∧
    ∀ events after, StreamState.quietly.Run state events after →
      (after.transcripts session.id).cleanEnd = true →
        (after.transcripts session.id).delivered = pieces.flatten

theorem Begins.reassembles (begins : Begins session named writer before)
    (pieces : List (List UInt8)) : Reassembles session named writer before pieces := by
  have writes := begins.writes
  refine ⟨?_, chunksOf_sized pieces, chunksOf_flatten pieces, ?_, ?_, ?_, ?_⟩
  · intro after outcome run
    have made := transfer_made begins.direct run
    unfold transferRequests at made
    rw [begins.handle, begins.seq, begins.sent, Nat.zero_add] at made
    exact made
  · intro fits
    exact writes.transfer_runs fits
  · intro fits after outcome run
    exact writes.transfer_taken fits run
  · intro exceeds after outcome run
    exact writes.transfer_refused exceeds run
  · intro state closed
    refine ⟨closed.read, ?_⟩
    intro events after run ended
    exact (closed.meanwhile run).exact ended

/-- Chunks are not empty and not too long, are numbered from zero and are together what was
written, and the receiver puts a payload together exactly if it fits. -/
theorem chunks_reassemble :
    (∀ pieces, EncodesInChunks pieces) ∧
      ∀ session named writer before, Begins session named writer before →
        ∀ pieces, Reassembles session named writer before pieces :=
  ⟨encodesInChunks, fun _ _ _ _ begins pieces => begins.reassembles pieces⟩

def emptySession : Session := ⟨some (BusName.unique 1), "s1", .default, none⟩

def emptyWriter : StreamWriter := ⟨BusName.unique 2, "s1", none, none, 0, 0⟩

def emptyReceiver : Receiver := ⟨StreamState.start.next StreamState.openEmpty, []⟩

theorem emptyWriter_begins : Begins emptySession true emptyWriter emptyReceiver := by
  refine ⟨?_, ?_, rfl, rfl, rfl, by decide⟩
  · intro name negotiates
    have target : callTarget true (some emptyWriter.destination) =
        .responder (BusName.unique 2) := rfl
    rw [target] at negotiates
    cases negotiates
  · have possible : StreamState.start.Possible StreamState.openEmpty := by decide
    exact Session.open_of_call ⟨StreamState.start, [], rfl, .nil⟩ rfl ⟨possible, rfl⟩ rfl

/-- Three bytes in two pieces. -/
theorem threeBytes_reassemble :
    EncodesInChunks [[77], [97, 110]] ∧
      Reassembles emptySession true emptyWriter emptyReceiver [[77], [97, 110]] :=
  ⟨chunks_reassemble.1 _, chunks_reassemble.2 _ _ _ _ emptyWriter_begins _⟩

/-- A payload that is longer than the receiver takes is not put together. -/
theorem oversizedPayload_refused :
    ¬ ∀ session named writer before, Begins session named writer before →
      ∀ pieces : List (List UInt8), ∃ after handle,
        Dialogue.Runs (Receiver.Answers session.sender named) before (writer.transfer pieces) after
          (.ok handle) := by
  intro accepts
  obtain ⟨after, handle, run⟩ := accepts _ _ _ _ emptyWriter_begins
    [List.replicate (256 * 1024 * 1024 + 1) 0]
  have exceeds : ¬ emptySession.Fits
      [List.replicate (256 * 1024 * 1024 + 1) (0 : UInt8)].flatten.length := by
    intro fits
    have capped := fits.1
    rw [List.flatten_singleton, List.length_replicate] at capped
    exact absurd capped (by decide)
  rw [← List.nil_append (List.flatten _)] at exceeds
  obtain ⟨failure, ended⟩ := emptyWriter_begins.writes.transfer_refused exceeds run
  cases ended

end TinyBus
