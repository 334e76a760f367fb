/-
How a streamed reply is encoded.  The value is serialized twice, first into a counter whose
total the stream declares, then into an encoder that hands on chunks of one size.  A
serializer makes writes of any sizes; what comes out depends on all that was written and
not on how it was cut.
-/

import TinyBus.Stream
import TinyBus.Library.Chunks

namespace TinyBus

def streamReplyEncodeChunk : Nat := 16 * 1024

structure CountingWriter where
  total : UInt64
  deriving DecidableEq

namespace CountingWriter

def new : CountingWriter := ⟨0⟩

/-- The addition is checked. -/
def write (counter : CountingWriter) (bytes : List UInt8) : Except String CountingWriter :=
  if UInt64.size ≤ counter.total.toNat + bytes.length then
    .error "streamed reply length overflow"
  else .ok ⟨UInt64.ofNat (counter.total.toNat + bytes.length)⟩

def writeAll (counter : CountingWriter) : List (List UInt8) → Except String CountingWriter
  | [] => .ok counter
  | piece :: rest => do
      let counted ← counter.write piece
      counted.writeAll rest

theorem write_ok {counter counted : CountingWriter} {bytes : List UInt8}
    (wrote : counter.write bytes = .ok counted) :
    counted.total.toNat = counter.total.toNat + bytes.length := by
  unfold write at wrote
  split at wrote
  · cases wrote
  · rename_i fits
    cases wrote
    exact UInt64.toNat_ofNat_of_lt' (Nat.lt_of_not_le fits)

theorem writeAll_ok {counter counted : CountingWriter} {pieces : List (List UInt8)}
    (wrote : counter.writeAll pieces = .ok counted) :
    counted.total.toNat = counter.total.toNat + pieces.flatten.length := by
  induction pieces generalizing counter with
  | nil =>
      cases wrote
      rfl
  | cons piece rest ih =>
      unfold writeAll at wrote
      cases first : counter.write piece with
      | error failure =>
          rw [first] at wrote
          cases wrote
      | ok between =>
          rw [first] at wrote
          rw [ih wrote, write_ok first, List.flatten_cons, List.length_append, Nat.add_assoc]

end CountingWriter

/-- The encoder and the channel it sends to.  `room` is how many chunks more the receiver
takes before it is gone, where it goes; between two writes the buffer is not full. -/
structure StreamReplyEncoder where
  room : Option Nat
  sent : List Chunk
  buffer : Chunk
  unfilled : buffer.length < streamReplyEncodeChunk

namespace StreamReplyEncoder

def new (room : Option Nat) : StreamReplyEncoder :=
  { room := room, sent := [], buffer := [], unfilled := by decide }

/-- Send what the buffer holds by now. -/
def sendBuffer (encoder : StreamReplyEncoder) (buffer : Chunk) :
    Except String Unit × StreamReplyEncoder :=
  if buffer = [] then (.ok (), encoder)
  else
    match encoder.room with
    | some 0 =>
        (.error "stream receiver closed",
          { encoder with buffer := [], unfilled := by decide })
    | room =>
        (.ok (),
          { room := room.map (· - 1), sent := encoder.sent ++ [buffer], buffer := [],
            unfilled := by decide })

variable {encoder : StreamReplyEncoder} {written : List UInt8}

theorem buffer_unfilled {bytes : List UInt8}
    (short : (encoder.buffer ++ bytes.take (min (streamReplyEncodeChunk - encoder.buffer.length)
      bytes.length)).length ≠ streamReplyEncodeChunk) :
    (encoder.buffer ++ bytes.take (min (streamReplyEncodeChunk - encoder.buffer.length)
      bytes.length)).length < streamReplyEncodeChunk := by
  have before := encoder.unfilled
  rw [List.length_append, List.length_take] at short ⊢
  omega

/-- The loop of `write`. -/
def fill (encoder : StreamReplyEncoder) (bytes : List UInt8) :
    Except String Unit × StreamReplyEncoder :=
  if _ : bytes = [] then (.ok (), encoder)
  else
    let available := streamReplyEncodeChunk - encoder.buffer.length
    let take := min available bytes.length
    let buffer := encoder.buffer ++ bytes.take take
    if full : buffer.length = streamReplyEncodeChunk then
      match encoder.sendBuffer buffer with
      | (.error failure, after) => (.error failure, after)
      | (.ok _, after) => after.fill (bytes.drop take)
    else
      let extended : StreamReplyEncoder :=
        { encoder with buffer := buffer, unfilled := buffer_unfilled full }
      extended.fill (bytes.drop take)
termination_by bytes.length
decreasing_by
  all_goals
    have before := encoder.unfilled
    have some := List.length_pos_of_ne_nil ‹¬ bytes = []›
    rw [List.length_drop]
    omega

def write (encoder : StreamReplyEncoder) (bytes : List UInt8) :
    Except String Nat × StreamReplyEncoder :=
  let written := bytes.length
  let filled := encoder.fill bytes
  (filled.1.map (fun _ => written), filled.2)

def flush (encoder : StreamReplyEncoder) : Except String Unit × StreamReplyEncoder :=
  encoder.sendBuffer encoder.buffer

def writeAll (encoder : StreamReplyEncoder) :
    List (List UInt8) → Except String Unit × StreamReplyEncoder
  | [] => (.ok (), encoder)
  | piece :: rest =>
      match encoder.write piece with
      | (.error failure, after) => (.error failure, after)
      | (.ok _, after) => after.writeAll rest

/-- The value is serialized and what is left is flushed. -/
def encode (room : Option Nat) (pieces : List (List UInt8)) :
    Except String Unit × StreamReplyEncoder :=
  match (new room).writeAll pieces with
  | (.error failure, after) => (.error failure, after)
  | (.ok _, after) => after.flush

structure Emitted (encoder : StreamReplyEncoder) (written : List UInt8) : Prop where
  full : ∀ chunk ∈ encoder.sent, chunk.length = streamReplyEncodeChunk
  whole : encoder.sent.flatten ++ encoder.buffer = written

structure Cut (encoder : StreamReplyEncoder) (written : List UInt8) : Prop where
  full : ∀ chunk ∈ encoder.sent, chunk.length = streamReplyEncodeChunk
  front : encoder.sent.flatten <+: written

theorem Cut.append (cut : encoder.Cut written)
    (more : List UInt8) : encoder.Cut (written ++ more) :=
  ⟨cut.full, cut.front.trans (List.prefix_append _ _)⟩

def Wrote {Result : Type} (result : Except String Result × StreamReplyEncoder)
    (written : List UInt8) : Prop :=
  match result.1 with
  | .ok _ => result.2.Emitted written
  | .error _ => result.2.Cut written

theorem sendBuffer_wrote {buffer : List UInt8}
    (full : ∀ chunk ∈ encoder.sent, chunk.length = streamReplyEncodeChunk)
    (filled : buffer.length = streamReplyEncodeChunk)
    (whole : encoder.sent.flatten ++ buffer = written) :
    Wrote (encoder.sendBuffer buffer) written := by
  have some : buffer ≠ [] := by
    intro empty
    rw [empty] at filled
    cases filled
  unfold sendBuffer
  rw [if_neg some]
  split
  · refine ⟨full, ?_⟩
    rw [← whole]
    exact List.prefix_append _ _
  · refine ⟨?_, ?_⟩
    · intro chunk member
      rcases List.mem_append.mp member with early | last
      · exact full chunk early
      · rw [List.mem_singleton.mp last]
        exact filled
    · dsimp only
      rw [List.flatten_append, List.flatten_singleton, List.append_nil]
      exact whole

theorem fill_wrote (emitted : encoder.Emitted written) (bytes : List UInt8) :
    Wrote (encoder.fill bytes) (written ++ bytes) := by
  induction encoder, bytes using fill.induct generalizing written with
  | case1 encoder =>
      unfold fill
      rw [dif_pos rfl, List.append_nil]
      exact emitted
  | case2 encoder bytes more available take buffer full failure after =>
      rename_i sent
      have wrote : Wrote (encoder.sendBuffer buffer) (written ++ bytes.take take) :=
        sendBuffer_wrote emitted.full full (by rw [← emitted.whole, List.append_assoc])
      unfold fill
      rw [dif_neg more]
      dsimp only
      rw [dif_pos full, sent]
      rw [sent] at wrote
      have cut := wrote.append (bytes.drop take)
      rw [List.append_assoc, List.take_append_drop] at cut
      exact cut
  | case3 encoder bytes more available take buffer full _ after =>
      rename_i sent ih
      have wrote : Wrote (encoder.sendBuffer buffer) (written ++ bytes.take take) :=
        sendBuffer_wrote emitted.full full (by rw [← emitted.whole, List.append_assoc])
      unfold fill
      rw [dif_neg more]
      dsimp only
      rw [dif_pos full, sent]
      rw [sent] at wrote
      have rest := ih wrote
      rw [List.append_assoc, List.take_append_drop] at rest
      exact rest
  | case4 encoder bytes more available take buffer short extended =>
      rename_i ih
      have kept : extended.Emitted (written ++ bytes.take take) := by
        refine ⟨emitted.full, ?_⟩
        rw [← emitted.whole, List.append_assoc]
      unfold fill
      rw [dif_neg more]
      dsimp only
      rw [dif_neg short]
      have rest := ih kept
      rw [List.append_assoc, List.take_append_drop] at rest
      exact rest

theorem write_wrote (emitted : encoder.Emitted written) (bytes : List UInt8) :
    Wrote (encoder.write bytes) (written ++ bytes) := by
  have wrote := fill_wrote emitted bytes
  unfold Wrote at wrote
  unfold write Wrote
  dsimp only
  cases filled : (encoder.fill bytes).1 with
  | ok _ =>
      rw [filled] at wrote
      exact wrote
  | error failure =>
      rw [filled] at wrote
      exact wrote

theorem writeAll_wrote (emitted : encoder.Emitted written) (pieces : List (List UInt8)) :
    Wrote (encoder.writeAll pieces) (written ++ pieces.flatten) := by
  induction pieces generalizing encoder written with
  | nil =>
      rw [List.flatten_nil, List.append_nil]
      exact emitted
  | cons piece rest ih =>
      have first := write_wrote emitted piece
      unfold writeAll
      rw [List.flatten_cons, ← List.append_assoc]
      generalize encoder.write piece = wrote at first
      obtain ⟨result, after⟩ := wrote
      cases result with
      | error failure => exact Cut.append first rest.flatten
      | ok _ => exact ih first

/-- How an encoder ends: all that was written is handed on in chunks, or it is cut short
by a receiver that is gone. -/
def Ended (result : Except String Unit × StreamReplyEncoder) (written : List UInt8) : Prop :=
  match result.1 with
  | .ok _ => Chunked streamReplyEncodeChunk written result.2.sent
  | .error _ => result.2.Cut written

theorem flush_ended (emitted : encoder.Emitted written) : Ended encoder.flush written := by
  unfold flush sendBuffer
  by_cases empty : encoder.buffer = []
  · have chunked := Chunked.append emitted.full .nil
    rw [List.append_nil, List.append_nil] at chunked
    have all := emitted.whole
    rw [empty, List.append_nil] at all
    rw [if_pos empty, ← all]
    exact chunked
  · rw [if_neg empty]
    split
    · refine ⟨emitted.full, ?_⟩
      rw [← emitted.whole]
      exact List.prefix_append _ _
    · have last : Chunked streamReplyEncodeChunk encoder.buffer [encoder.buffer] :=
        .last empty (Nat.le_of_lt encoder.unfilled)
      rw [← emitted.whole]
      exact Chunked.append emitted.full last

theorem encode_ended (room : Option Nat) (pieces : List (List UInt8)) :
    Ended (encode room pieces) pieces.flatten := by
  have begins : (new room).Emitted [] := ⟨fun _ none => (List.not_mem_nil none).elim, rfl⟩
  have wrote := writeAll_wrote begins pieces
  rw [List.nil_append] at wrote
  unfold encode
  generalize (new room).writeAll pieces = written at wrote
  obtain ⟨result, after⟩ := written
  cases result with
  | error failure => exact wrote
  | ok _ => exact flush_ended wrote

def Stays {Result : Type} (result : Except String Result × StreamReplyEncoder) : Prop :=
  result.2.room = none ∧ ∃ value, result.1 = .ok value

theorem sendBuffer_stays (open' : encoder.room = none)
    (buffer : Chunk) : Stays (encoder.sendBuffer buffer) := by
  unfold sendBuffer
  split
  · exact ⟨open', (), rfl⟩
  · rw [open']
    exact ⟨rfl, (), rfl⟩

theorem fill_stays (open' : encoder.room = none)
    (bytes : List UInt8) : Stays (encoder.fill bytes) := by
  induction encoder, bytes using fill.induct with
  | case1 encoder =>
      unfold fill
      rw [dif_pos rfl]
      exact ⟨open', (), rfl⟩
  | case2 encoder bytes more available take buffer full failure after =>
      rename_i sent
      obtain ⟨_, value, succeeded⟩ := sendBuffer_stays open' buffer
      rw [sent] at succeeded
      cases succeeded
  | case3 encoder bytes more available take buffer full _ after =>
      rename_i sent ih
      have stays := sendBuffer_stays open' buffer
      unfold fill
      rw [dif_neg more]
      dsimp only
      rw [dif_pos full, sent]
      rw [sent] at stays
      exact ih stays.1
  | case4 encoder bytes more available take buffer short extended =>
      rename_i ih
      unfold fill
      rw [dif_neg more]
      dsimp only
      rw [dif_neg short]
      exact ih open'

theorem writeAll_stays (open' : encoder.room = none)
    (pieces : List (List UInt8)) : Stays (encoder.writeAll pieces) := by
  induction pieces generalizing encoder with
  | nil => exact ⟨open', (), rfl⟩
  | cons piece rest ih =>
      have wrote : Stays (encoder.write piece) := by
        obtain ⟨stays, value, succeeded⟩ := fill_stays open' piece
        refine ⟨stays, piece.length, ?_⟩
        unfold write
        dsimp only
        rw [succeeded]
        rfl
      unfold writeAll
      generalize encoder.write piece = written at wrote
      obtain ⟨result, after⟩ := written
      obtain ⟨stays, value, succeeded⟩ := wrote
      dsimp only at succeeded
      subst succeeded
      exact ih stays

theorem encode_open (pieces : List (List UInt8)) :
    (encode none pieces).1 = .ok () ∧
      (encode none pieces).2.sent = pieces.flatten.toChunks streamReplyEncodeChunk := by
  have positive : 0 < streamReplyEncodeChunk := by decide
  have begins : (new none).Emitted [] := ⟨fun _ none => (List.not_mem_nil none).elim, rfl⟩
  have succeeded : (encode none pieces).1 = .ok () := by
    have stays : Stays ((new none).writeAll pieces) := writeAll_stays rfl pieces
    unfold encode
    generalize (new none).writeAll pieces = written at stays
    obtain ⟨result, after⟩ := written
    obtain ⟨stays, value, wrote⟩ := stays
    dsimp only at wrote
    subst wrote
    obtain ⟨_, _, flushed⟩ := sendBuffer_stays stays after.buffer
    exact flushed
  have ends := encode_ended none pieces
  unfold Ended at ends
  rw [succeeded] at ends
  exact ⟨succeeded, ends.unique positive (List.toChunks_chunked positive _)⟩

end StreamReplyEncoder

end TinyBus
