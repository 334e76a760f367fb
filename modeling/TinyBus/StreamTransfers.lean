/-
A payload that a stream writer sends, and the streams of the peer that receives it.  The
writer is a program; its calls reach the peer one after another, each once the one before it
is answered, while readers take what has arrived.
-/

import TinyBus.SendingPaths
import TinyBus.StreamReplyEncoding
import TinyBus.StreamSessions

namespace TinyBus

open TransitionSystem

/-! ### Calls that reach a receiver -/

/-- The streams of the receiving peer, and the calls that reached it: each with its member
and its body. -/
structure Receiver where
  state : StreamState
  calls : List (Option MemberName × Value)

namespace Receiver

/-- A call from its arrival to its answer. -/
inductive Answered (header : Header) (body : Value) :
    StreamState → Except Error Value → StreamState → Prop
  | atOnce {before after : StreamState} {order : List String} {result : Except Error Value}
      (called : StreamState.system.step before (.call header body order) after)
      (answered : before.answer header body order = .done result) :
      Answered header body before result after
  | atWindow {before entered waiting after : StreamState} {order : List String}
      {id data : String} {seq : Nat} {events : List StreamEvent} {result : Except Error Value}
      (called : StreamState.system.step before (.call header body order) entered)
      (waits : before.answer header body order = .waiting)
      (written : StreamRegistry.parse header body = .ok (.write id seq data))
      (meanwhile : StreamState.quietly.Run entered events waiting)
      (pushed : StreamState.system.step waiting (.send id) after)
      (answered : (waiting.registry.send waiting.now id).1 = .done result) :
      Answered header body before result after

def Replies : Except Error Value → Except Error Message → Prop
  | .ok value, .ok reply => reply.body = value
  | .error _, .error _ => True
  | _, _ => False

/-- What the program of the sender is answered, and what its calls do to the receiver. -/
def Answers (sender : Option BusName) (named : Bool) (before : Receiver) :
    (request : Request) → request.Answer → Receiver → Prop
  | .serial, _, after => after = before
  | .uniqueName, name, after => after = before ∧ Option.isSome name = named
  | .call message, answer, after =>
      ∃ events arrived result, StreamState.quietly.Run before.state events arrived ∧
        Answered { message.header with sender := sender } message.body arrived result
          after.state ∧
        Replies result answer ∧
        after.calls = before.calls ++ [(message.header.member, message.body)]
  | .post _, _, _ => False
  | .streams _ _, _, _ => False

end Receiver

namespace Sending

variable {sender : Option BusName} {named : Bool} {before after : Receiver}
  {destination : BusName} {member : MemberName} {args : Value}

def Direct (named : Bool) (destination : BusName) : Prop :=
  ∀ name, callTarget named (some destination) ≠ .negotiate name

def streamMessage (destination : BusName) (member : MemberName) (args : Value) : Message :=
  .methodCall destination streamPath streamInterface member args

theorem callStreamMember_eq (destination : BusName) (member : MemberName) (args : Value) :
    callStreamMember destination member args =
      .ask .uniqueName (fun name =>
        address (streamMessage destination member args) (Option.isSome name)) := by
  have checked : Client.checkCall (streamMessage destination member args) = .ok () := rfl
  unfold callStreamMember callRawMessage
  unfold streamMessage at checked
  rw [checked]
  rfl

theorem address_eq (direct : Direct named destination) :
    address (streamMessage destination member args) named =
      .ask .serial (fun serial =>
        .ask (.call ((streamMessage destination member args).numbered serial))
          (fun reply => Dialogue.ofExcept reply)) := by
  unfold address
  split
  · rename_i name target
    exact absurd target (direct name)
  · rfl

theorem runs_callStreamMember_iff (direct : Direct named destination)
    {outcome : Except Error Message} :
    Dialogue.Runs (Receiver.Answers sender named) before
        (callStreamMember destination member args) after outcome ↔
      ∃ serial, Receiver.Answers sender named before
        (.call ((streamMessage destination member args).numbered serial)) outcome after := by
  rw [callStreamMember_eq]
  constructor
  · intro run
    obtain ⟨name, known, ⟨rfl, same⟩, numbers⟩ := run.ask_inv
    rw [same, address_eq direct] at numbers
    obtain ⟨serial, numbered, rfl, calls⟩ := numbers.ask_inv
    obtain ⟨answer, between, answered, ends⟩ := calls.ask_inv
    obtain ⟨rfl, rfl⟩ := Dialogue.Runs.ofExcept_iff.mp ends
    exact ⟨serial, answered⟩
  · rintro ⟨serial, answered⟩
    have name : ∃ name : Option BusName, name.isSome = named := by
      cases named with
      | true => exact ⟨some destination, rfl⟩
      | false => exact ⟨none, rfl⟩
    obtain ⟨name, same⟩ := name
    have known : Receiver.Answers sender named before .uniqueName name before := ⟨rfl, same⟩
    have numbered : Receiver.Answers sender named before .serial serial before := rfl
    refine .ask known ?_
    rw [same, address_eq direct]
    exact .ask numbered (.ask answered (Dialogue.Runs.ofExcept_iff.mpr ⟨rfl, rfl⟩))

/-! ### One chunk -/

theorem parse_write {header : Header} (member : header.member = some writeMember)
    (id : String) {seq : Nat} (small : seq < UInt64.size) (data : String) :
    StreamRegistry.parse header (.array [.string id, countValue seq, .string data]) =
      .ok (.write id seq data) := by
  have same : (UInt64.ofNat seq).toNat = seq := UInt64.toNat_ofNat_of_lt' small
  have read : StreamRegistry.parse header (.array [.string id, countValue seq, .string data]) =
      .ok (.write id (UInt64.ofNat seq).toNat data) := by
    unfold StreamRegistry.parse
    rw [member]
    rfl
  rw [read, same]

theorem parse_close {header : Header} (member : header.member = some closeMember)
    (id : String) {total : Nat} (small : total < UInt64.size) :
    StreamRegistry.parse header (.array [.string id, countValue total]) =
      .ok (.close id total) := by
  have same : (UInt64.ofNat total).toNat = total := UInt64.toNat_ofNat_of_lt' small
  have read : StreamRegistry.parse header (.array [.string id, countValue total]) =
      .ok (.close id (UInt64.ofNat total).toNat) := by
    unfold StreamRegistry.parse
    rw [member]
    rfl
  rw [read, same]

/-! ### One request -/

namespace StreamWriter

def writeRequest (id : String) (seq : Nat) (chunk : Chunk) : Option MemberName × Value :=
  (some writeMember,
    .array [.string id, countValue seq, .string (Base64.encode chunk)])

def closeRequest (id : String) (total : Nat) : Option MemberName × Value :=
  (some closeMember, .array [.string id, countValue total])

def writeRequests (id : String) : Nat → List Chunk → List (Option MemberName × Value)
  | _, [] => []
  | seq, chunk :: rest => writeRequest id seq chunk :: writeRequests id (seq + 1) rest

end StreamWriter

end Sending

namespace Session

open Receiver Sending

variable {session : Session} {named : Bool} {before after : Receiver}
  {destination : BusName} {written : List UInt8} {count : Nat} {chunk : Chunk} {serial : Nat}
  {answer : Except Error Message}

section Arrived

variable {arrived left : StreamState} {header : Header} {body : Value} {data : String}
  {result : Except Error Value}

theorem Open.write_answered (opened : session.Open written count none arrived)
    (parsed : StreamRegistry.parse header body = .ok (.write session.id count data))
    (sent : header.sender = session.sender) (decoded : Base64.decode data = .ok chunk)
    (small : chunk.length ≤ maxChunkLen) (fits : session.Fits (written.length + chunk.length))
    (answered : Answered header body arrived result left) :
    result = .ok .null ∧ session.Open (written ++ chunk) (count + 1) none left := by
  cases answered with
  | atOnce called done =>
      rw [(opened.write_waits parsed sent decoded small fits _).1] at done
      cases done
  | atWindow called waits known meanwhile pushed done =>
      rw [parsed] at known
      cases known
      rename_i order events
      obtain ⟨_, rfl⟩ := called
      obtain ⟨_, rfl⟩ := pushed
      have entered := (opened.write_waits parsed sent decoded small fits order).2
      exact (entered.meanwhile meanwhile).send.1 result done

theorem Open.write_rejected (opened : session.Open written count none arrived)
    (parsed : StreamRegistry.parse header body = .ok (.write session.id count data))
    (sent : header.sender = session.sender) (decoded : Base64.decode data = .ok chunk)
    (small : chunk.length ≤ maxChunkLen)
    (exceeds : ¬ session.Fits (written.length + chunk.length))
    (answered : Answered header body arrived result left) : ∃ error, result = .error error := by
  cases answered with
  | atOnce called done =>
      obtain ⟨error, refused⟩ := opened.write_refused parsed sent decoded small exceeds _
      rw [refused, Progress.done.injEq] at done
      exact ⟨error, done.symm⟩
  | atWindow called waits known meanwhile pushed done =>
      obtain ⟨error, refused⟩ := opened.write_refused parsed sent decoded small exceeds _
      rw [refused] at waits
      cases waits

theorem Open.write_answerable (opened : session.Open written count none arrived)
    (handled : StreamRegistry.handles header = true)
    (parsed : StreamRegistry.parse header body = .ok (.write session.id count data))
    (sent : header.sender = session.sender) (decoded : Base64.decode data = .ok chunk)
    (small : chunk.length ≤ maxChunkLen)
    (fits : session.Fits (written.length + chunk.length)) :
    ∃ left, Answered header body arrived (.ok .null) left := by
  obtain ⟨waits, entered⟩ := opened.write_waits parsed sent decoded small fits
    arrived.registry.registered
  obtain ⟨events, waiting, stream, drains, found, empty⟩ := entered.drained
  have room : stream.buffered.length < stream.window := by
    obtain ⟨current, present, receiving⟩ := (entered.meanwhile drains).stream
    rw [found, Option.some.injEq] at present
    subst present
    rw [empty]
    exact receiving.room
  have pushes := (entered.meanwhile drains).send.2 stream found room
  exact ⟨_, .atWindow ⟨⟨handled, List.Perm.refl _⟩, rfl⟩ waits parsed drains ⟨trivial, rfl⟩ pushes⟩

theorem Open.close_answered (opened : session.Open written count none arrived)
    (parsed : StreamRegistry.parse header body = .ok (.close session.id written.length))
    (sent : header.sender = session.sender) (answered : Answered header body arrived result left) :
    result = .ok .null ∧ session.Closed written left := by
  cases answered with
  | atOnce called done =>
      obtain ⟨succeeds, closed⟩ := opened.close parsed sent _
      rw [succeeds, Progress.done.injEq] at done
      obtain ⟨_, rfl⟩ := called
      exact ⟨done.symm, closed⟩
  | atWindow called waits impossible meanwhile pushed done =>
      rw [parsed] at impossible
      cases impossible

theorem Open.close_answerable (opened : session.Open written count none arrived)
    (handled : StreamRegistry.handles header = true)
    (parsed : StreamRegistry.parse header body = .ok (.close session.id written.length))
    (sent : header.sender = session.sender) :
    ∃ left, Answered header body arrived (.ok .null) left :=
  ⟨_, .atOnce ⟨⟨handled, List.Perm.refl _⟩, rfl⟩ (opened.close parsed sent _).1⟩

end Arrived

end Session

/-! ### The program of a writer -/

namespace Sending

open Receiver

variable {sender : Option BusName} {named : Bool} {before after : Receiver}
  {destination : BusName} {member : MemberName} {args : Value}

theorem runs_called_iff {Result : Type} {result : Result} (direct : Direct named destination)
    {outcome : Except Error Result} :
    Dialogue.Runs (Receiver.Answers sender named) before
        (callStreamMember destination member args >>= fun _ => .done result) after outcome ↔
      ∃ serial answer, Receiver.Answers sender named before
        (.call ((streamMessage destination member args).numbered serial)) answer after ∧
          outcome = answer.map (fun _ => result) := by
  constructor
  · intro run
    rcases run.andThen_inv with ⟨failure, called, rfl⟩ | ⟨between, reply, called, ends⟩
    · obtain ⟨serial, answered⟩ := (runs_callStreamMember_iff direct).mp called
      exact ⟨serial, .error failure, answered, rfl⟩
    · obtain ⟨serial, answered⟩ := (runs_callStreamMember_iff direct).mp called
      cases ends
      exact ⟨serial, .ok reply, answered, rfl⟩
  · rintro ⟨serial, answer, answered, rfl⟩
    have called := (runs_callStreamMember_iff direct).mpr ⟨serial, answered⟩
    cases answer with
    | ok reply => exact called.andThen .done
    | error failure => exact called.andThen_fail

namespace StreamWriter

variable {sender : Option BusName} {named : Bool} {before after : Receiver}
  {writer : StreamWriter} {chunk : Chunk} {chunks : List Chunk}

def advanced (writer : StreamWriter) (chunks : List Chunk) : StreamWriter :=
  { writer with
    seq := writer.seq + chunks.length, sent := writer.sent + chunks.flatten.length }

theorem writeChunk_eq (small : chunk.length ≤ maxChunkLen) :
    writer.writeChunk chunk =
      (callStreamMember writer.destination writeMember
        (writeRequest writer.id writer.seq chunk).2 >>= fun _ =>
          .done (writer.advanced [chunk])) := by
  have once : writer.advanced [chunk] =
      { writer with seq := writer.seq + 1, sent := writer.sent + chunk.length } := by
    unfold advanced
    rw [List.flatten_singleton, List.length_singleton]
  unfold writeChunk
  rw [if_neg (Nat.not_lt.mpr small), once]
  rfl

theorem finish_eq (writer : StreamWriter) :
    writer.finish =
      (callStreamMember writer.destination closeMember
        (closeRequest writer.id writer.sent).2 >>= fun _ =>
          .done ⟨writer.id, writer.contentType, some (UInt64.ofNat writer.sent)⟩) := rfl

/-! ### Which requests are made -/

/-- The sizes of the chunks that a writer sends. -/
def Sized (chunks : List Chunk) : Prop :=
  ∀ chunk ∈ chunks, chunk ≠ [] ∧ chunk.length ≤ maxChunkLen

structure Made (before after : Receiver) (requests : List (Option MemberName × Value))
    (whole : Prop) : Prop where
  front : ∃ made, made <+: requests ∧ after.calls = before.calls ++ made
  all : whole → after.calls = before.calls ++ requests

theorem writeChunk_made (direct : Direct named writer.destination)
    (small : chunk.length ≤ maxChunkLen) {outcome : Except Error StreamWriter}
    (run : Dialogue.Runs (Receiver.Answers sender named) before
      (writer.writeChunk chunk) after outcome) :
    after.calls = before.calls ++ [writeRequest writer.id writer.seq chunk] ∧
      ∀ next, outcome = .ok next → next = writer.advanced [chunk] := by
  rw [writeChunk_eq small] at run
  obtain ⟨serial, answer, ⟨_, _, _, _, _, _, calls⟩, rfl⟩ := (runs_called_iff direct).mp run
  refine ⟨calls, ?_⟩
  intro next succeeded
  cases answer with
  | ok reply =>
      cases succeeded
      rfl
  | error failure => cases succeeded

theorem advanced_cons (writer : StreamWriter) (chunk : Chunk) (chunks : List Chunk) :
    (writer.advanced [chunk]).advanced chunks = writer.advanced (chunk :: chunks) := by
  unfold advanced
  simp only [List.length_cons, List.flatten_cons, List.length_append, List.length_nil,
    List.flatten_nil, StreamWriter.mk.injEq, true_and]
  omega

theorem writeChunks_made (direct : Direct named writer.destination) (sized : Sized chunks)
    {outcome : Except Error StreamWriter}
    (run : Dialogue.Runs (Receiver.Answers sender named) before (writer.writeChunks chunks) after
      outcome) :
    Made before after (writeRequests writer.id writer.seq chunks)
        (∃ next, outcome = .ok next) ∧
      ∀ next, outcome = .ok next → next = writer.advanced chunks := by
  induction chunks generalizing writer before with
  | nil =>
      cases run
      refine ⟨⟨⟨[], List.prefix_refl _, (List.append_nil _).symm⟩, fun _ =>
        (List.append_nil _).symm⟩, ?_⟩
      intro next ended
      cases ended
      rfl
  | cons chunk rest ih =>
      have small := (sized chunk List.mem_cons_self).2
      unfold writeRequests
      rcases run.andThen_inv with ⟨failure, wrote, rfl⟩ | ⟨between, next, wrote, goes⟩
      · obtain ⟨calls, _⟩ := writeChunk_made direct small wrote
        refine ⟨⟨⟨[_], ?_, calls⟩, nofun⟩, nofun⟩
        exact List.prefix_append [writeRequest writer.id writer.seq chunk] _
      · obtain ⟨calls, ended⟩ := writeChunk_made direct small wrote
        obtain rfl := ended next rfl
        have onward : Direct named (writer.advanced [chunk]).destination := direct
        obtain ⟨⟨⟨made, front, reached⟩, all⟩, ends⟩ := ih onward
          (fun other member => sized other (List.mem_cons_of_mem _ member)) goes
        refine ⟨⟨⟨_ :: made, List.cons_prefix_cons.mpr ⟨rfl, front⟩, ?_⟩, ?_⟩, ?_⟩
        · rw [reached, calls, List.append_assoc]
          rfl
        · intro whole
          rw [all whole, calls, List.append_assoc]
          rfl
        · intro next ended
          rw [ends next ended, advanced_cons]

/-! ### What the receiver makes of them -/

structure Writes (session : Session) (named : Bool) (writer : StreamWriter)
    (written : List UInt8) (before : Receiver) : Prop where
  direct : Direct named writer.destination
  opened : session.Open written writer.seq none before.state
  named : writer.id = session.id
  counted : writer.sent = written.length
  numbered : writer.seq ≤ written.length
  -- The receiver's limit is a number of 64 bits.
  limited : session.limits.maxStreamLen < UInt64.size
  fits : session.Fits written.length

variable {session : Session} {written : List UInt8}

theorem Writes.small (writes : Writes session named writer written before) :
    writer.seq < UInt64.size ∧ written.length < UInt64.size := by
  have capped := writes.fits.1
  have limited := writes.limited
  have numbered := writes.numbered
  omega

/-- The header of a write as it arrives. -/
def writeHeader (sender : Option BusName) (writer : StreamWriter) (chunk : Chunk)
    (serial : Nat) : Header :=
  { ((streamMessage writer.destination writeMember
      (writeRequest writer.id writer.seq chunk).2).numbered serial).header with sender := sender }

theorem Writes.parsed (writes : Writes session named writer written before) (chunk : Chunk)
    (serial : Nat) :
    StreamRegistry.parse (writeHeader session.sender writer chunk serial)
      (writeRequest writer.id writer.seq chunk).2 =
        .ok (.write session.id writer.seq (Base64.encode chunk)) := by
  rw [← writes.named]
  exact parse_write rfl writer.id writes.small.1 (Base64.encode chunk)

theorem replies_error {error : Error} {answer : Except Error Message}
    (replies : Replies (.error error) answer) : ∃ failure, answer = .error failure := by
  cases answer with
  | ok reply => cases replies
  | error failure => exact ⟨failure, rfl⟩

theorem replies_ok {value : Value} {answer : Except Error Message}
    (replies : Replies (.ok value) answer) : ∃ reply, answer = .ok reply := by
  cases answer with
  | ok reply => exact ⟨reply, rfl⟩
  | error failure => cases replies

theorem Writes.chunk_taken (writes : Writes session named writer written before)
    (some : chunk ≠ []) (small : chunk.length ≤ maxChunkLen)
    (fits : session.Fits (written.length + chunk.length)) {outcome : Except Error StreamWriter}
    (run : Dialogue.Runs (Receiver.Answers session.sender named) before
      (writer.writeChunk chunk) after outcome) :
    outcome = .ok (writer.advanced [chunk]) ∧
      Writes session named (writer.advanced [chunk]) (written ++ chunk) after := by
  rw [writeChunk_eq small] at run
  obtain ⟨serial, answer, answered, rfl⟩ := (runs_called_iff writes.direct).mp run
  obtain ⟨events, arrived, result, meanwhile, runs, replies, _⟩ := answered
  obtain ⟨succeeds, opened⟩ := (writes.opened.meanwhile meanwhile).write_answered
    (writes.parsed chunk serial) rfl (Base64.decode_encode chunk) small fits runs
  rw [succeeds] at replies
  obtain ⟨reply, rfl⟩ := replies_ok replies
  have nonempty := List.length_pos_of_ne_nil some
  have numbered := writes.numbered
  have counted := writes.counted
  refine ⟨rfl, writes.direct, opened, writes.named, ?_, ?_, writes.limited, ?_⟩
  · unfold advanced
    rw [List.flatten_singleton, List.length_append, counted]
  · change writer.seq + 1 ≤ (written ++ chunk).length
    rw [List.length_append]
    omega
  · rw [List.length_append]
    exact fits

theorem Writes.chunk_refused (writes : Writes session named writer written before)
    (small : chunk.length ≤ maxChunkLen)
    (exceeds : ¬ session.Fits (written.length + chunk.length))
    {outcome : Except Error StreamWriter}
    (run : Dialogue.Runs (Receiver.Answers session.sender named) before
      (writer.writeChunk chunk) after outcome) : ∃ failure, outcome = .error failure := by
  rw [writeChunk_eq small] at run
  obtain ⟨serial, answer, answered, rfl⟩ := (runs_called_iff writes.direct).mp run
  obtain ⟨events, arrived, result, meanwhile, runs, replies, _⟩ := answered
  obtain ⟨error, rfl⟩ := (writes.opened.meanwhile meanwhile).write_rejected
    (writes.parsed chunk serial) rfl (Base64.decode_encode chunk) small exceeds runs
  obtain ⟨failure, rfl⟩ := replies_error replies
  exact ⟨failure, rfl⟩

theorem Writes.chunk_runs (writes : Writes session named writer written before)
    (small : chunk.length ≤ maxChunkLen)
    (fits : session.Fits (written.length + chunk.length)) :
    ∃ after, Dialogue.Runs (Receiver.Answers session.sender named) before
      (writer.writeChunk chunk) after (.ok (writer.advanced [chunk])) := by
  obtain ⟨left, answered⟩ := writes.opened.write_answerable rfl (writes.parsed chunk 0) rfl
    (Base64.decode_encode chunk) small fits
  have reply : ∃ reply : Message, reply.body = .null := ⟨.methodReturn (.blank .methodCall) .null, rfl⟩
  obtain ⟨reply, body⟩ := reply
  rw [writeChunk_eq small]
  exact ⟨⟨left, _⟩, (runs_called_iff writes.direct).mpr
    ⟨0, .ok reply, ⟨[], before.state, .ok .null, .nil, answered, body, rfl⟩, rfl⟩⟩

theorem Writes.chunks_taken (writes : Writes session named writer written before)
    (sized : Sized chunks) (fits : session.Fits (written ++ chunks.flatten).length)
    {outcome : Except Error StreamWriter}
    (run : Dialogue.Runs (Receiver.Answers session.sender named) before
      (writer.writeChunks chunks) after outcome) :
    outcome = .ok (writer.advanced chunks) ∧
      Writes session named (writer.advanced chunks) (written ++ chunks.flatten) after := by
  induction chunks generalizing writer written before with
  | nil =>
      cases run
      rw [List.flatten_nil, List.append_nil]
      exact ⟨rfl, writes⟩
  | cons chunk rest ih =>
      have size := sized chunk List.mem_cons_self
      have first : session.Fits (written.length + chunk.length) := by
        refine fits.mono ?_
        rw [List.flatten_cons, List.length_append, List.length_append]
        omega
      rw [List.flatten_cons, ← List.append_assoc] at fits ⊢
      rcases run.andThen_inv with ⟨failure, wrote, rfl⟩ | ⟨between, next, wrote, goes⟩
      · cases (writes.chunk_taken size.1 size.2 first wrote).1
      · obtain ⟨ended, onward⟩ := writes.chunk_taken size.1 size.2 first wrote
        cases ended
        rw [← advanced_cons]
        exact ih onward (fun other member => sized other (List.mem_cons_of_mem _ member)) fits goes

theorem Writes.chunks_refused (writes : Writes session named writer written before)
    (sized : Sized chunks) (exceeds : ¬ session.Fits (written ++ chunks.flatten).length)
    {outcome : Except Error StreamWriter}
    (run : Dialogue.Runs (Receiver.Answers session.sender named) before
      (writer.writeChunks chunks) after outcome) : ∃ failure, outcome = .error failure := by
  induction chunks generalizing writer written before with
  | nil =>
      rw [List.flatten_nil, List.append_nil] at exceeds
      exact absurd writes.fits exceeds
  | cons chunk rest ih =>
      have size := sized chunk List.mem_cons_self
      rw [List.flatten_cons, ← List.append_assoc] at exceeds
      rcases run.andThen_inv with ⟨failure, wrote, rfl⟩ | ⟨between, next, wrote, goes⟩
      · exact ⟨failure, rfl⟩
      · by_cases first : session.Fits (written.length + chunk.length)
        · obtain ⟨ended, onward⟩ := writes.chunk_taken size.1 size.2 first wrote
          cases ended
          exact ih onward (fun other member => sized other (List.mem_cons_of_mem _ member))
            exceeds goes
        · obtain ⟨failure, ended⟩ := writes.chunk_refused size.2 first wrote
          cases ended

theorem Writes.chunks_run (writes : Writes session named writer written before)
    (sized : Sized chunks) (fits : session.Fits (written ++ chunks.flatten).length) :
    ∃ after, Dialogue.Runs (Receiver.Answers session.sender named) before
      (writer.writeChunks chunks) after (.ok (writer.advanced chunks)) := by
  induction chunks generalizing writer written before with
  | nil => exact ⟨before, .done⟩
  | cons chunk rest ih =>
      have size := sized chunk List.mem_cons_self
      have first : session.Fits (written.length + chunk.length) := by
        refine fits.mono ?_
        rw [List.flatten_cons, List.length_append, List.length_append]
        omega
      rw [List.flatten_cons, ← List.append_assoc] at fits
      obtain ⟨between, wrote⟩ := writes.chunk_runs size.2 first
      obtain ⟨_, onward⟩ := writes.chunk_taken size.1 size.2 first wrote
      obtain ⟨after, goes⟩ := ih onward
        (fun other member => sized other (List.mem_cons_of_mem _ member)) fits
      rw [advanced_cons] at goes
      exact ⟨after, wrote.andThen goes⟩

/-! ### A whole payload -/

/-- The pieces of a payload, one `write` after another. -/
def writePieces (writer : StreamWriter) : List (List UInt8) → Sending StreamWriter
  | [] => .done writer
  | piece :: rest => do
      let written ← writer.write piece
      written.writePieces rest

/-- Write a payload and close its stream. -/
def transfer (writer : StreamWriter) (pieces : List (List UInt8)) : Sending StreamRef := do
  let written ← writer.writePieces pieces
  written.finish

def chunksOf (pieces : List (List UInt8)) : List Chunk :=
  pieces.flatMap (List.toChunks maxChunkLen)

theorem chunksOf_sized (pieces : List (List UInt8)) : Sized (chunksOf pieces) := by
  have positive : 0 < maxChunkLen := by decide
  intro chunk member
  obtain ⟨piece, _, within⟩ := List.mem_flatMap.mp member
  have chunked := List.toChunks_chunked positive piece
  exact ⟨chunked.ne_nil positive within, chunked.length_le within⟩

theorem chunksOf_flatten (pieces : List (List UInt8)) :
    (chunksOf pieces).flatten = pieces.flatten := by
  have positive : 0 < maxChunkLen := by decide
  induction pieces with
  | nil => rfl
  | cons piece rest ih =>
      unfold chunksOf at ih ⊢
      rw [List.flatMap_cons, List.flatten_append, ih,
        (List.toChunks_chunked positive piece).flatten, List.flatten_cons]

theorem writeChunks_append (writer : StreamWriter) (early late : List Chunk) :
    writer.writeChunks (early ++ late) =
      writer.writeChunks early >>= fun written => written.writeChunks late := by
  induction early generalizing writer with
  | nil => rfl
  | cons chunk rest ih =>
      have goes : (fun written : StreamWriter => written.writeChunks (rest ++ late)) =
          fun written => written.writeChunks rest >>= fun last => last.writeChunks late :=
        funext ih
      have first (chunks : List Chunk) : writer.writeChunks (chunk :: chunks) =
          writer.writeChunk chunk >>= fun written => written.writeChunks chunks := rfl
      rw [List.cons_append, first, first, goes, Dialogue.andThen_assoc]

theorem writePieces_eq (writer : StreamWriter) (pieces : List (List UInt8)) :
    writer.writePieces pieces = writer.writeChunks (chunksOf pieces) := by
  induction pieces generalizing writer with
  | nil => rfl
  | cons piece rest ih =>
      have first : writer.writePieces (piece :: rest) =
          writer.write piece >>= fun written => written.writePieces rest := rfl
      have goes : (fun written : StreamWriter => written.writePieces rest) =
          fun written => written.writeChunks (chunksOf rest) := funext ih
      have cut : chunksOf (piece :: rest) = piece.toChunks maxChunkLen ++ chunksOf rest :=
        List.flatMap_cons
      rw [first, goes, cut, writeChunks_append]
      rfl

def transferRequests (writer : StreamWriter) (pieces : List (List UInt8)) :
    List (Option MemberName × Value) :=
  writeRequests writer.id writer.seq (chunksOf pieces) ++
    [closeRequest writer.id (writer.sent + pieces.flatten.length)]

variable {pieces : List (List UInt8)} {outcome : Except Error StreamRef}

theorem transfer_made (direct : Direct named writer.destination)
    (run : Dialogue.Runs (Receiver.Answers sender named) before
      (writer.transfer pieces) after outcome) :
    Made before after (writer.transferRequests pieces) (∃ handle, outcome = .ok handle) := by
  unfold transferRequests
  rw [← chunksOf_flatten pieces]
  rcases run.andThen_inv with ⟨failure, wrote, rfl⟩ | ⟨between, next, wrote, closes⟩
  · rw [writePieces_eq] at wrote
    obtain ⟨⟨⟨made, front, calls⟩, _⟩, _⟩ := writeChunks_made direct (chunksOf_sized pieces) wrote
    exact ⟨⟨made, front.trans (List.prefix_append _ _), calls⟩, nofun⟩
  · rw [writePieces_eq] at wrote
    obtain ⟨⟨_, all⟩, ended⟩ := writeChunks_made direct (chunksOf_sized pieces) wrote
    obtain rfl := ended next rfl
    have earlier := all ⟨_, rfl⟩
    rw [finish_eq] at closes
    have onward : Direct named (writer.advanced (chunksOf pieces)).destination := direct
    obtain ⟨serial, answer, ⟨_, _, _, _, _, _, calls⟩, _⟩ := (runs_called_iff onward).mp closes
    rw [earlier, List.append_assoc] at calls
    exact ⟨⟨_, List.prefix_refl _, calls⟩, fun _ => calls⟩

theorem Writes.close_parsed (writes : Writes session named writer written before)
    (serial : Nat) :
    StreamRegistry.parse
      { ((streamMessage writer.destination closeMember
          (closeRequest writer.id writer.sent).2).numbered serial).header with
        sender := session.sender }
      (closeRequest writer.id writer.sent).2 = .ok (.close session.id written.length) := by
  have small : writer.sent < UInt64.size := by
    rw [writes.counted]
    exact writes.small.2
  rw [← writes.named, ← writes.counted]
  exact parse_close rfl writer.id small

theorem Writes.finish_taken (writes : Writes session named writer written before)
    (run : Dialogue.Runs (Receiver.Answers session.sender named) before
      writer.finish after outcome) :
    (∃ handle, outcome = .ok handle ∧ handle.len = some (UInt64.ofNat written.length)) ∧
      session.Closed written after.state := by
  rw [finish_eq] at run
  obtain ⟨serial, answer, answered, rfl⟩ := (runs_called_iff writes.direct).mp run
  obtain ⟨events, arrived, result, meanwhile, runs, replies, _⟩ := answered
  obtain ⟨succeeds, closed⟩ := (writes.opened.meanwhile meanwhile).close_answered
    (writes.close_parsed serial) rfl runs
  rw [succeeds] at replies
  obtain ⟨reply, rfl⟩ := replies_ok replies
  refine ⟨⟨_, rfl, ?_⟩, closed⟩
  dsimp only
  rw [writes.counted]

theorem Writes.finish_runs (writes : Writes session named writer written before) :
    ∃ after handle, Dialogue.Runs (Receiver.Answers session.sender named) before writer.finish after
      (.ok handle) := by
  obtain ⟨left, answered⟩ := writes.opened.close_answerable rfl (writes.close_parsed 0) rfl
  have reply : ∃ reply : Message, reply.body = .null :=
    ⟨.methodReturn (.blank .methodCall) .null, rfl⟩
  obtain ⟨reply, body⟩ := reply
  rw [finish_eq]
  exact ⟨⟨left, _⟩, _, (runs_called_iff writes.direct).mpr
    ⟨0, .ok reply, ⟨[], before.state, .ok .null, .nil, answered, body, rfl⟩, rfl⟩⟩

theorem Writes.transfer_taken (writes : Writes session named writer written before)
    (fits : session.Fits (written ++ pieces.flatten).length)
    (run : Dialogue.Runs (Receiver.Answers session.sender named) before
      (writer.transfer pieces) after outcome) :
    (∃ handle, outcome = .ok handle ∧
      handle.len = some (UInt64.ofNat (written ++ pieces.flatten).length)) ∧
      session.Closed (written ++ pieces.flatten) after.state := by
  rw [← chunksOf_flatten pieces] at fits ⊢
  rcases run.andThen_inv with ⟨failure, wrote, rfl⟩ | ⟨between, next, wrote, closes⟩
  · rw [writePieces_eq] at wrote
    cases (writes.chunks_taken (chunksOf_sized pieces) fits wrote).1
  · rw [writePieces_eq] at wrote
    obtain ⟨ended, onward⟩ := writes.chunks_taken (chunksOf_sized pieces) fits wrote
    cases ended
    exact onward.finish_taken closes

theorem Writes.transfer_refused (writes : Writes session named writer written before)
    (exceeds : ¬ session.Fits (written ++ pieces.flatten).length)
    (run : Dialogue.Runs (Receiver.Answers session.sender named) before
      (writer.transfer pieces) after outcome) : ∃ failure, outcome = .error failure := by
  rw [← chunksOf_flatten pieces] at exceeds
  rcases run.andThen_inv with ⟨failure, wrote, rfl⟩ | ⟨between, next, wrote, closes⟩
  · exact ⟨failure, rfl⟩
  · rw [writePieces_eq] at wrote
    obtain ⟨failure, ended⟩ := writes.chunks_refused (chunksOf_sized pieces) exceeds wrote
    cases ended

theorem Writes.transfer_runs (writes : Writes session named writer written before)
    (fits : session.Fits (written ++ pieces.flatten).length) :
    ∃ after handle, Dialogue.Runs (Receiver.Answers session.sender named) before
      (writer.transfer pieces) after (.ok handle) := by
  rw [← chunksOf_flatten pieces] at fits
  obtain ⟨between, wrote⟩ := writes.chunks_run (chunksOf_sized pieces) fits
  obtain ⟨_, onward⟩ := writes.chunks_taken (chunksOf_sized pieces) fits wrote
  obtain ⟨after, handle, closes⟩ := onward.finish_runs
  rw [← writePieces_eq] at wrote
  exact ⟨after, handle, wrote.andThen closes⟩

end StreamWriter

end Sending

end TinyBus
