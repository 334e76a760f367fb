/-
One stream between its open and its close, as long as nobody but its writer and its reader
touch it.  The bytes that were accepted are those the reader was given, those in the channel
and those of the write that waits for room.
-/

import TinyBus.CanonicalBase64
import TinyBus.CloseVerdicts

namespace TinyBus

open TransitionSystem

inductive Inbound.Read : Inbound × Transcript → Inbound × Transcript → Prop
  | unseen {entry : Inbound × Transcript} : Read entry entry
  | unregister {stream : Inbound} {transcript : Transcript} (closed : stream.writing = false)
      (taken : stream.reader ≠ .unclaimed) :
      Read (stream, transcript) (stream.unregister, transcript)
  | claim {stream : Inbound} {transcript : Transcript}
      (unclaimed : stream.reader = .unclaimed) :
      Read (stream, transcript) ({ stream with reader := .claimed }, transcript)
  | collect {stream : Inbound} {transcript : Transcript} (closed : stream.writing = false)
      (unclaimed : stream.reader = .unclaimed) :
      Read (stream, transcript) ({ stream.unregister with reader := .claimed }, transcript)
  | poll {stream : Inbound} {transcript : Transcript} (timedOut : Bool)
      (claimed : stream.reader = .claimed) :
      Read (stream, transcript)
        ((stream.nextChunk timedOut).2, transcript.observe (stream.nextChunk timedOut).1)

namespace StreamRegistry

theorem modify_lookup (registry : StreamRegistry) (id other : String)
    (update : Inbound → Inbound) :
    (registry.modify id update).streams.lookup other =
      if other = id then (registry.streams.lookup other).map update
      else registry.streams.lookup other := by
  unfold modify
  dsimp only
  split
  · rename_i same
    rw [same, Table.lookup_modify_self]
  · rename_i different
    rw [Table.lookup_modify_of_ne _ _ different]

theorem takeReaderInner_limits (registry : StreamRegistry) (id : String)
    (expected : Option (Option BusName)) :
    (registry.takeReaderInner id expected).2.limits = registry.limits := by
  unfold takeReaderInner
  split
  · rfl
  · split
    · rfl
    · dsimp only
      split <;> split <;> rfl

theorem takeReaderInner_reads (registry : StreamRegistry) (id : String)
    (expected : Option (Option BusName)) {other : String} {stream : Inbound}
    (found : registry.streams.lookup other = some stream) (transcript : Transcript) :
    ∃ changed, (registry.takeReaderInner id expected).2.streams.lookup other = some changed ∧
      Inbound.Read (stream, transcript) (changed, transcript) := by
  unfold takeReaderInner
  split
  · exact ⟨stream, found, .unseen⟩
  · rename_i known got
    split
    · exact ⟨stream, found, .unseen⟩
    · dsimp only
      by_cases same : other = id
      · subst same
        have present := get_some got
        rw [found, Option.some.injEq] at present
        subst present
        cases writing : stream.writing with
        | true =>
            rw [if_pos rfl]
            split
            · rename_i unclaimed
              refine ⟨_, ?_, .claim unclaimed⟩
              rw [modify_lookup, if_pos rfl, found]
              rfl
            · exact ⟨stream, found, .unseen⟩
        | false =>
            rw [if_neg Bool.false_ne_true]
            split
            · rename_i unclaimed
              refine ⟨_, ?_, .collect writing unclaimed⟩
              rw [modify_lookup, if_pos rfl, modify_lookup, if_pos rfl, found]
              rfl
            · rename_i taken
              refine ⟨_, ?_, .unregister writing taken⟩
              rw [modify_lookup, if_pos rfl, found]
              rfl
      · refine ⟨stream, ?_, .unseen⟩
        split <;> split <;> simp only [modify_lookup, if_neg same, found]

theorem claim_limits (registry : StreamRegistry) (id : String) (how : Claim) :
    (registry.claim id how).2.limits = registry.limits := by
  cases how with
  | any => exact takeReaderInner_limits registry id none
  | ownedBy owner => exact takeReaderInner_limits registry id (some owner)
  | openedBy opener =>
      unfold claim takeReaderOpenedBy
      dsimp only
      split
      · rfl
      · split
        · exact takeReaderInner_limits registry id none
        · rfl

theorem claim_reads (registry : StreamRegistry) (id : String) (how : Claim) {other : String}
    {stream : Inbound} (found : registry.streams.lookup other = some stream)
    (transcript : Transcript) :
    ∃ changed, (registry.claim id how).2.streams.lookup other = some changed ∧
      Inbound.Read (stream, transcript) (changed, transcript) := by
  cases how with
  | any => exact takeReaderInner_reads registry id none found transcript
  | ownedBy owner => exact takeReaderInner_reads registry id (some owner) found transcript
  | openedBy opener =>
      unfold claim takeReaderOpenedBy
      dsimp only
      split
      · exact ⟨stream, found, .unseen⟩
      · split
        · exact takeReaderInner_reads registry id none found transcript
        · exact ⟨stream, found, .unseen⟩

end StreamRegistry

namespace StreamState

/-- Readers come and read, and time passes. -/
def Quiet : StreamEvent → Prop
  | .claim _ _ | .poll _ _ | .elapse _ => True
  | _ => False

def quietly : System StreamState StreamEvent := system.restrict (fun _ event => Quiet event)

theorem read_of_quiet {before after : StreamState} {event : StreamEvent}
    (stepped : quietly.step before event after) :
    after.registry.limits = before.registry.limits ∧
      ∀ id stream, before.registry.streams.lookup id = some stream →
        ∃ changed, after.registry.streams.lookup id = some changed ∧
          Inbound.Read (stream, before.transcripts id) (changed, after.transcripts id) := by
  obtain ⟨quiet, possible, rfl⟩ := stepped
  cases event with
  | claim id how =>
      refine ⟨StreamRegistry.claim_limits before.registry id how, ?_⟩
      intro other stream found
      exact StreamRegistry.claim_reads before.registry id how found (before.transcripts other)
  | poll id timedOut =>
      refine ⟨rfl, ?_⟩
      intro other stream found
      obtain ⟨polled, present, claimed⟩ := Option.map_eq_some_iff.mp possible
      unfold next observed
      dsimp only
      rw [present, StreamRegistry.modify_lookup]
      dsimp only
      by_cases same : other = id
      · subst same
        rw [found, Option.some.injEq] at present
        subst present
        refine ⟨_, by rw [if_pos rfl, found]; rfl, ?_⟩
        rw [Function.update_self]
        exact .poll timedOut claimed
      · refine ⟨stream, by rw [if_neg same, found], ?_⟩
        rw [Function.update_of_ne same]
        exact .unseen
  | elapse duration => exact ⟨rfl, fun _ stream found => ⟨stream, found, .unseen⟩⟩
  | call _ _ _ => cases quiet
  | takeGate _ => cases quiet
  | send _ => cases quiet
  | dropReader _ => cases quiet
  | setLimits _ => cases quiet

variable {state : StreamState} {stream : Inbound}

theorem claimed_of_registered {id : String} (found : state.registry.streams.lookup id = some stream)
    (known : stream.registered = true) (unclaimed : stream.reader = .unclaimed) :
    ∃ after claimed, quietly.Run state [.claim id .any] after ∧
      after.registry.streams.lookup id = some claimed ∧ claimed.reader = .claimed := by
  have got : state.registry.get id = some stream := Option.filter_eq_some_iff.mpr ⟨found, known⟩
  have claims : (state.next (.claim id .any)).registry =
      (if stream.writing then state.registry
        else state.registry.modify id .unregister).modify id
          (fun stream => { stream with reader := .claimed }) := by
    unfold next StreamRegistry.claim StreamRegistry.takeReader StreamRegistry.takeReaderInner
    dsimp only
    rw [got]
    dsimp only [Option.any]
    rw [if_neg Bool.false_ne_true, if_pos unclaimed]
  refine ⟨state.next (.claim id .any),
    { (if stream.writing then stream else stream.unregister) with reader := .claimed },
    .single ⟨trivial, trivial, rfl⟩, ?_, rfl⟩
  rw [claims, StreamRegistry.modify_lookup, if_pos rfl]
  cases stream.writing with
  | true =>
      rw [if_pos rfl, if_pos rfl, found]
      rfl
  | false =>
      rw [if_neg Bool.false_ne_true, if_neg Bool.false_ne_true, StreamRegistry.modify_lookup,
        if_pos rfl, found]
      rfl

theorem claimed_run {id : String} (found : state.registry.streams.lookup id = some stream)
    (present : stream.reader ≠ .dropped)
    (kept : stream.reader = .unclaimed → stream.registered = true) :
    ∃ events after claimed, quietly.Run state events after ∧
      after.registry.streams.lookup id = some claimed ∧ claimed.reader = .claimed := by
  cases reader : stream.reader with
  | unclaimed =>
      obtain ⟨after, claimed, run, changed⟩ := claimed_of_registered found (kept reader) reader
      exact ⟨_, after, claimed, run, changed⟩
  | claimed => exact ⟨[], state, stream, .nil, found, reader⟩
  | dropped => exact absurd reader present

theorem poll_run {id : String} (found : state.registry.streams.lookup id = some stream)
    (claimed : stream.reader = .claimed) (timedOut : Bool) :
    ∃ after, quietly.Run state [.poll id timedOut] after ∧
      after.registry.streams.lookup id = some (stream.nextChunk timedOut).2 ∧
      after.transcripts id =
        (state.transcripts id).observe (stream.nextChunk timedOut).1 := by
  have reader : state.HasReader id := by
    unfold HasReader
    rw [found, Option.map_some, claimed]
  refine ⟨state.next (.poll id timedOut), .single ⟨trivial, reader, rfl⟩, ?_, ?_⟩
  · unfold next
    dsimp only
    rw [StreamRegistry.modify_lookup, if_pos rfl, found]
    rfl
  · unfold next observed
    dsimp only
    rw [found]
    dsimp only
    rw [Function.update_self]

theorem drained_run {id : String} (found : state.registry.streams.lookup id = some stream)
    (claimed : stream.reader = .claimed) :
    ∃ events after, quietly.Run state events after ∧
      after.registry.streams.lookup id = some { stream with buffered := [] } := by
  generalize held : stream.buffered = chunks
  induction chunks generalizing state stream with
  | nil =>
      refine ⟨[], state, .nil, ?_⟩
      rw [found, ← held]
  | cons chunk rest ih =>
      obtain ⟨between, polled, present, _⟩ := poll_run found claimed false
      have takes : (stream.nextChunk false).2 = { stream with buffered := rest } := by
        unfold Inbound.nextChunk
        rw [held]
      rw [takes] at present
      obtain ⟨events, after, drained, empty⟩ := ih present claimed rfl
      exact ⟨[.poll id false] ++ events, after, polled.append drained, empty⟩

end StreamState

/-- Whose stream it is, what it may hold by the receiver's limits and what its open
declared. -/
structure Session where
  sender : Option BusName
  id : String
  limits : StreamLimits
  declared : Option Nat

namespace Session

def Fits (session : Session) (length : Nat) : Prop :=
  length ≤ session.limits.maxStreamLen ∧
    ∀ total, session.declared = some total → length ≤ total

theorem Fits.mono {session : Session} {short long : Nat} (fits : session.Fits long)
    (shorter : short ≤ long) : session.Fits short :=
  ⟨Nat.le_trans shorter fits.1,
    fun total declared => Nat.le_trans shorter (fits.2 total declared)⟩

def carried : Option PendingWrite → List UInt8
  | some write => write.chunk
  | none => []

/-- A stream into which `written` went as `count` chunks; `pending` is the write that waits
for room. -/
structure Receiving (session : Session) (written : List UInt8) (count : Nat)
    (pending : Option PendingWrite) (entry : Inbound × Transcript) : Prop where
  owned : entry.1.owner = session.sender
  declared : entry.1.declaredLen = session.declared
  known : entry.1.registered = true
  writing : entry.1.writing = true
  undecided : entry.1.outcome = none
  calm : entry.1.aborted = false
  holder : entry.1.sending = pending
  free : entry.1.gate = []
  next : entry.1.nextSeq = count
  received : entry.1.received = written.length
  present : entry.1.reader ≠ .dropped
  room : 0 < entry.1.window
  whole : entry.2.delivered ++ entry.1.buffered.flatten ++ carried pending = written
  unended : entry.2.cleanEnd = false

structure Received (written : List UInt8) (entry : Inbound × Transcript) : Prop where
  closed : entry.1.writing = false
  complete : entry.1.outcome = some .complete
  free : entry.1.sending = none
  present : entry.1.reader ≠ .dropped
  kept : entry.1.reader = .unclaimed → entry.1.registered = true
  whole : entry.2.delivered ++ entry.1.buffered.flatten = written
  emptied : entry.2.cleanEnd = true → entry.1.buffered = []

variable {session : Session} {written : List UInt8} {count : Nat}
  {pending : Option PendingWrite}

theorem Receiving.read {before after : Inbound × Transcript} (read : Inbound.Read before after)
    (receiving : session.Receiving written count pending before) :
    session.Receiving written count pending after := by
  cases read with
  | unseen => exact receiving
  | unregister closed _ =>
      have writing := receiving.writing
      dsimp only at writing
      rw [closed] at writing
      cases writing
  | claim unclaimed =>
      have held : ReadingHalf.claimed ≠ .dropped := by decide
      exact { receiving with present := held }
  | collect closed _ =>
      have writing := receiving.writing
      dsimp only at writing
      rw [closed] at writing
      cases writing
  | @poll stream transcript timedOut claimed =>
      have writing := receiving.writing
      dsimp only at writing
      unfold Inbound.nextChunk
      split
      · rename_i chunk rest buffered
        have whole := receiving.whole
        dsimp only at whole
        rw [buffered, List.flatten_cons, ← List.append_assoc] at whole
        exact { receiving with whole := whole }
      · have going : (!stream.writing && decide (stream.sending = none)) ≠ true := by
          rw [writing]
          exact Bool.false_ne_true
        rw [if_neg going]
        split
        · exact receiving
        · exact receiving

theorem Received.read {before after : Inbound × Transcript} (read : Inbound.Read before after)
    (received : Received written before) : Received written after := by
  cases read with
  | unseen => exact received
  | unregister _ taken => exact { received with kept := fun unclaimed => absurd unclaimed taken }
  | claim _ =>
      have held : ReadingHalf.claimed ≠ .dropped := by decide
      exact { received with present := held, kept := nofun }
  | collect _ _ =>
      have held : ReadingHalf.claimed ≠ .dropped := by decide
      exact { received with present := held, kept := nofun }
  | @poll stream transcript timedOut claimed =>
      obtain ⟨closed, complete, free, present, kept, whole, emptied⟩ := received
      dsimp only at closed complete free whole emptied
      unfold Inbound.nextChunk
      split
      · rename_i chunk rest buffered
        rw [buffered, List.flatten_cons, ← List.append_assoc] at whole
        refine ⟨closed, complete, free, present, kept, whole, ?_⟩
        intro ended
        rw [emptied ended] at buffered
        cases buffered
      · rename_i buffered
        rw [closed, free]
        rw [if_pos (by decide)]
        have clean := stream.ending_clean_iff.mpr complete
        rw [clean]
        exact ⟨closed, complete, free, present, kept, whole, fun _ => buffered⟩

structure Open (session : Session) (written : List UInt8) (count : Nat)
    (pending : Option PendingWrite) (state : StreamState) : Prop where
  limited : state.registry.limits = session.limits
  stream : ∃ stream, state.registry.streams.lookup session.id = some stream ∧
    session.Receiving written count pending (stream, state.transcripts session.id)

/-- Its stream is closed, with all that was written. -/
def Closed (session : Session) (written : List UInt8) (state : StreamState) : Prop :=
  ∃ stream, state.registry.streams.lookup session.id = some stream ∧
    Received written (stream, state.transcripts session.id)

theorem Open.meanwhile {before after : StreamState} {events : List StreamEvent}
    (opened : session.Open written count pending before)
    (run : StreamState.quietly.Run before events after) :
    session.Open written count pending after := by
  refine run.preserves ?_ opened
  rintro before event after stepped ⟨limited, stream, found, receiving⟩
  obtain ⟨limits, reads⟩ := StreamState.read_of_quiet stepped
  obtain ⟨changed, present, read⟩ := reads session.id stream found
  exact ⟨limits.trans limited, changed, present, receiving.read read⟩

theorem Closed.meanwhile {before after : StreamState} {events : List StreamEvent}
    (closed : session.Closed written before)
    (run : StreamState.quietly.Run before events after) : session.Closed written after := by
  refine run.preserves ?_ closed
  rintro before event after stepped ⟨stream, found, received⟩
  obtain ⟨_, reads⟩ := StreamState.read_of_quiet stepped
  obtain ⟨changed, present, read⟩ := reads session.id stream found
  exact ⟨changed, present, received.read read⟩

variable {state : StreamState} {header : Header} {body : Value}

variable {stream : Inbound} {transcript : Transcript}

theorem refusal_none_iff
    (receiving : session.Receiving written count pending (stream, transcript)) (chunk : Chunk) :
    stream.refusal ⟨count, chunk, session.limits⟩ = none ↔
      session.Fits (written.length + chunk.length) := by
  have writing := receiving.writing
  have next := receiving.next
  have received := receiving.received
  have declared := receiving.declared
  dsimp only at writing next received declared
  unfold Inbound.refusal Fits
  rw [writing, next, received, declared]
  cases session.declared with
  | none => simp
  | some total => simp

theorem Open.lookup (opened : session.Open written count pending state) :
    ∃ stream, state.registry.lookup session.id session.sender = .ok stream ∧
      state.registry.streams.lookup session.id = some stream ∧
      session.Receiving written count pending (stream, state.transcripts session.id) := by
  obtain ⟨stream, found, receiving⟩ := opened.stream
  exact ⟨stream, StreamRegistry.lookup_of_registered found receiving.owned receiving.known,
    found, receiving⟩

theorem Open.write_eq (opened : session.Open written count none state) {data : String}
    {chunk : Chunk} (decoded : Base64.decode data = .ok chunk)
    (small : chunk.length ≤ maxChunkLen) :
    ∃ stream, state.registry.streams.lookup session.id = some stream ∧
      session.Receiving written count none (stream, state.transcripts session.id) ∧
      state.registry.write state.now session.sender session.id count data =
        state.registry.enter state.now session.id stream ⟨count, chunk, session.limits⟩ := by
  obtain ⟨stream, known, found, receiving⟩ := opened.lookup
  refine ⟨stream, found, receiving, ?_⟩
  unfold StreamRegistry.write
  rw [known]
  dsimp only
  rw [decoded]
  dsimp only
  rw [if_neg (Nat.not_lt.mpr small), if_pos ⟨receiving.holder, receiving.free⟩, opened.limited]

theorem Receiving.counted (receiving : session.Receiving written count none (stream, transcript))
    (now : Nat) (write : PendingWrite) :
    session.Receiving (written ++ write.chunk) (count + 1) (some write)
      ({ stream.count now write with sending := some write }, transcript) := by
  have whole := receiving.whole
  have received := receiving.received
  have next := receiving.next
  dsimp only [carried] at whole received next
  rw [List.append_nil] at whole
  have longer : (stream.count now write).received = (written ++ write.chunk).length := by
    rw [List.length_append, ← received]
    rfl
  exact { receiving with
    holder := rfl
    next := congrArg (· + 1) next
    received := longer
    whole := congrArg (· ++ write.chunk) whole }

theorem Receiving.pushed {write : PendingWrite}
    (receiving : session.Receiving written count (some write) (stream, transcript)) (now : Nat) :
    session.Receiving written count none
      ({ stream with
          sending := none, buffered := stream.buffered ++ [write.chunk],
          lastActivity := now }, transcript) := by
  have whole := receiving.whole
  dsimp only [carried] at whole
  have buffered : transcript.delivered ++ (stream.buffered ++ [write.chunk]).flatten ++
      carried none = written := by
    rw [List.flatten_append, List.flatten_singleton, ← List.append_assoc, whole]
    exact List.append_nil written
  exact { receiving with holder := rfl, whole := buffered }

theorem Open.of_modify {after : StreamState} {update : Inbound → Inbound} {written' : List UInt8}
    {count' : Nat} {pending' : Option PendingWrite}
    (opened : session.Open written count pending state)
    (found : state.registry.streams.lookup session.id = some stream)
    (registry : after.registry = state.registry.modify session.id update)
    (transcripts : after.transcripts = state.transcripts)
    (receiving : session.Receiving written' count' pending'
      (update stream, state.transcripts session.id)) :
    session.Open written' count' pending' after := by
  have changed : after.registry.streams.lookup session.id = some (update stream) := by
    rw [registry, StreamRegistry.modify_lookup, if_pos rfl, found]
    rfl
  have limited : after.registry.limits = session.limits := by
    rw [registry]
    exact opened.limited
  refine ⟨limited, update stream, changed, ?_⟩
  rw [transcripts]
  exact receiving

theorem Open.write_waits (opened : session.Open written count none state)
    (parsed : StreamRegistry.parse header body = .ok (.write session.id count data))
    (sent : header.sender = session.sender) {chunk : Chunk}
    (decoded : Base64.decode data = .ok chunk) (small : chunk.length ≤ maxChunkLen)
    (fits : session.Fits (written.length + chunk.length)) (order : List String) :
    state.answer header body order = .waiting ∧
      session.Open (written ++ chunk) (count + 1) (some ⟨count, chunk, session.limits⟩)
        (state.next (.call header body order)) := by
  obtain ⟨stream, found, receiving, writes⟩ := opened.write_eq decoded small
  have calm : ¬ stream.aborted = true := by
    rw [receiving.calm]
    exact Bool.false_ne_true
  have enters : state.registry.dispatch state.now header body order =
      (.waiting, state.registry.modify session.id (fun stream =>
        { stream.count state.now ⟨count, chunk, session.limits⟩ with
          sending := some ⟨count, chunk, session.limits⟩ })) := by
    unfold StreamRegistry.dispatch
    rw [parsed]
    dsimp only [StreamRegistry.perform]
    rw [sent, writes]
    unfold StreamRegistry.enter
    rw [(refusal_none_iff receiving chunk).mpr fits]
    dsimp only
    rw [if_neg calm]
  have unheard : state.announced header body = state.transcripts := by
    unfold StreamState.announced
    rw [parsed]
  constructor
  · unfold StreamState.answer
    rw [enters]
  · exact opened.of_modify found (congrArg Prod.snd enters) unheard
      (receiving.counted state.now ⟨count, chunk, session.limits⟩)

theorem Open.write_refused (opened : session.Open written count none state)
    (parsed : StreamRegistry.parse header body = .ok (.write session.id count data))
    (sent : header.sender = session.sender) {chunk : Chunk}
    (decoded : Base64.decode data = .ok chunk) (small : chunk.length ≤ maxChunkLen)
    (exceeds : ¬ session.Fits (written.length + chunk.length)) (order : List String) :
    ∃ error, state.answer header body order = .done (.error error) := by
  obtain ⟨stream, found, receiving, writes⟩ := opened.write_eq decoded small
  unfold StreamState.answer StreamRegistry.dispatch
  rw [parsed]
  dsimp only [StreamRegistry.perform]
  rw [sent, writes]
  unfold StreamRegistry.enter
  split
  · rename_i error _ _
    exact ⟨error, rfl⟩
  · rename_i error _
    exact ⟨error, rfl⟩
  · rename_i accepted
    exact absurd ((refusal_none_iff receiving chunk).mp accepted) exceeds

theorem Open.send {write : PendingWrite}
    (opened : session.Open written count (some write) state) :
    (∀ result, (state.registry.send state.now session.id).1 = .done result →
      result = .ok .null ∧
        session.Open written count none (state.next (.send session.id))) ∧
    ∀ stream, state.registry.streams.lookup session.id = some stream →
      stream.buffered.length < stream.window →
        (state.registry.send state.now session.id).1 = .done (.ok .null) := by
  obtain ⟨stream, found, receiving⟩ := opened.stream
  have calm : ¬ stream.aborted = true := by
    rw [receiving.calm]
    exact Bool.false_ne_true
  have sends : state.registry.send state.now session.id =
      if stream.buffered.length < stream.window then
        (.done (.ok .null), state.registry.modify session.id (fun stream =>
          { stream with
            sending := none, buffered := stream.buffered ++ [write.chunk],
            lastActivity := state.now }))
      else (.waiting, state.registry) := by
    unfold StreamRegistry.send
    rw [found]
    dsimp only
    rw [receiving.holder]
    dsimp only
    rw [if_neg calm, if_neg receiving.present, StreamRegistry.modify_modify]
  constructor
  · intro result done
    rw [sends] at done
    split at done
    · rename_i room
      cases done
      rw [if_pos room] at sends
      exact ⟨rfl, opened.of_modify found (congrArg Prod.snd sends) rfl
        (receiving.pushed state.now)⟩
    · cases done
  · intro current present room
    rw [found, Option.some.injEq] at present
    subst present
    rw [sends, if_pos room]

theorem Receiving.closed (receiving : session.Receiving written count none (stream, transcript))
    (now : Nat) (announced : Option Nat) :
    Received written (stream.closed now written.length,
      { transcript with announced := announced }) := by
  have whole := receiving.whole
  have received := receiving.received
  dsimp only [carried] at whole received
  rw [List.append_nil] at whole
  have ends : stream.closed now written.length =
      { stream with
        lastActivity := now, outcome := some .complete, writing := false,
        aborted := stream.aborted } := by
    have undecided : (stream.touch now).outcome = none := receiving.undecided
    unfold Inbound.closed Inbound.finish
    rw [undecided]
    simp [received, Inbound.touch, Inbound.sealed]
  rw [ends]
  refine ⟨rfl, rfl, receiving.holder, receiving.present, fun _ => receiving.known, whole, ?_⟩
  intro ended
  have unended := receiving.unended
  dsimp only at ended unended
  rw [unended] at ended
  cases ended

theorem Open.close (opened : session.Open written count none state)
    (parsed : StreamRegistry.parse header body = .ok (.close session.id written.length))
    (sent : header.sender = session.sender) (order : List String) :
    state.answer header body order = .done (.ok .null) ∧
      session.Closed written (state.next (.call header body order)) := by
  obtain ⟨stream, known, found, receiving⟩ := opened.lookup
  have received := receiving.received
  dsimp only at received
  have owned : stream.owner = header.sender := receiving.owned.trans sent.symm
  constructor
  · rw [StreamState.answer_of_close parsed, Progress.done.injEq]
    exact (StreamRegistry.close_ok_iff found owned state.now written.length).mpr
      ⟨receiving.known, received⟩
  · refine ⟨stream.closed state.now written.length, ?_, ?_⟩
    · rw [StreamState.next_of_close parsed]
      exact StreamRegistry.close_of_registered found owned receiving.known state.now _
    · have heard : (state.next (.call header body order)).transcripts session.id =
          { state.transcripts session.id with announced := some written.length } := by
        unfold StreamState.next StreamState.announced
        dsimp only
        rw [parsed]
        dsimp only
        unfold StreamRegistry.announce
        rw [sent, known]
        dsimp only
        rw [Function.update_self]
        unfold Transcript.announce
        rw [if_pos ⟨receiving.undecided, received⟩]
      rw [heard]
      exact receiving.closed state.now (some written.length)

theorem Open.drained (opened : session.Open written count pending state) :
    ∃ events after stream, StreamState.quietly.Run state events after ∧
      after.registry.streams.lookup session.id = some stream ∧ stream.buffered = [] := by
  obtain ⟨stream, found, receiving⟩ := opened.stream
  obtain ⟨early, between, claimed, claims, present, reader⟩ :=
    StreamState.claimed_run found receiving.present (fun _ => receiving.known)
  obtain ⟨late, after, drains, empty⟩ := StreamState.drained_run present reader
  exact ⟨early ++ late, after, _, claims.append drains, empty, rfl⟩

theorem Closed.read (closed : session.Closed written state) :
    ∃ events after, StreamState.quietly.Run state events after ∧
      (after.transcripts session.id).cleanEnd = true := by
  have ⟨stream, found, received⟩ := closed
  obtain ⟨early, between, claimed, claims, present, reader⟩ :=
    StreamState.claimed_run found received.present received.kept
  obtain ⟨late, drained, drains, empty⟩ := StreamState.drained_run present reader
  have run := claims.append drains
  obtain ⟨last, final, received'⟩ := closed.meanwhile run
  rw [empty, Option.some.injEq] at final
  subst final
  obtain ⟨after, polled, _, heard⟩ := StreamState.poll_run empty reader false
  have spent : (!claimed.writing && decide (claimed.sending = none)) = true := by
    rw [received'.closed, received'.free]
    rfl
  have ending : (Inbound.nextChunk { claimed with buffered := [] } false).1 =
      some (.ok none) := by
    unfold Inbound.nextChunk
    dsimp only
    rw [if_pos spent]
    exact congrArg some ((Inbound.ending_clean_iff _).mpr received'.complete)
  refine ⟨early ++ late ++ [.poll session.id false], after, run.append polled, ?_⟩
  rw [heard, ending]
  rfl

theorem Closed.exact (closed : session.Closed written state)
    (ended : (state.transcripts session.id).cleanEnd = true) :
    (state.transcripts session.id).delivered = written := by
  obtain ⟨stream, found, received⟩ := closed
  have whole := received.whole
  rw [received.emptied ended, List.flatten_nil, List.append_nil] at whole
  exact whole

end Session

end TinyBus
