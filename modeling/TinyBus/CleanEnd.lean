/-
What a clean end tells the reader of a stream.  The bytes delivered, the bytes
in the channel and those of the write that waits for the window are the bytes
received, until an abort or a dropped reader loses some; a stream is complete
only where the total of its close is what was received by then.
-/

import TinyBus.StreamSystem

namespace TinyBus

open TransitionSystem

def PendingWrite.carried : Option PendingWrite → Nat
  | some write => write.chunk.length
  | none => 0

structure Ledger (entry : Inbound × Transcript) : Prop where
  accounted : entry.1.aborted = false → entry.1.reader ≠ .dropped →
    entry.2.delivered.length + entry.1.buffered.flatten.length +
      PendingWrite.carried entry.1.sending = entry.1.received
  raised : entry.1.aborted = true → ∃ reason, entry.1.outcome = some (.aborted reason)
  completed : entry.1.outcome = some .complete →
    entry.1.writing = false ∧ entry.2.announced = some entry.1.received
  ended : entry.2.cleanEnd = true →
    entry.1.outcome = some .complete ∧ entry.1.buffered = [] ∧
      entry.1.sending = none ∧ entry.2.delivered.length = entry.1.received

namespace Ledger

variable {stream : Inbound} {transcript : Transcript}

theorem fresh (sender : Option BusName) (descriptor : StreamDescriptor)
    (limits : StreamLimits) (now : Nat) :
    Ledger (StreamRegistry.fresh sender descriptor limits now, .blank) := by
  refine ⟨fun _ _ => rfl, ?_, ?_, ?_⟩
  · intro raised
    cases raised
  · intro complete
    cases complete
  · intro ended
    cases ended

theorem calm_of_undecided (ledger : Ledger (stream, transcript)) (undecided : stream.outcome = none) :
    stream.aborted = false ∧ transcript.cleanEnd = false := by
  constructor
  · cases raised : stream.aborted with
    | false => rfl
    | true =>
        obtain ⟨reason, aborted⟩ := ledger.raised raised
        dsimp only at aborted
        rw [undecided] at aborted
        cases aborted
  · cases ended : transcript.cleanEnd with
    | false => rfl
    | true =>
        have complete := (ledger.ended ended).1
        dsimp only at complete
        rw [undecided] at complete
        cases complete

theorem unended (ledger : Ledger (stream, transcript)) (writing : stream.writing = true) :
    stream.outcome ≠ some .complete ∧ transcript.cleanEnd = false := by
  have incomplete : stream.outcome ≠ some .complete := by
    intro complete
    have sealed := (ledger.completed complete).1
    dsimp only at sealed
    rw [writing] at sealed
    cases sealed
  refine ⟨incomplete, ?_⟩
  cases ended : transcript.cleanEnd with
  | false => rfl
  | true => exact absurd (ledger.ended ended).1 incomplete

theorem finish (ledger : Ledger (stream, transcript)) (reason : String) :
    Ledger (stream.finish (.aborted reason), transcript) := by
  unfold Inbound.finish
  split
  · exact ledger
  · rename_i undecided
    refine ⟨?_, ?_, ?_, ?_⟩
    · intro calm
      simp at calm
    · intro _
      exact ⟨reason, rfl⟩
    · intro complete
      cases complete
    · intro ended
      rw [(ledger.calm_of_undecided undecided).2] at ended
      cases ended

theorem sealed (ledger : Ledger (stream, transcript)) :
    Ledger (stream.sealed, transcript) :=
  ⟨ledger.accounted, ledger.raised,
    fun complete => ⟨rfl, (ledger.completed complete).2⟩, ledger.ended⟩

theorem dropReader (ledger : Ledger (stream, transcript)) :
    Ledger (stream.dropReader, transcript) := by
  unfold Inbound.dropReader
  split
  · refine ⟨fun _ present => absurd rfl present, ledger.raised, ledger.completed, ?_⟩
    intro ended
    obtain ⟨complete, _, sent, delivered⟩ := ledger.ended ended
    exact ⟨complete, rfl, sent, delivered⟩
  · exact ledger

theorem closed (ledger : Ledger (stream, transcript)) (now totalLen : Nat) :
    Ledger (stream.closed now totalLen, transcript.announce stream totalLen) := by
  cases decided : stream.outcome with
  | some verdict =>
      have silent : transcript.announce stream totalLen = transcript := by
        unfold Transcript.announce
        rw [if_neg]
        intro both
        rw [decided] at both
        cases both.1
      have kept : stream.closed now totalLen = (stream.touch now).sealed := by
        unfold Inbound.closed Inbound.finish Inbound.touch
        rw [decided]
      have touched : Ledger (stream.touch now, transcript) :=
        ⟨ledger.accounted, ledger.raised, ledger.completed, ledger.ended⟩
      rw [silent, kept]
      exact touched.sealed
  | none =>
      obtain ⟨calm, running⟩ := ledger.calm_of_undecided decided
      by_cases whole : stream.received = totalLen
      · have ends : stream.closed now totalLen =
            { stream with
              lastActivity := now, outcome := some .complete, writing := false,
              aborted := false } := by
          unfold Inbound.closed Inbound.finish Inbound.touch Inbound.sealed
          simp [decided, whole, calm]
        have announces : transcript.announce stream totalLen =
            { transcript with announced := some totalLen } := by
          unfold Transcript.announce
          rw [if_pos ⟨decided, whole⟩]
        rw [ends, announces]
        refine ⟨fun _ present => ledger.accounted calm present, ?_, ?_, ?_⟩
        · intro raised
          cases raised
        · intro _
          exact ⟨rfl, congrArg some whole.symm⟩
        · intro ended
          dsimp only at ended
          rw [running] at ended
          cases ended
      · have silent : transcript.announce stream totalLen = transcript := by
          unfold Transcript.announce
          rw [if_neg (fun both => whole both.2)]
        have touched : Ledger (stream.touch now, transcript) :=
          ⟨ledger.accounted, ledger.raised, ledger.completed, ledger.ended⟩
        unfold Inbound.closed
        rw [silent, if_pos whole]
        exact (touched.finish _).sealed

theorem count (ledger : Ledger (stream, transcript)) (now : Nat) {write : PendingWrite}
    (accepted : stream.refusal write = none) (free : stream.sending = none) :
    Ledger ({ stream.count now write with
      sending := if stream.aborted then none else some write }, transcript) := by
  have writing : stream.writing = true := by
    cases held : stream.writing with
    | true => rfl
    | false =>
        unfold Inbound.refusal at accepted
        rw [held] at accepted
        cases accepted
  obtain ⟨incomplete, running⟩ := ledger.unended writing
  refine ⟨?_, ledger.raised, fun complete => absurd complete incomplete, ?_⟩
  · intro calm present
    have before := ledger.accounted calm present
    dsimp only [Inbound.count] at calm before ⊢
    rw [free] at before
    rw [if_neg (by rw [calm]; exact Bool.false_ne_true)]
    unfold PendingWrite.carried at before ⊢
    dsimp only at before ⊢
    omega
  · intro ended
    dsimp only at ended
    rw [running] at ended
    cases ended

theorem giveUp (ledger : Ledger (stream, transcript))
    (lost : stream.aborted = true ∨ stream.reader = .dropped) :
    Ledger ({ stream with sending := none }, transcript) := by
  refine ⟨?_, ledger.raised, ledger.completed, ?_⟩
  · intro calm present
    rcases lost with aborted | dropped
    · dsimp only at calm
      rw [aborted] at calm
      cases calm
    · exact absurd dropped present
  · intro ended
    obtain ⟨complete, empty, _, delivered⟩ := ledger.ended ended
    exact ⟨complete, empty, rfl, delivered⟩

theorem push (ledger : Ledger (stream, transcript)) (now : Nat) {write : PendingWrite}
    (pending : stream.sending = some write) :
    Ledger ({ stream with
      sending := none, buffered := stream.buffered ++ [write.chunk],
      lastActivity := now }, transcript) := by
  refine ⟨?_, ledger.raised, ledger.completed, ?_⟩
  · intro calm present
    have before := ledger.accounted calm present
    dsimp only at before ⊢
    rw [pending] at before
    rw [List.flatten_append, List.length_append]
    unfold PendingWrite.carried at before ⊢
    simp only [List.flatten_cons, List.flatten_nil, List.append_nil] at before ⊢
    omega
  · intro ended
    obtain ⟨_, _, idle, _⟩ := ledger.ended ended
    dsimp only at idle
    rw [pending] at idle
    cases idle

theorem poll (ledger : Ledger (stream, transcript)) (timedOut : Bool)
    (claimed : stream.reader = .claimed) :
    Ledger ((stream.nextChunk timedOut).2,
      transcript.observe (stream.nextChunk timedOut).1) := by
  have present : stream.reader ≠ .dropped := by
    rw [claimed]
    decide
  unfold Inbound.nextChunk
  split
  · rename_i chunk rest buffered
    refine ⟨?_, ledger.raised, ledger.completed, ?_⟩
    · intro calm _
      have before := ledger.accounted calm present
      dsimp only [Transcript.observe] at before ⊢
      rw [buffered, List.flatten_cons, List.length_append] at before
      rw [List.length_append]
      omega
    · intro ended
      obtain ⟨_, empty, _, _⟩ := ledger.ended ended
      dsimp only at empty
      rw [buffered] at empty
      cases empty
  · rename_i buffered
    split
    · rename_i spent
      rw [Bool.and_eq_true, decide_eq_true_eq] at spent
      unfold Inbound.ending
      split
      · rename_i complete
        refine ⟨ledger.accounted, ledger.raised, ledger.completed, ?_⟩
        intro _
        have calm : stream.aborted = false := by
          cases raised : stream.aborted with
          | false => rfl
          | true =>
              obtain ⟨reason, aborted⟩ := ledger.raised raised
              dsimp only at aborted
              rw [complete] at aborted
              cases aborted
        have all := ledger.accounted calm present
        dsimp only at all
        rw [buffered, spent.2] at all
        exact ⟨complete, buffered, spent.2, all⟩
      · exact ledger
      · exact ledger
    · split
      · exact ledger
      · exact ledger

theorem abandon (ledger : Ledger (stream, transcript)) :
    Ledger ({ stream with reader := .dropped, buffered := [] }, transcript) := by
  refine ⟨fun _ present => absurd rfl present, ledger.raised, ledger.completed, ?_⟩
  intro ended
  obtain ⟨complete, _, sent, delivered⟩ := ledger.ended ended
  exact ⟨complete, rfl, sent, delivered⟩

theorem claim (ledger : Ledger (stream, transcript))
    (unclaimed : stream.reader = .unclaimed) :
    Ledger ({ stream with reader := .claimed }, transcript) := by
  refine ⟨fun calm _ => ledger.accounted calm ?_, ledger.raised, ledger.completed,
    ledger.ended⟩
  dsimp only
  rw [unclaimed]
  decide

theorem move {completes : Inbound → Nat → Prop} {before after : Inbound × Transcript}
    (moved : Inbound.Move completes before after) (ledger : Ledger before) :
    Ledger after := by
  cases moved with
  | finish reason => exact ledger.finish reason
  | sealed => exact ledger.sealed
  | touch now =>
      exact ⟨ledger.accounted, ledger.raised, ledger.completed, ledger.ended⟩
  | unregister =>
      exact ⟨ledger.accounted, ledger.raised, ledger.completed, ledger.ended⟩
  | dropReader => exact ledger.dropReader
  | close now totalLen _ => exact ledger.closed now totalLen
  | queue gate =>
      exact ⟨ledger.accounted, ledger.raised, ledger.completed, ledger.ended⟩
  | count now write accepted free => exact ledger.count now accepted free
  | giveUp lost => exact ledger.giveUp lost
  | push now write pending => exact ledger.push now pending
  | claim unclaimed => exact ledger.claim unclaimed
  | poll timedOut claimed => exact ledger.poll timedOut claimed
  | abandon _ => exact ledger.abandon

end Ledger

def MeetsDeclared (stream : Inbound) (totalLen : Nat) : Prop :=
  ∀ declared, stream.declaredLen = some declared → totalLen = declared

instance (stream : Inbound) (totalLen : Nat) : Decidable (MeetsDeclared stream totalLen) :=
  inferInstanceAs (Decidable (∀ declared ∈ stream.declaredLen, totalLen = declared))

def Declared (entry : Inbound × Transcript) : Prop :=
  ∀ totalLen, entry.2.announced = some totalLen → MeetsDeclared entry.1 totalLen

namespace Declared

theorem finish_declaredLen (stream : Inbound) (outcome : Outcome) :
    (stream.finish outcome).declaredLen = stream.declaredLen := by
  unfold Inbound.finish
  split <;> rfl

theorem dropReader_declaredLen (stream : Inbound) :
    stream.dropReader.declaredLen = stream.declaredLen := by
  unfold Inbound.dropReader
  split <;> rfl

theorem nextChunk_declaredLen (stream : Inbound) (timedOut : Bool) :
    (stream.nextChunk timedOut).2.declaredLen = stream.declaredLen := by
  unfold Inbound.nextChunk
  split
  · rfl
  · split
    · rfl
    · split <;> rfl

theorem observe_announced (transcript : Transcript)
    (polled : Option (Except Error (Option Chunk))) :
    (transcript.observe polled).announced = transcript.announced := by
  unfold Transcript.observe
  split <;> rfl

theorem of_same {before after : Inbound × Transcript} (held : Declared before)
    (length : after.1.declaredLen = before.1.declaredLen)
    (announced : after.2.announced = before.2.announced) : Declared after := by
  intro totalLen told declared opened
  rw [announced] at told
  rw [length] at opened
  exact held totalLen told declared opened

theorem move {before after : Inbound × Transcript}
    (moved : Inbound.Move MeetsDeclared before after) (held : Declared before) :
    Declared after := by
  cases moved with
  | finish reason => exact of_same held (finish_declaredLen _ _) rfl
  | dropReader => exact of_same held (dropReader_declaredLen _) rfl
  | poll timedOut _ =>
      exact of_same held (nextChunk_declaredLen _ _) (observe_announced _ _)
  | @close stream transcript now totalLen completing =>
      have length : (stream.closed now totalLen).declaredLen = stream.declaredLen := by
        unfold Inbound.closed Inbound.sealed
        dsimp only
        rw [finish_declaredLen]
        rfl
      intro told announced declared opened
      dsimp only at announced opened
      rw [length] at opened
      unfold Transcript.announce at announced
      split at announced
      · rename_i decisive
        cases announced
        exact completing decisive.1 decisive.2 declared opened
      · exact held told announced declared opened
  | _ => exact of_same held rfl rfl

end Declared

namespace StreamState

theorem unrestricted {state : StreamState} (reached : system.Reachable state) :
    (system.restrict (Permits (fun _ _ => True))).Reachable state := by
  apply reached.of_guard
  intro _ _ _ _
  trivial

theorem clean_end_announced {state : StreamState} (reached : system.Reachable state)
    {id : String} {stream : Inbound}
    (found : state.registry.streams.lookup id = some stream)
    (ended : (state.transcripts id).cleanEnd = true) :
    (state.transcripts id).announced =
      some (state.transcripts id).delivered.length := by
  have everywhere := everywhere_of_moves Ledger.fresh (fun _ _ => Ledger.move)
    (unrestricted reached)
  have ledger := everywhere.streams id stream found
  obtain ⟨complete, _, _, delivered⟩ := ledger.ended ended
  rw [(ledger.completed complete).2]
  exact congrArg some delivered.symm

/-- A clean end tells the truth: the bytes delivered are as many as the close
announced, and as the open declared where it did. -/
def CleanEndsTruthful (state : StreamState) : Prop :=
  ∀ id stream, state.registry.streams.lookup id = some stream →
    (state.transcripts id).cleanEnd = true →
      (state.transcripts id).announced =
          some (state.transcripts id).delivered.length ∧
        ∀ declared, stream.declaredLen = some declared →
          (state.transcripts id).delivered.length = declared

/-- The runs in which every close that completes a stream announces the length
its open declared, where it declared one. -/
def honest : System StreamState StreamEvent :=
  system.restrict (Permits MeetsDeclared)

theorem honest_cleanEndsTruthful {state : StreamState}
    (reached : honest.Reachable state) : state.CleanEndsTruthful := by
  intro id stream found ended
  have announced := clean_end_announced reached.of_restrict found ended
  have everywhere : Everywhere Declared state :=
    everywhere_of_moves (fun _ _ _ _ _ told => by cases told)
      (fun _ _ => Declared.move) reached
  exact ⟨announced, everywhere.streams id stream found _ announced⟩

/-- A call of the stream interface by the peer `:1.1`. -/
def streamCall (member : MemberName) : Header :=
  { Header.blank .methodCall with
    sender := some (BusName.unique 1), path := some streamPath,
    interface := some streamInterface, member := some member }

/-- Three bytes are sent as a stream that declared a length, and the reader takes
what there is. -/
def transfer (declared : UInt64) : List StreamEvent :=
  [.call (streamCall openMember)
      (.array [.object [("total_len", .number (.posInt declared))]]) [],
    .call (streamCall writeMember)
      (.array [.string "s1", .number (.posInt 0), .string (Base64.encode [77, 97, 110])])
      ["s1"],
    .send "s1",
    .call (streamCall closeMember)
      (.array [.string "s1", .number (.posInt 3)]) ["s1"],
    .claim "s1" .any, .poll "s1" false, .poll "s1" false]

def honestly (state : StreamState) (event : StreamEvent) : Bool :=
  decide (state.Possible event) &&
    (state.completing event).all (fun completed =>
      decide (MeetsDeclared completed.1 completed.2))

theorem honestly_replayed {state : StreamState} {events : List StreamEvent}
    (replayed : replay next honestly start events = some state) :
    honest.Reachable state := by
  refine ⟨start, events, rfl, System.Run.of_replay ?_ replayed⟩
  intro before event admitted
  unfold honestly at admitted
  rw [Bool.and_eq_true, decide_eq_true_eq, Option.all_eq_true] at admitted
  refine ⟨?_, admitted.1, rfl⟩
  intro completed completes
  exact of_decide_eq_true (admitted.2 completed completes)

theorem wholeTransfer_truthful :
    ∃ state : StreamState, state.CleanEndsTruthful ∧
      state.transcripts "s1" = ⟨[77, 97, 110], some 3, true⟩ := by
  have replayed : (replay next honestly start (transfer 3)).map
      (fun state => state.transcripts "s1") = some ⟨[77, 97, 110], some 3, true⟩ := by
    decide
  obtain ⟨state, reached, transcript⟩ := Option.map_eq_some_iff.mp replayed
  exact ⟨state, honest_cleanEndsTruthful (honestly_replayed reached), transcript⟩

theorem shortTransfer_deceives :
    ¬ ∀ state : StreamState, system.Reachable state → state.CleanEndsTruthful := by
  intro truthful
  have replayed : (replay next (fun state event => decide (state.Possible event)) start
      (transfer 5)).map (fun state => (state.transcripts "s1",
        (state.registry.streams.lookup "s1").map Inbound.declaredLen)) =
      some (⟨[77, 97, 110], some 3, true⟩, some (some 5)) := by
    decide
  obtain ⟨state, reached, seen⟩ := Option.map_eq_some_iff.mp replayed
  rw [Prod.mk.injEq] at seen
  obtain ⟨transcript, opened⟩ := seen
  obtain ⟨stream, found, declared⟩ := Option.map_eq_some_iff.mp opened
  have run : system.Run start (transfer 5) state := by
    apply System.Run.of_replay _ reached
    intro before event possible
    exact ⟨of_decide_eq_true possible, rfl⟩
  have ended : (state.transcripts "s1").cleanEnd = true := by rw [transcript]
  have whole := (truthful state ⟨start, _, rfl, run⟩ "s1" stream found ended).2 5 declared
  rw [transcript] at whole
  cases whole

end StreamState

end TinyBus
