/-
What a close answers, and how its stream is recorded to have ended.  The record keeps the
first verdict; a close compares its total with what was received and answers from that,
whatever the verdict before it was.
-/

import TinyBus.CleanEnd

namespace TinyBus

open TransitionSystem

namespace Inbound

def OnlyRegistered (stream : Inbound) (_ : Nat) : Prop := stream.registered = true

variable {stream : Inbound}

theorem finish_of_decided {verdict : Outcome} (decided : stream.outcome = some verdict)
    (outcome : Outcome) :
    stream.finish outcome = stream := by
  unfold finish
  rw [decided]

theorem finish_of_undecided (undecided : stream.outcome = none)
    (outcome : Outcome) : (stream.finish outcome).outcome = some outcome := by
  unfold finish
  rw [undecided]

theorem dropReader_outcome (stream : Inbound) : stream.dropReader.outcome = stream.outcome := by
  unfold dropReader
  split <;> rfl

theorem nextChunk_outcome (stream : Inbound) (timedOut : Bool) :
    (stream.nextChunk timedOut).2.outcome = stream.outcome := by
  unfold nextChunk
  split
  · rfl
  · split
    · rfl
    · split <;> rfl

theorem nextChunk_registered (stream : Inbound) (timedOut : Bool) :
    (stream.nextChunk timedOut).2.registered = stream.registered := by
  unfold nextChunk
  split
  · rfl
  · split
    · rfl
    · split <;> rfl

theorem closed_of_decided {verdict : Outcome} (decided : stream.outcome = some verdict)
    (now totalLen : Nat) :
    (stream.closed now totalLen).outcome = some verdict := by
  have touched : (stream.touch now).outcome = some verdict := decided
  unfold closed
  rw [finish_of_decided touched]
  exact touched

theorem closed_of_undecided (undecided : stream.outcome = none) (now totalLen : Nat) :
    (stream.closed now totalLen).outcome =
      some (if stream.received ≠ totalLen then
        .aborted "the sender closed a truncated stream" else .complete) := by
  have touched : (stream.touch now).outcome = none := undecided
  unfold closed sealed
  dsimp only
  rw [finish_of_undecided touched]

theorem closed_registered (stream : Inbound) (now totalLen : Nat) :
    (stream.closed now totalLen).registered = stream.registered := by
  unfold closed sealed
  dsimp only
  rw [finish_registered]
  rfl

variable {completes : Inbound → Nat → Prop} {before after : Inbound × Transcript}

theorem Move.verdict_kept {verdict : Outcome} (moved : Move completes before after)
    (decided : before.1.outcome = some verdict) : after.1.outcome = some verdict := by
  cases moved with
  | finish reason =>
      rw [finish_of_decided decided]
      exact decided
  | dropReader =>
      rw [dropReader_outcome]
      exact decided
  | close now totalLen _ => exact closed_of_decided decided now totalLen
  | poll timedOut _ =>
      rw [nextChunk_outcome]
      exact decided
  | _ => exact decided

def Lost (entry : Inbound × Transcript) : Prop :=
  entry.1.registered = false ∧ entry.1.outcome ≠ some .complete

theorem Move.lost_kept (moved : Move OnlyRegistered before after) (lost : Lost before) :
    Lost after := by
  obtain ⟨forgotten, incomplete⟩ := lost
  cases moved with
  | @finish stream transcript reason =>
      refine ⟨(finish_registered stream _).trans forgotten, ?_⟩
      cases decided : stream.outcome with
      | none =>
          rw [finish_of_undecided decided]
          intro same
          cases same
      | some verdict =>
          rw [finish_of_decided decided]
          exact incomplete
  | @dropReader stream transcript =>
      refine ⟨(dropReader_registered stream).trans forgotten, ?_⟩
      rw [dropReader_outcome]
      exact incomplete
  | @close stream transcript now totalLen completing =>
      refine ⟨(closed_registered stream now totalLen).trans forgotten, ?_⟩
      cases decided : stream.outcome with
      | none =>
          -- A total that would complete it comes only with a close that finds it.
          have short : stream.received ≠ totalLen := by
            intro whole
            have found : stream.registered = true := completing decided whole
            dsimp only at forgotten
            rw [forgotten] at found
            cases found
          rw [closed_of_undecided decided, if_pos short]
          intro same
          cases same
      | some verdict =>
          rw [closed_of_decided decided]
          dsimp only at incomplete
          rw [decided] at incomplete
          exact incomplete
  | @poll stream transcript timedOut _ =>
      refine ⟨(nextChunk_registered stream timedOut).trans forgotten, ?_⟩
      rw [nextChunk_outcome]
      exact incomplete
  | unregister => exact ⟨rfl, incomplete⟩
  | _ => exact ⟨forgotten, incomplete⟩

theorem ending_clean_iff (stream : Inbound) :
    stream.ending = .ok none ↔ stream.outcome = some .complete := by
  unfold ending
  split
  · rename_i complete
    simp [complete]
  · rename_i reason aborted
    simp [aborted]
  · rename_i undecided
    simp [undecided]

end Inbound

namespace StreamRegistry

variable {registry : StreamRegistry} {id : String} {sender : Option BusName} {stream : Inbound}

theorem lookup_registered (found : registry.lookup id sender = .ok stream) :
    stream.registered = true := by
  unfold lookup at found
  split at found
  · cases found
  · rename_i stream' got
    split at found
    · cases found
      exact (Option.filter_eq_some_iff.mp got).2
    · cases found

theorem lookup_of_registered (found : registry.streams.lookup id = some stream)
    (owned : stream.owner = sender) (known : stream.registered = true) :
    registry.lookup id sender = .ok stream := by
  have got : registry.get id = some stream := Option.filter_eq_some_iff.mpr ⟨found, known⟩
  unfold lookup
  rw [got]
  dsimp only
  rw [if_pos owned]

theorem lookup_of_forgotten (found : registry.streams.lookup id = some stream)
    (forgotten : stream.registered = false) (sender : Option BusName) :
    registry.lookup id sender = .error (.unknownStream id) := by
  have gone : registry.get id = none := by
    unfold get
    rw [found]
    simp [forgotten]
  unfold lookup
  rw [gone]

theorem close_of_registered (found : registry.streams.lookup id = some stream)
    (owned : stream.owner = sender) (known : stream.registered = true) (now totalLen : Nat) :
    (registry.close now sender id totalLen).2.streams.lookup id =
      some (stream.closed now totalLen) := by
  unfold close
  rw [lookup_of_registered found owned known]
  unfold modify
  dsimp only
  rw [Table.lookup_modify_self, found]
  rfl

theorem close_of_forgotten (found : registry.streams.lookup id = some stream)
    (forgotten : stream.registered = false) (sender : Option BusName) (now totalLen : Nat) :
    registry.close now sender id totalLen = (.error (.unknownStream id), registry) := by
  unfold close
  rw [lookup_of_forgotten found forgotten]

theorem close_ok_iff (found : registry.streams.lookup id = some stream)
    (owned : stream.owner = sender) (now totalLen : Nat) :
    (registry.close now sender id totalLen).1 = .ok .null ↔
      stream.registered = true ∧ stream.received = totalLen := by
  cases known : stream.registered with
  | false =>
      rw [close_of_forgotten found known]
      simp
  | true =>
      unfold close
      rw [lookup_of_registered found owned known]
      dsimp only
      split
      · rename_i short
        simp [short]
      · rename_i whole
        rw [not_not] at whole
        simp [whole]

theorem close_cases (registry : StreamRegistry) (now : Nat) (sender : Option BusName)
    (id : String) (totalLen : Nat) :
    (registry.close now sender id totalLen).1 = .ok .null ∨
      ∃ error, (registry.close now sender id totalLen).1 = .error error := by
  unfold close
  split
  · exact .inr ⟨_, rfl⟩
  · dsimp only
    split
    · exact .inr ⟨_, rfl⟩
    · exact .inl rfl

end StreamRegistry

namespace StreamState

theorem permits_registered (state : StreamState) (event : StreamEvent) :
    state.Permits Inbound.OnlyRegistered event := by
  intro completed completes
  unfold completing at completes
  split at completes
  · split at completes
    · split at completes
      · rename_i stream found
        split at completes
        · cases completes
          exact StreamRegistry.lookup_registered found
        · cases completes
      · cases completes
    · cases completes
  · cases completes

theorem numbered_of_reachable {state : StreamState} (reached : system.Reachable state) :
    state.registry.Numbered := by
  have everywhere : Everywhere (fun _ => True) state :=
    everywhere_of_moves (fun _ _ _ _ => trivial) (fun _ _ _ held => held)
      (unrestricted reached)
  exact everywhere.numbered

def Has (property : Inbound × Transcript → Prop) (id : String) (state : StreamState) : Prop :=
  state.registry.Numbered ∧ ∃ stream, state.registry.streams.lookup id = some stream ∧
    property (stream, state.transcripts id)

theorem kept_of_run {property : Inbound × Transcript → Prop}
    (preserved : ∀ before after, Inbound.Move Inbound.OnlyRegistered before after →
      property before → property after)
    {first last : StreamState} {events : List StreamEvent} {id : String}
    {stream final : Inbound} (numbered : first.registry.Numbered)
    (run : system.Run first events last)
    (found : first.registry.streams.lookup id = some stream)
    (ended : last.registry.streams.lookup id = some final)
    (held : property (stream, first.transcripts id)) :
    property (final, last.transcripts id) := by
  have kept : ∀ before event after, system.step before event after →
      Has property id before → Has property id after := by
    rintro before event after ⟨possible, rfl⟩ ⟨numbered, current, present, held⟩
    have evolves := next_evolves numbered possible (permits_registered before event)
    obtain ⟨changed, kept, moves⟩ := evolves.kept id current present
    exact ⟨evolves.numbered numbered, changed, kept, moves.preserves preserved held⟩
  have has : Has property id last := run.preserves kept ⟨numbered, stream, found, held⟩
  obtain ⟨_, current, present, holds⟩ := has
  rw [ended, Option.some.injEq] at present
  rw [present]
  exact holds

/-- What a call is answered, if it is not left waiting. -/
def answer (state : StreamState) (header : Header) (body : Value) (order : List String) :
    Progress :=
  (state.registry.dispatch state.now header body order).1

/-- A close of `stream` succeeds exactly if its verdict is a complete end, which is what
its reader meets, and fails on a stream that was aborted before. -/
structure Reports (stream : Inbound) (answer : Progress) (final : Inbound) : Prop where
  recorded : answer = .done (.ok .null) ↔ final.outcome = some .complete
  seen : answer = .done (.ok .null) ↔ final.ending = .ok none
  refused : ∀ reason, stream.outcome = some (.aborted reason) →
    ∃ error, answer = .done (.error error)

/-- A verdict that was there before is what the totals say. -/
def Agrees (stream : Inbound) (totalLen : Nat) : Prop :=
  ∀ verdict, stream.outcome = some verdict →
    (verdict = .complete ↔ stream.registered = true ∧ stream.received = totalLen)

section Close

variable {before after last : StreamState} {header : Header} {body : Value}
variable {order : List String} {id : String} {totalLen : Nat}
variable {events : List StreamEvent} {stream final : Inbound}

theorem answer_of_close (parsed : StreamRegistry.parse header body = .ok (.close id totalLen)) :
    before.answer header body order =
      .done (before.registry.close before.now header.sender id totalLen).1 := by
  unfold answer StreamRegistry.dispatch
  rw [parsed]
  rfl

theorem next_of_close (parsed : StreamRegistry.parse header body = .ok (.close id totalLen)) :
    (before.next (.call header body order)).registry =
      (before.registry.close before.now header.sender id totalLen).2 := by
  unfold next
  dsimp only
  unfold StreamRegistry.dispatch
  rw [parsed]
  rfl

theorem verdict_of_close (reached : system.Reachable before)
    (parsed : StreamRegistry.parse header body = .ok (.close id totalLen))
    (found : before.registry.streams.lookup id = some stream)
    (owned : stream.owner = header.sender)
    (closes : system.step before (.call header body order) after)
    (run : system.Run after events last)
    (kept : last.registry.streams.lookup id = some final) :
    final.outcome = some .complete ↔
      match stream.outcome with
      | some verdict => verdict = .complete
      | none => stream.registered = true ∧ stream.received = totalLen := by
  have whole : system.Run before (.call header body order :: events) last :=
    (System.Run.single closes).append run
  have numbered := numbered_of_reachable reached
  cases decided : stream.outcome with
  | some verdict =>
      have stays : final.outcome = some verdict :=
        kept_of_run (fun _ _ => Inbound.Move.verdict_kept) numbered whole found kept decided
      dsimp only
      rw [stays, Option.some.injEq]
  | none =>
      dsimp only
      cases known : stream.registered with
      | false =>
          have lost : Inbound.Lost (stream, before.transcripts id) := by
            refine ⟨known, ?_⟩
            dsimp only
            rw [decided]
            intro same
            cases same
          have never : Inbound.Lost (final, last.transcripts id) :=
            kept_of_run (fun _ _ => Inbound.Move.lost_kept) numbered whole found kept lost
          simp [never.2]
      | true =>
          obtain ⟨_, rfl⟩ := closes
          have reached' : system.Reachable (before.next (.call header body order)) :=
            reached.step ⟨‹_›, rfl⟩
          have closed : (before.next (.call header body order)).registry.streams.lookup id =
              some (stream.closed before.now totalLen) := by
            rw [next_of_close parsed]
            exact StreamRegistry.close_of_registered found owned known before.now totalLen
          have stays := kept_of_run (fun _ _ => Inbound.Move.verdict_kept)
            (numbered_of_reachable reached') run closed kept
            (Inbound.closed_of_undecided decided before.now totalLen)
          dsimp only at stays
          rw [stays, Option.some.injEq]
          split <;> simp_all

/-- A close tells how its stream ended exactly if the verdict before it, where there was
one, is what its own comparison gives. -/
theorem close_reports_iff (reached : system.Reachable before)
    (parsed : StreamRegistry.parse header body = .ok (.close id totalLen))
    (found : before.registry.streams.lookup id = some stream)
    (owned : stream.owner = header.sender)
    (closes : system.step before (.call header body order) after)
    (run : system.Run after events last)
    (kept : last.registry.streams.lookup id = some final) :
    Reports stream (before.answer header body order) final ↔ Agrees stream totalLen := by
  have succeeds : before.answer header body order = .done (.ok .null) ↔
      stream.registered = true ∧ stream.received = totalLen := by
    rw [answer_of_close parsed, Progress.done.injEq]
    exact StreamRegistry.close_ok_iff found owned before.now totalLen
  have verdict := verdict_of_close reached parsed found owned closes run kept
  constructor
  · intro reports recorded decided
    rw [decided] at verdict
    exact verdict.symm.trans (reports.recorded.symm.trans succeeds)
  · intro agrees
    have recorded : before.answer header body order = .done (.ok .null) ↔
        final.outcome = some .complete := by
      cases decided : stream.outcome with
      | none =>
          rw [decided] at verdict
          exact succeeds.trans verdict.symm
      | some recorded =>
          rw [decided] at verdict
          exact succeeds.trans ((agrees recorded decided).symm.trans verdict.symm)
    refine ⟨recorded, recorded.trans (Inbound.ending_clean_iff final).symm, ?_⟩
    intro reason aborted
    rw [aborted] at verdict
    have fails : final.outcome ≠ some .complete := by
      intro complete
      cases verdict.mp complete
    have failed := mt recorded.mp fails
    rw [answer_of_close parsed, Progress.done.injEq] at failed
    rcases before.registry.close_cases before.now header.sender id totalLen with done | error
    · exact absurd done failed
    · obtain ⟨error, same⟩ := error
      exact ⟨error, by rw [answer_of_close parsed, same]⟩

end Close

def openEmpty : StreamEvent :=
  .call (streamCall openMember) (.array [.object []]) []

def closeEmpty : StreamEvent :=
  .call (streamCall closeMember) (.array [.string "s1", .number (.posInt 0)]) ["s1"]

def abortEmpty : StreamEvent :=
  .call (streamCall abortMember) (.array [.string "s1"]) ["s1"]

/-- Three bytes are written, and the sender aborts. -/
def abortWritten : List StreamEvent :=
  [openEmpty,
    .call (streamCall writeMember)
      (.array [.string "s1", .number (.posInt 0), .string "TWFu"]) ["s1"],
    .send "s1", abortEmpty]

def closeLonger : StreamEvent :=
  .call (streamCall closeMember) (.array [.string "s1", .number (.posInt 5)]) ["s1"]

/-- A close of more bytes than were written finds the verdict that it would give. -/
theorem closeLonger_reports : ∃ stream final,
    stream.outcome = some (.aborted "the sender aborted the stream") ∧ stream.received = 3 ∧
      Reports stream ((abortWritten.foldl next start).answer (streamCall closeMember)
        (.array [.string "s1", .number (.posInt 5)]) ["s1"]) final := by
  have aborted : ((abortWritten.foldl next start).registry.streams.lookup "s1").map
      (fun stream => (stream.owner, stream.outcome, stream.received)) =
        some (some (BusName.unique 1), some (.aborted "the sender aborted the stream"), 3) := by
    decide +kernel
  have ended : (((abortWritten.foldl next start).next closeLonger).registry.streams.lookup
      "s1").isSome = true := by
    decide +kernel
  obtain ⟨stream, found, seen⟩ := Option.map_eq_some_iff.mp aborted
  obtain ⟨final, kept⟩ := Option.isSome_iff_exists.mp ended
  rw [Prod.mk.injEq, Prod.mk.injEq] at seen
  have reached : system.Reachable (abortWritten.foldl next start) :=
    ⟨start, abortWritten, rfl,
      System.Run.of_checked (fun _ _ => of_decide_eq_true) (by decide +kernel)⟩
  have parsed : StreamRegistry.parse (streamCall closeMember)
      (.array [.string "s1", .number (.posInt 5)]) = .ok (.close "s1" 5) := rfl
  have possible : (abortWritten.foldl next start).Possible closeLonger := by
    decide +kernel
  have agrees : Agrees stream 5 := by
    intro verdict decided
    rw [seen.2.1] at decided
    cases decided
    simp [seen.2.2]
  exact ⟨stream, final, seen.2.1, seen.2.2,
    (close_reports_iff reached parsed found seen.1 ⟨possible, rfl⟩ .nil kept).mpr agrees⟩

/-- An aborted stream that nobody reads yet is still closed with success. -/
theorem abortThenClose_succeeds :
    ¬ ∀ (before after last : StreamState) (header : Header) (body : Value)
      (order : List String) (id : String) (totalLen : Nat) (events : List StreamEvent)
      (stream final : Inbound), system.Reachable before →
        StreamRegistry.parse header body = .ok (.close id totalLen) →
        before.registry.streams.lookup id = some stream → stream.owner = header.sender →
        system.step before (.call header body order) after → system.Run after events last →
        last.registry.streams.lookup id = some final →
        Reports stream (before.answer header body order) final := by
  intro reports
  have aborted : (((start.next openEmpty).next abortEmpty).registry.streams.lookup "s1").map
      (fun stream => (stream.owner, stream.registered, stream.received)) =
        some (some (BusName.unique 1), true, 0) := by
    decide
  have ended : ((((start.next openEmpty).next abortEmpty).next closeEmpty).registry.streams.lookup
      "s1").map Inbound.outcome = some (some (.aborted "the sender aborted the stream")) := by
    decide
  obtain ⟨stream, found, seen⟩ := Option.map_eq_some_iff.mp aborted
  obtain ⟨final, kept, verdict⟩ := Option.map_eq_some_iff.mp ended
  rw [Prod.mk.injEq, Prod.mk.injEq] at seen
  obtain ⟨owned, known, received⟩ := seen
  have reached : system.Reachable ((start.next openEmpty).next abortEmpty) := by
    refine ⟨start, [openEmpty] ++ [abortEmpty], rfl, .snoc (.single ⟨?_, rfl⟩) ⟨?_, rfl⟩⟩
    · decide
    · decide
  have parsed : StreamRegistry.parse (streamCall closeMember)
      (.array [.string "s1", .number (.posInt 0)]) = .ok (.close "s1" 0) := rfl
  have succeeds := (StreamRegistry.close_ok_iff found owned
    ((start.next openEmpty).next abortEmpty).now 0).mpr ⟨known, received⟩
  have complete := (reports _ _ _ _ _ ["s1"] "s1" 0 [] stream final reached parsed found owned
    ⟨by decide, rfl⟩ .nil kept).recorded.mp (by
      rw [answer_of_close parsed, Progress.done.injEq]
      exact succeeds)
  rw [verdict] at complete
  cases complete

end StreamState

end TinyBus
