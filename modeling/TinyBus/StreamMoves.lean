/-
What one operation can do to one stream.  Every operation takes each stream
through a few moves; a fact that every move preserves is preserved by every
operation, whatever stream it was about.
-/

import TinyBus.Stream
import Mathlib.Logic.Relation

namespace TinyBus

/-- What became visible of one stream: the bytes its reader was given, the total
of the close that ended it as complete, and whether its reader met a clean end. -/
structure Transcript where
  delivered : List UInt8
  announced : Option Nat
  cleanEnd : Bool
  deriving DecidableEq

namespace Transcript

def blank : Transcript := { delivered := [], announced := none, cleanEnd := false }

def announce (transcript : Transcript) (stream : Inbound) (totalLen : Nat) : Transcript :=
  if stream.outcome = none ∧ stream.received = totalLen then
    { transcript with announced := some totalLen }
  else transcript

def observe (transcript : Transcript) :
    Option (Except Error (Option Chunk)) → Transcript
  | some (.ok (some chunk)) =>
      { transcript with delivered := transcript.delivered ++ chunk }
  | some (.ok none) => { transcript with cleanEnd := true }
  | _ => transcript

end Transcript

namespace Inbound

/-- The moves of one stream beside its transcript; `completes` says which totals
may complete it. -/
inductive Move (completes : Inbound → Nat → Prop) :
    Inbound × Transcript → Inbound × Transcript → Prop
  | finish {stream : Inbound} {transcript : Transcript} (reason : String) :
      Move completes (stream, transcript) (stream.finish (.aborted reason), transcript)
  | sealed {stream : Inbound} {transcript : Transcript} :
      Move completes (stream, transcript) (stream.sealed, transcript)
  | touch {stream : Inbound} {transcript : Transcript} (now : Nat) :
      Move completes (stream, transcript) (stream.touch now, transcript)
  | unregister {stream : Inbound} {transcript : Transcript} :
      Move completes (stream, transcript) (stream.unregister, transcript)
  | dropReader {stream : Inbound} {transcript : Transcript} :
      Move completes (stream, transcript) (stream.dropReader, transcript)
  | close {stream : Inbound} {transcript : Transcript} (now totalLen : Nat)
      (completing : stream.outcome = none → stream.received = totalLen →
        completes stream totalLen) :
      Move completes (stream, transcript)
        (stream.closed now totalLen, transcript.announce stream totalLen)
  | queue {stream : Inbound} {transcript : Transcript} (gate : List PendingWrite) :
      Move completes (stream, transcript) ({ stream with gate := gate }, transcript)
  | count {stream : Inbound} {transcript : Transcript} (now : Nat) (write : PendingWrite)
      (accepted : stream.refusal write = none) (free : stream.sending = none) :
      Move completes (stream, transcript)
        ({ stream.count now write with
            sending := if stream.aborted then none else some write }, transcript)
  | giveUp {stream : Inbound} {transcript : Transcript}
      (ended : stream.aborted = true ∨ stream.reader = .dropped) :
      Move completes (stream, transcript) ({ stream with sending := none }, transcript)
  | push {stream : Inbound} {transcript : Transcript} (now : Nat) (write : PendingWrite)
      (pending : stream.sending = some write) :
      Move completes (stream, transcript)
        ({ stream with
            sending := none, buffered := stream.buffered ++ [write.chunk],
            lastActivity := now }, transcript)
  | claim {stream : Inbound} {transcript : Transcript}
      (unclaimed : stream.reader = .unclaimed) :
      Move completes (stream, transcript) ({ stream with reader := .claimed }, transcript)
  | poll {stream : Inbound} {transcript : Transcript} (timedOut : Bool)
      (claimed : stream.reader = .claimed) :
      Move completes (stream, transcript)
        ((stream.nextChunk timedOut).2, transcript.observe (stream.nextChunk timedOut).1)
  | abandon {stream : Inbound} {transcript : Transcript}
      (claimed : stream.reader = .claimed) :
      Move completes (stream, transcript)
        ({ stream with reader := .dropped, buffered := [] }, transcript)

abbrev Moves (completes : Inbound → Nat → Prop) :
    Inbound × Transcript → Inbound × Transcript → Prop :=
  Relation.ReflTransGen (Move completes)

theorem Moves.preserves {completes : Inbound → Nat → Prop}
    {property : Inbound × Transcript → Prop}
    (preserved : ∀ before after, Move completes before after →
      property before → property after)
    {before after : Inbound × Transcript} (moves : Moves completes before after)
    (held : property before) : property after := by
  induction moves with
  | refl => exact held
  | tail _ move still => exact preserved _ _ move still

@[simp] theorem finish_registered (stream : Inbound) (outcome : Outcome) :
    (stream.finish outcome).registered = stream.registered := by
  unfold finish
  split <;> rfl

@[simp] theorem dropReader_registered (stream : Inbound) :
    stream.dropReader.registered = stream.registered := by
  unfold dropReader
  split <;> rfl

variable {completes : Inbound → Nat → Prop}

theorem killed_moves (stream : Inbound) (transcript : Transcript) (reason : String) :
    Moves completes (stream, transcript) (stream.killed reason, transcript) := by
  apply Relation.ReflTransGen.head .unregister
  apply Relation.ReflTransGen.head (.finish reason)
  apply Relation.ReflTransGen.head .sealed
  exact Relation.ReflTransGen.single .dropReader

theorem reaped_moves (stream : Inbound) (transcript : Transcript) :
    Moves completes (stream, transcript) (stream.reaped, transcript) :=
  killed_moves stream transcript "the stream went idle and was reaped"

theorem evicted_moves (stream : Inbound) (transcript : Transcript) :
    Moves completes (stream, transcript) (stream.evicted, transcript) := by
  apply Relation.ReflTransGen.head .unregister
  exact Relation.ReflTransGen.single (.finish _)

theorem abandoned_moves (stream : Inbound) (transcript : Transcript) (now : Nat) :
    Moves completes (stream, transcript) (stream.abandoned now, transcript) := by
  have ended : Moves completes (stream, transcript)
      (((stream.finish (.aborted "the sender aborted the stream")).touch now).sealed,
        transcript) := by
    apply Relation.ReflTransGen.head (.finish _)
    apply Relation.ReflTransGen.head (.touch now)
    exact Relation.ReflTransGen.single .sealed
  unfold abandoned
  dsimp only
  split
  · exact ended
  · exact ended.tail .unregister

end Inbound

end TinyBus
