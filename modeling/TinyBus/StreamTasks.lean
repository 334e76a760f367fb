/-
The handlers of one stream as tasks that run at once.  A step of a task is one
section under the lock of the registry, one section under a lock of the stream
or one access to an atomic; a task is what it still has to do.

The last fields of the shared state record what happened, and no step reads them.
-/

import TinyBus.Stream
import TinyBus.Library.Tasks

namespace TinyBus

open TransitionSystem

namespace StreamTask

/-- What the handlers of one stream share.  `lock` is the task in the lock of the
registry, and `gate` the write that holds the gate. -/
structure Shared where
  key : String
  owner : Option BusName
  declaredLen : Option Nat
  window : Nat
  limits : StreamLimits
  now : Nat
  registered : Bool
  lock : Option Nat
  gate : Option Nat
  nextSeq : Nat
  received : Nat
  writing : Bool
  reader : ReadingHalf
  outcome : Option Outcome
  aborted : Bool
  lastActivity : Nat
  buffered : List Chunk
  pushed : List (Nat × PendingWrite)
  delivered : List Chunk
  drained : Bool
  verified : Option Nat
  cleanEnd : Bool

/-- What a handler runs for.  An open of another stream reaps and evicts this one. -/
inductive Handler where
  | write (sender : Option BusName) (seq : Nat) (data : String)
  | close (sender : Option BusName) (totalLen : Nat)
  | abort (sender : Option BusName)
  | openStream
  | takeReader
  deriving DecidableEq

/-- The steps in which a stream is ended and what a task held is let go. -/
inductive Action where
  | remove
  | complete (totalLen : Nat)
  | fail (reason : String)
  | raise
  | touch
  | sealed
  | dropReader
  | forget
  | unlock
  | dropGate
  | dropWriter
  deriving DecidableEq

inductive Phase where
  | start
  | found
  | waiting (write : PendingWrite)
  | gated (write : PendingWrite)
  | numbering (write : PendingWrite)
  | measuring (write : PendingWrite)
  | counting (write : PendingWrite) (received : Nat)
  | storing (write : PendingWrite) (received : Nat)
  | touching (write : PendingWrite)
  | checking (write : PendingWrite)
  | polling (write : PendingWrite)
  | offering (write : PendingWrite)
  | inspecting
  | tallying
  | taking
  | running (program : List Action) (answer : Except Error Value)
  | answered (answer : Except Error Value)

structure Task where
  handler : Handler
  phase : Phase

def kill (reason : String) : List Action :=
  [.remove, .fail reason, .sealed, .dropReader]

def reap : List Action :=
  [.fail "the stream went idle and was reaped", .sealed, .dropReader, .remove, .unlock]

def evict : List Action :=
  [.remove, .fail "the receiver never collected the stream", .unlock]

def abort : List Action :=
  [.fail "the sender aborted the stream", .touch, .sealed, .forget, .unlock]

/-- A write that gives up its place and ends the stream. -/
def refuse (reason : String) (error : Error) : Phase :=
  .running (.dropGate :: kill reason ++ [.dropWriter]) (.error error)

def yield : Phase :=
  .running [.dropWriter, .dropGate]
    (.error (.streamAborted "the sender aborted the stream"))

namespace Shared

def free (shared : Shared) (self : Nat) : Bool :=
  shared.lock = none || shared.lock = some self

/-- An action, and what it adds to do: the first verdict that is an abort raises
the flag in a step of its own. -/
def act (shared : Shared) (self : Nat) : Action → Option (Shared × List Action)
  | .remove =>
      if shared.free self then some ({ shared with registered := false }, []) else none
  | .complete totalLen =>
      match shared.outcome with
      | none =>
          some ({ shared with outcome := some .complete, verified := some totalLen }, [])
      | some _ => some (shared, [])
  | .fail reason =>
      match shared.outcome with
      | none => some ({ shared with outcome := some (.aborted reason) }, [.raise])
      | some _ => some (shared, [])
  | .raise => some ({ shared with aborted := true }, [])
  | .touch => some ({ shared with lastActivity := shared.now }, [])
  | .sealed => some ({ shared with writing := false }, [])
  | .dropReader =>
      if shared.reader = .unclaimed then
        some ({ shared with reader := .dropped, buffered := [] }, [])
      else some (shared, [])
  | .forget =>
      if shared.reader = .unclaimed then some (shared, [])
      else some ({ shared with registered := false }, [])
  | .unlock => some ({ shared with lock := none }, [])
  | .dropGate => some ({ shared with gate := none }, [])
  | .dropWriter => some (shared, [])

def owns (shared : Shared) (sender : Option BusName) : Bool :=
  shared.registered && decide (shared.owner = sender)

def idle (shared : Shared) : Bool :=
  shared.registered &&
    !decide (shared.now - shared.lastActivity < shared.limits.idleTimeout)

/-- The first step of a handler, under the lock of the registry. -/
def enter (shared : Shared) (self : Nat) : Handler → Shared × Phase
  | .write sender _ _ | .close sender _ =>
      (shared,
        if shared.owns sender then .found else .answered (.error (.unknownStream shared.key)))
  | .abort sender =>
      if shared.owns sender then
        ({ shared with lock := some self }, .running StreamTask.abort (.ok .null))
      else (shared, .answered (.error (.unknownStream shared.key)))
  | .openStream => ({ shared with lock := some self }, .inspecting)
  | .takeReader =>
      if shared.registered then
        (if shared.writing then shared else { shared with registered := false }, .taking)
      else (shared, .answered (.error (.unknownStream shared.key)))

def accept (shared : Shared) (seq : Nat) (data : String) : Phase :=
  match Base64.decode data with
  | .error error => .answered (.error error)
  | .ok chunk =>
      if maxChunkLen < chunk.length then
        .running (kill "the sender exceeded the chunk cap")
          (.error (.protocol ("chunk of " ++ toString chunk.length ++ " bytes exceeds the " ++
            toString maxChunkLen ++ "-byte cap")))
      else .waiting ⟨seq, chunk, shared.limits⟩

def closing (shared : Shared) (totalLen : Nat) : Phase :=
  if shared.received ≠ totalLen then
    .running [.touch, .fail "the sender closed a truncated stream", .sealed]
      (.error (.protocol ("stream closed after " ++ toString shared.received ++ " bytes, " ++
        toString totalLen ++ " declared")))
  else .running [.touch, .complete totalLen, .sealed] (.ok .null)

def exceeds (shared : Shared) (write : PendingWrite) (received : Nat) : Bool :=
  decide (write.limits.maxStreamLen < received) ||
    shared.declaredLen.any (fun total => decide (total < received))

def offer (shared : Shared) (self : Nat) (write : PendingWrite) : Shared × Phase :=
  if shared.reader = .dropped then
    (shared, refuse "the receiver stopped reading"
      (.streamAborted "the receiver stopped reading"))
  else if shared.buffered.length < shared.window then
    ({ shared with
        buffered := shared.buffered ++ [write.chunk]
        pushed := shared.pushed ++ [(self, write)] },
      .running [.dropGate, .touch, .dropWriter] (.ok .null))
  else (shared, .polling write)

end Shared

/-- One step of a task; `choice` tells an open whether this stream is among those
it evicts. -/
def step (self : Nat) (choice : Bool) (shared : Shared) (task : Task) :
    Option (Shared × Task) :=
  let go (shared : Shared) (phase : Phase) : Option (Shared × Task) :=
    some (shared, { task with phase := phase })
  match task.phase with
  | .start =>
      if shared.lock = none then
        let entered := shared.enter self task.handler
        go entered.1 entered.2
      else none
  | .found =>
      match task.handler with
      | .write _ seq data => go shared (shared.accept seq data)
      | .close _ totalLen => go shared (shared.closing totalLen)
      | _ => none
  | .waiting write =>
      if shared.gate = none then go { shared with gate := some self } (.gated write) else none
  | .gated write =>
      if shared.writing then go shared (.numbering write)
      else go shared (.running [.dropGate]
        (.error (.streamAborted "the stream is already closed")))
  | .numbering write =>
      if write.seq ≠ shared.nextSeq then
        go shared (refuse "the sender wrote chunks out of order"
          (.protocol "stream chunk arrived out of order"))
      else go shared (.measuring write)
  | .measuring write =>
      let received := shared.received + write.chunk.length
      if shared.exceeds write received then
        go shared (refuse "the sender exceeded the length it may write"
          (.streamTooLarge write.limits.maxStreamLen))
      else go shared (.counting write received)
  | .counting write received =>
      go { shared with nextSeq := shared.nextSeq + 1 } (.storing write received)
  | .storing write received => go { shared with received := received } (.touching write)
  | .touching write => go { shared with lastActivity := shared.now } (.checking write)
  | .checking write => go shared (if shared.aborted then yield else .polling write)
  | .polling write => go shared (if shared.aborted then yield else .offering write)
  | .offering write =>
      let offered := shared.offer self write
      go offered.1 offered.2
  | .inspecting => go shared (if shared.idle then .running reap (.ok .null) else .tallying)
  | .tallying =>
      go shared (if shared.registered && !shared.writing && choice then
        .running evict (.ok .null)
      else .running [.unlock] (.ok .null))
  | .taking =>
      if shared.reader = .unclaimed then
        go { shared with reader := .claimed } (.answered (.ok .null))
      else go shared (.answered (.error (.streamAborted "the stream is already being read")))
  | .running [] answer => go shared (.answered answer)
  | .running (action :: rest) answer =>
      (shared.act self action).bind (fun done => go done.1 (.running (done.2 ++ rest) answer))
  | .answered _ => none

def Phase.holdsGate : Phase → Bool
  | .gated _ | .numbering _ | .measuring _ | .counting _ _ | .storing _ _ | .touching _
  | .checking _ | .polling _ | .offering _ => true
  | .running program _ => program.contains .dropGate
  | _ => false

def Phase.holdsWriter : Phase → Bool
  | .numbering _ | .measuring _ | .counting _ _ | .storing _ _ | .touching _
  | .checking _ | .polling _ | .offering _ => true
  | .running program _ => program.contains .dropWriter
  | _ => false

inductive Outside where
  | receive
  | conclude
  | dropReader
  | setLimits (limits : StreamLimits)
  | elapse (duration : Nat)

def noWriter (state : Tasks Shared Task) : Bool :=
  !state.shared.writing && state.tasks.pairs.all (fun entry => !entry.2.phase.holdsWriter)

/-- The reader takes a chunk, or learns that the channel is empty and closed, and
then looks at the verdict. -/
def outside : Outside → Tasks Shared Task → Shared
  | .receive, state =>
      if state.shared.reader = .claimed then
        match state.shared.buffered with
        | chunk :: rest =>
            { state.shared with
              buffered := rest, delivered := state.shared.delivered ++ [chunk] }
        | [] => { state.shared with drained := state.shared.drained || noWriter state }
      else state.shared
  | .conclude, state =>
      if state.shared.reader = .claimed ∧ state.shared.drained = true ∧
          state.shared.outcome = some .complete then
        { state.shared with cleanEnd := true }
      else state.shared
  | .dropReader, state =>
      if state.shared.reader = .claimed then
        { state.shared with reader := .dropped, buffered := [] }
      else state.shared
  | .setLimits limits, state => { state.shared with limits := limits }
  | .elapse duration, state => { state.shared with now := state.shared.now + duration }

def kind : Tasks.Kind Shared Task Handler Bool Outside :=
  { start := fun handler => ⟨handler, .start⟩, step := step, outside := outside }

def fresh (key : String) (sender : Option BusName) (descriptor : StreamDescriptor)
    (limits : StreamLimits) (now : Nat) : Shared :=
  { key := key, owner := sender, declaredLen := descriptor.totalLen,
    window := max limits.windowChunks 1, limits := limits, now := now, registered := true,
    lock := none, gate := none, nextSeq := 0, received := 0, writing := true,
    reader := .unclaimed, outcome := none, aborted := false, lastActivity := now,
    buffered := [], pushed := [], delivered := [], drained := false, verified := none,
    cleanEnd := false }

def Fresh (shared : Shared) : Prop :=
  ∃ key sender descriptor limits now, shared = fresh key sender descriptor limits now

abbrev Event := Tasks.Event Handler Bool Outside

def system : System (Tasks Shared Task) Event := Tasks.system kind Fresh

end StreamTask

end TinyBus
