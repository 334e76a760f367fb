/-
What a peer can learn of the streams of another, and what it can do to them.  A
stream it does not own is to it a stream that does not exist; and of the streams
of others its own operations only clear away those that went idle.
-/

import TinyBus.CleanEnd
import TinyBus.StreamTable

namespace TinyBus

open TransitionSystem

namespace StreamRegistry

/-- The sender has no stream under the id. -/
def Foreign (registry : StreamRegistry) (sender : Option BusName) (id : String) : Prop :=
  ∀ stream, registry.get id = some stream → stream.owner ≠ sender

variable {registry : StreamRegistry}

theorem lookup_of_foreign {sender : Option BusName} {id : String}
    (foreign : registry.Foreign sender id) :
    registry.lookup id sender = .error (.unknownStream id) := by
  unfold lookup
  cases got : registry.get id with
  | none => rfl
  | some stream => exact if_neg (foreign stream got)

theorem perform_of_foreign {sender : Option BusName} {id : String}
    (foreign : registry.Foreign sender id) {call : StreamCall} (about : call.target = some id)
    (now : Nat) (order : List String) :
    registry.perform now sender order call =
      (.done (.error (.unknownStream id)), registry) := by
  have refused := lookup_of_foreign foreign
  cases call with
  | openStream descriptor => cases about
  | write id' seq data =>
      cases about
      simp only [perform, write, refused]
  | close id' totalLen =>
      cases about
      simp only [perform, close, refused]
  | abort id' =>
      cases about
      simp only [perform, abort, refused]

/-- What a peer is told when it calls about a stream that is not its own. -/
def blindAnswer (header : Header) (body : Value) (id : String) : Except Error Value :=
  match parse header body with
  | .error error => .error error
  | .ok _ => .error (.unknownStream id)

theorem dispatch_of_foreign {header : Header} {body : Value} {id : String}
    (about : ∀ call, parse header body = .ok call → call.target = some id)
    (foreign : registry.Foreign header.sender id) (now : Nat) (order : List String) :
    registry.dispatch now header body order =
      (.done (blindAnswer header body id), registry) := by
  unfold dispatch blindAnswer
  cases parsed : parse header body with
  | error error => rfl
  | ok call => exact perform_of_foreign foreign (about call parsed) now order

/-- A peer that calls about a stream of another gets the answer it gets where there
is no such stream, and neither registry changes. -/
theorem dispatch_indistinguishable (registry absent : StreamRegistry) (header : Header)
    (body : Value) (id : String) (now now' : Nat) (order order' : List String)
    (about : ∀ call, parse header body = .ok call → call.target = some id)
    (foreign : registry.Foreign header.sender id) (missing : absent.get id = none) :
    registry.dispatch now header body order =
        (.done (blindAnswer header body id), registry) ∧
      absent.dispatch now' header body order' =
        (.done (blindAnswer header body id), absent) := by
  have nobody : absent.Foreign header.sender id := by
    intro stream got
    rw [missing] at got
    cases got
  exact ⟨dispatch_of_foreign about foreign now order,
    dispatch_of_foreign about nobody now' order'⟩

/-- The peer `:1.2` has opened the stream `s1`. -/
def ofOther : StreamRegistry :=
  (new.openStream 0 (some (BusName.unique 2)) ⟨none, none⟩ []).2

def writeHeader : Header := StreamState.streamCall writeMember

def writeBody : Value := .array [.string "s1", .number (.posInt 0), .string "TWFu"]

theorem write_indistinguishable :
    ofOther.dispatch 0 writeHeader writeBody [] =
        (.done (blindAnswer writeHeader writeBody "s1"), ofOther) ∧
      new.dispatch 0 writeHeader writeBody [] =
        (.done (blindAnswer writeHeader writeBody "s1"), new) := by
  have parsed : parse writeHeader writeBody = .ok (.write "s1" 0 "TWFu") := by
    rfl
  have owned : (ofOther.get "s1").map Inbound.owner = some (some (BusName.unique 2)) := by
    decide
  have absent : new.get "s1" = none := by
    rfl
  apply dispatch_indistinguishable ofOther new writeHeader writeBody "s1" 0 0 [] []
  · intro call read
    rw [parsed] at read
    cases read
    rfl
  · intro stream got
    rw [got, Option.map_some, Option.some.injEq] at owned
    rw [owned]
    decide
  · exact absent

structure Spares (peer : Option BusName) (now : Nat) (before after : StreamRegistry) :
    Prop where
  limits : after.limits = before.limits
  kept : ∀ id stream, before.get id = some stream → stream.owner ≠ peer →
    stream.Active now before.limits.idleTimeout → after.get id = some stream
  unmixed : ∀ id stream, after.get id = some stream → stream.owner ≠ peer →
    before.get id = some stream

theorem Spares.refl (peer : Option BusName) (now : Nat) (registry : StreamRegistry) :
    Spares peer now registry registry :=
  ⟨rfl, fun _ _ got _ _ => got, fun _ _ got _ => got⟩

theorem Confined.spares {completes : Inbound → Nat → Prop} {id : String}
    {before after : StreamRegistry} {heard hears : String → Transcript}
    (confined : Confined id before after) (evolves : Evolves completes before after heard hears)
    {stream : Inbound} (found : before.streams.lookup id = some stream)
    {peer : Option BusName} (owner : stream.owner = peer) (now : Nat) :
    Spares peer now before after := by
  have elsewhere : ∀ other, other ≠ id → after.get other = before.get other := by
    intro other different
    unfold get
    rw [confined.others other different]
  refine ⟨confined.limits, ?_, ?_⟩
  · intro other current got foreign _
    by_cases same : other = id
    · subst same
      rw [(get_eq_some_iff.mp got).1, Option.some.injEq] at found
      subst found
      exact absurd owner foreign
    · rw [elsewhere other same, got]
  · intro other changed got foreign
    by_cases same : other = id
    · subst same
      obtain ⟨current, got', wanes⟩ := confined.earlier evolves got
      rw [(get_eq_some_iff.mp got').1, Option.some.injEq] at found
      subst found
      exact absurd (wanes.owner.trans owner) foreign
    · rw [← elsewhere other same, got]

theorem openStream_spares (numbered : registry.Numbered) {order : List String}
    (listing : order.Perm registry.registered) (now : Nat) (peer : Option BusName)
    (descriptor : StreamDescriptor) :
    Spares peer now registry (registry.openStream now peer descriptor order).2 := by
  -- What reaping leaves of a stream is the stream.
  have reaped : ∀ id stream, (registry.reap now registry.limits).get id = some stream →
      registry.get id = some stream := by
    intro id stream got
    rw [get_reap] at got
    exact (Option.filter_eq_some_iff.mp got).1
  have spared : ∀ id stream, registry.get id = some stream →
      stream.Active now registry.limits.idleTimeout →
        (registry.reap now registry.limits).get id = some stream := by
    intro id stream got active
    rw [get_reap, got]
    simp [Option.filter, active]
  have opened := openStream_opened listing now peer descriptor
  generalize registry.openStream now peer descriptor order = answered at opened
  cases opened with
  | oversized _ => exact Spares.refl peer now registry
  | @crowded after _ _ limits streams =>
      refine ⟨limits, ?_, ?_⟩
      · intro id stream got _ active
        rw [streams, spared id stream got active]
      · intro id stream got _
        rw [streams] at got
        exact reaped id stream got
  | @added after _ _ limits streams =>
      refine ⟨limits, ?_, ?_⟩
      · intro id stream got foreign active
        rw [streams, if_neg, if_neg, spared id stream got active]
        · intro evicted
          obtain ⟨own, present, owner, _⟩ := mem_of_evictedAt listing evicted
          rw [reaped id own present, Option.some.injEq] at got
          exact foreign (got ▸ owner)
        · intro fresh
          obtain ⟨number, given, named⟩ := numbered id stream (get_some got)
          have equal := streamId_injective (fresh.symm.trans named)
          omega
      · intro id stream got foreign
        rcases added_cases streams got with ⟨_, owner⟩ | ⟨_, past⟩
        · exact absurd owner foreign
        · exact reaped id stream past

end StreamRegistry

namespace StreamState

/-- The peer whose call, or whose waiting write, an event carries on. -/
def issuer (state : StreamState) : StreamEvent → Option (Option BusName)
  | .call header _ _ => some header.sender
  | .takeGate id => (state.registry.streams.lookup id).map Inbound.owner
  | .send id => (state.registry.streams.lookup id).map Inbound.owner
  | _ => none

theorem call_spares {state : StreamState} (numbered : state.registry.Numbered)
    {header : Header} {body : Value} {order : List String}
    (possible : state.Possible (.call header body order)) :
    StreamRegistry.Spares header.sender state.now state.registry
      (state.registry.dispatch state.now header body order).2 := by
  have evolves : Evolves (fun _ _ => True) _ _ _ _ :=
    dispatch_evolves numbered header body order (fun _ _ => trivial)
  unfold StreamRegistry.dispatch at evolves ⊢
  cases parsed : StreamRegistry.parse header body with
  | error error => exact StreamRegistry.Spares.refl _ _ _
  | ok call =>
      rw [parsed] at evolves
      dsimp only at evolves ⊢
      cases about : call.target with
      | none =>
          cases call with
          | openStream descriptor =>
              exact StreamRegistry.openStream_spares numbered possible.2 _ _ descriptor
          | write id seq data => cases about
          | close id totalLen => cases about
          | abort id => cases about
      | some id =>
          by_cases own : ∃ stream, state.registry.get id = some stream ∧
              stream.owner = header.sender
          · obtain ⟨stream, got, owner⟩ := own
            have confined := StreamRegistry.Confined.perform state.registry state.now
              header.sender order about
            exact confined.spares evolves (StreamRegistry.get_some got) owner state.now
          · have foreign : state.registry.Foreign header.sender id := by
              intro stream got owner
              exact own ⟨stream, got, owner⟩
            rw [StreamRegistry.perform_of_foreign foreign about]
            exact StreamRegistry.Spares.refl _ _ _

theorem next_spares {state : StreamState} (numbered : state.registry.Numbered)
    {event : StreamEvent} (possible : state.Possible event) {peer : Option BusName}
    (issued : state.issuer event = some peer) :
    StreamRegistry.Spares peer state.now state.registry (state.next event).registry := by
  have evolves : Evolves (fun _ _ => True) _ _ _ _ :=
    next_evolves numbered possible (fun _ _ => trivial)
  cases event with
  | call header body order =>
      cases issued
      exact call_spares numbered possible
  | takeGate id =>
      obtain ⟨stream, found, owner⟩ := Option.map_eq_some_iff.mp issued
      exact (StreamRegistry.Confined.takeGate state.registry state.now).spares evolves found
        owner state.now
  | send id =>
      obtain ⟨stream, found, owner⟩ := Option.map_eq_some_iff.mp issued
      exact (StreamRegistry.Confined.send state.registry state.now).spares evolves found
        owner state.now
  | claim id how => cases issued
  | poll id timedOut => cases issued
  | dropReader id => cases issued
  | setLimits limits => cases issued
  | elapse duration => cases issued

end StreamState

end TinyBus
