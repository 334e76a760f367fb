/-
The streams of one connection as a system of operations in any order: calls by
any peers, writes going on once the gate or the window lets them, readers
claimed, polled and dropped, limits changed, and time passing.
-/

import TinyBus.StreamMoves
import TinyBus.Library.Transition
import Mathlib.Logic.Function.Basic

namespace TinyBus

open TransitionSystem

inductive Claim where
  | any
  | ownedBy (owner : Option BusName)
  | openedBy (opener : BusName)

def StreamRegistry.announce (registry : StreamRegistry) (sender : Option BusName) (id : String)
    (totalLen : Nat) (heard : String → Transcript) : String → Transcript :=
  match registry.lookup id sender with
  | .ok stream => Function.update heard id ((heard id).announce stream totalLen)
  | .error _ => heard

def StreamRegistry.claim (registry : StreamRegistry) (id : String) :
    Claim → Except Error StreamRegistry.StreamReader × StreamRegistry
  | .any => registry.takeReader id
  | .ownedBy owner => registry.takeReaderFrom id owner
  | .openedBy opener => registry.takeReaderOpenedBy id opener

inductive StreamEvent where
  | call (header : Header) (body : Value) (order : List String)
  | takeGate (id : String)
  | send (id : String)
  | claim (id : String) (how : Claim)
  | poll (id : String) (timedOut : Bool)
  | dropReader (id : String)
  | setLimits (limits : StreamLimits)
  | elapse (duration : Nat)

structure StreamState where
  registry : StreamRegistry
  now : Nat
  transcripts : String → Transcript

namespace StreamState

def start : StreamState :=
  { registry := .new, now := 0, transcripts := fun _ => .blank }

def announced (state : StreamState) (header : Header) (body : Value) :
    String → Transcript :=
  match StreamRegistry.parse header body with
  | .ok (.close id totalLen) =>
      state.registry.announce header.sender id totalLen state.transcripts
  | _ => state.transcripts

def observed (state : StreamState) (id : String) (timedOut : Bool) : String → Transcript :=
  match state.registry.streams.lookup id with
  | some stream =>
      Function.update state.transcripts id
        ((state.transcripts id).observe (stream.nextChunk timedOut).1)
  | none => state.transcripts

def next (state : StreamState) : StreamEvent → StreamState
  | .call header body order =>
      { state with
        registry := (state.registry.dispatch state.now header body order).2
        transcripts := state.announced header body }
  | .takeGate id => { state with registry := (state.registry.takeGate state.now id).2 }
  | .send id => { state with registry := (state.registry.send state.now id).2 }
  | .claim id how => { state with registry := (state.registry.claim id how).2 }
  | .poll id timedOut =>
      { state with
        registry := state.registry.modify id (fun stream => (stream.nextChunk timedOut).2)
        transcripts := state.observed id timedOut }
  | .dropReader id =>
      { state with
        registry := state.registry.modify id (fun stream =>
          { stream with reader := .dropped, buffered := [] }) }
  | .setLimits limits => { state with registry := { state.registry with limits := limits } }
  | .elapse duration => { state with now := state.now + duration }

def HasReader (state : StreamState) (id : String) : Prop :=
  (state.registry.streams.lookup id).map Inbound.reader = some .claimed

/-- Only a claimed reader is polled or dropped, and a call meets the registered
streams in some order. -/
def Possible (state : StreamState) : StreamEvent → Prop
  | .call header _ order =>
      StreamRegistry.handles header = true ∧ order.Perm state.registry.registered
  | .poll id _ => state.HasReader id
  | .dropReader id => state.HasReader id
  | _ => True

instance (state : StreamState) (id : String) : Decidable (state.HasReader id) :=
  inferInstanceAs (Decidable
    ((state.registry.streams.lookup id).map Inbound.reader = some .claimed))

instance (state : StreamState) : DecidablePred state.Possible
  | .call _ _ _ => inferInstanceAs (Decidable (_ ∧ _))
  | .poll id _ => inferInstanceAs (Decidable (state.HasReader id))
  | .dropReader id => inferInstanceAs (Decidable (state.HasReader id))
  | .takeGate _ | .send _ | .claim _ _ | .setLimits _ | .elapse _ =>
      inferInstanceAs (Decidable True)

def completing (state : StreamState) : StreamEvent → Option (Inbound × Nat)
  | .call header body _ =>
      match StreamRegistry.parse header body with
      | .ok (.close id totalLen) =>
          match state.registry.lookup id header.sender with
          | .ok stream =>
              if stream.outcome = none ∧ stream.received = totalLen then
                some (stream, totalLen)
              else none
          | .error _ => none
      | _ => none
  | _ => none

def Permits (completes : Inbound → Nat → Prop) (state : StreamState)
    (event : StreamEvent) : Prop :=
  ∀ completed ∈ state.completing event, completes completed.1 completed.2

def system : System StreamState StreamEvent :=
  (System.ofFunction (· = start) next).restrict Possible

end StreamState

/-! ### What an operation does to the streams -/

/-- Streams stay, change by moves, and new ones get new numbers.  The
transcripts change with them. -/
structure Evolves (completes : Inbound → Nat → Prop)
    (before after : StreamRegistry) (heard hears : String → Transcript) : Prop where
  numbers : before.nextId ≤ after.nextId
  kept : ∀ id stream, before.streams.lookup id = some stream →
    ∃ changed, after.streams.lookup id = some changed ∧
      Inbound.Moves completes (stream, heard id) (changed, hears id)
  added : ∀ id changed, before.streams.lookup id = none →
    after.streams.lookup id = some changed →
      (∃ number, number < after.nextId ∧ id = streamId number) ∧
        ∃ sender descriptor limits now,
          Inbound.Moves completes
            (StreamRegistry.fresh sender descriptor limits now, heard id) (changed, hears id)
  absent : ∀ id, after.streams.lookup id = none → hears id = heard id

def StreamRegistry.Numbered (registry : StreamRegistry) : Prop :=
  ∀ id stream, registry.streams.lookup id = some stream →
    ∃ number, number < registry.nextId ∧ id = streamId number

namespace Evolves

variable {completes : Inbound → Nat → Prop}

variable {before after : StreamRegistry} {heard hears : String → Transcript}

theorem numbered (evolves : Evolves completes before after heard hears)
    (numbered : before.Numbered) :
    after.Numbered := by
  intro id changed found
  cases absent : before.streams.lookup id with
  | none => exact (evolves.added id changed absent found).1
  | some stream =>
      obtain ⟨number, given, named⟩ := numbered id stream absent
      exact ⟨number, Nat.lt_of_lt_of_le given evolves.numbers, named⟩

theorem same (heard : String → Transcript) (streams : after.streams = before.streams)
    (numbers : before.nextId ≤ after.nextId) :
    Evolves completes before after heard heard := by
  refine ⟨numbers, ?_, ?_, fun _ _ => rfl⟩
  · intro id stream found
    exact ⟨stream, by rw [streams, found], .refl⟩
  · intro id changed absent found
    rw [streams, absent] at found
    cases found

theorem refl (registry : StreamRegistry) (heard : String → Transcript) :
    Evolves completes registry registry heard heard :=
  same heard rfl (Nat.le_refl _)

theorem trans {first middle last : StreamRegistry} {hearing : String → Transcript}
    (early : Evolves completes first middle heard hears)
    (late : Evolves completes middle last hears hearing) :
    Evolves completes first last heard hearing := by
  refine ⟨Nat.le_trans early.numbers late.numbers, ?_, ?_, ?_⟩
  · intro id stream found
    obtain ⟨changed, kept, moves⟩ := early.kept id stream found
    obtain ⟨changed', kept', moves'⟩ := late.kept id changed kept
    exact ⟨changed', kept', moves.trans moves'⟩
  · intro id changed absent found
    cases between : middle.streams.lookup id with
    | none =>
        obtain ⟨number, sender, descriptor, limits, now, moves⟩ :=
          late.added id changed between found
        rw [early.absent id between] at moves
        exact ⟨number, sender, descriptor, limits, now, moves⟩
    | some stream =>
        obtain ⟨⟨number, given, named⟩, sender, descriptor, limits, now, moves⟩ :=
          early.added id stream absent between
        obtain ⟨changed', kept', moves'⟩ := late.kept id stream between
        rw [kept', Option.some.injEq] at found
        subst found
        exact ⟨⟨number, Nat.lt_of_lt_of_le given late.numbers, named⟩,
          sender, descriptor, limits, now, moves.trans moves'⟩
  · intro id absent
    cases between : middle.streams.lookup id with
    | none => rw [late.absent id absent, early.absent id between]
    | some stream =>
        obtain ⟨changed, kept, _⟩ := late.kept id stream between
        rw [absent] at kept
        cases kept

theorem streamwise (numbers : before.nextId ≤ after.nextId)
    (change : ∀ id, (before.streams.lookup id = none ∧ after.streams.lookup id = none ∧
        hears id = heard id) ∨
      ∃ stream changed, before.streams.lookup id = some stream ∧
        after.streams.lookup id = some changed ∧
        Inbound.Moves completes (stream, heard id) (changed, hears id)) :
    Evolves completes before after heard hears := by
  refine ⟨numbers, ?_, ?_, ?_⟩
  · intro id stream found
    rcases change id with ⟨absent, _, _⟩ | ⟨stream', changed, found', kept, moves⟩
    · rw [absent] at found
      cases found
    · rw [found, Option.some.injEq] at found'
      subst found'
      exact ⟨changed, kept, moves⟩
  · intro id changed absent found
    rcases change id with ⟨_, still, _⟩ | ⟨stream, changed', found', _, _⟩
    · rw [still] at found
      cases found
    · rw [absent] at found'
      cases found'
  · intro id absent
    rcases change id with ⟨_, _, silent⟩ | ⟨stream, changed, _, kept, _⟩
    · exact silent
    · rw [absent] at kept
      cases kept

theorem modify {registry : StreamRegistry} {id : String} {update : Inbound → Inbound}
    {transcript : Transcript} (moves : ∀ stream, registry.streams.lookup id = some stream →
      Inbound.Moves completes (stream, heard id) (update stream, transcript))
    (silent : registry.streams.lookup id = none → transcript = heard id) :
    Evolves completes registry (registry.modify id update) heard
      (Function.update heard id transcript) := by
  have numbers : registry.nextId ≤ (registry.modify id update).nextId := Nat.le_refl _
  apply streamwise numbers
  intro other
  unfold StreamRegistry.modify
  dsimp only
  rw [Table.lookup_modify]
  by_cases same : other = id
  · subst other
    rw [if_pos rfl, Function.update_self]
    cases found : registry.streams.lookup id with
    | none => exact .inl ⟨rfl, rfl, silent found⟩
    | some stream => exact .inr ⟨stream, update stream, rfl, rfl, moves stream found⟩
  · rw [if_neg same, Function.update_of_ne same]
    cases registry.streams.lookup other with
    | none => exact .inl ⟨rfl, rfl, rfl⟩
    | some stream => exact .inr ⟨stream, stream, rfl, rfl, .refl⟩

theorem modify_silent {registry : StreamRegistry} {id : String}
    {update : Inbound → Inbound} (heard : String → Transcript)
    (moves : ∀ stream, registry.streams.lookup id = some stream →
      Inbound.Moves completes (stream, heard id) (update stream, heard id)) :
    Evolves completes registry (registry.modify id update) heard heard := by
  have evolves := modify moves (fun _ => rfl)
  rw [Function.update_eq_self] at evolves
  exact evolves

end Evolves

namespace StreamRegistry

variable {completes : Inbound → Nat → Prop}

variable {registry : StreamRegistry}

theorem lookup_ok {id : String} {sender : Option BusName} {stream : Inbound}
    (found : registry.lookup id sender = .ok stream) :
    registry.streams.lookup id = some stream := by
  unfold lookup at found
  split at found
  · cases found
  · rename_i stream' got
    split at found
    · cases found
      exact (Option.filter_eq_some_iff.mp got).1
    · cases found

theorem get_some {id : String} {stream : Inbound}
    (got : registry.get id = some stream) : registry.streams.lookup id = some stream :=
  (Option.filter_eq_some_iff.mp got).1

/-! ### The parts of an operation -/

theorem kill_evolves (registry : StreamRegistry) (id reason : String)
    (heard : String → Transcript) :
    Evolves completes registry (registry.kill id reason) heard heard :=
  Evolves.modify_silent heard
    (fun stream _ => Inbound.killed_moves stream (heard id) reason)

theorem reap_evolves (registry : StreamRegistry) (now : Nat) (limits : StreamLimits)
    (heard : String → Transcript) :
    Evolves completes registry (registry.reap now limits) heard heard := by
  have numbers : registry.nextId ≤ (registry.reap now limits).nextId := Nat.le_refl _
  apply Evolves.streamwise numbers
  intro id
  unfold reap
  dsimp only
  rw [Table.lookup_mapValues]
  cases registry.streams.lookup id with
  | none => exact .inl ⟨rfl, rfl, rfl⟩
  | some stream =>
      refine .inr ⟨stream, _, rfl, rfl, ?_⟩
      dsimp only
      split
      · exact Inbound.reaped_moves stream (heard id)
      · exact .refl

theorem evict_evolves (registry : StreamRegistry) (ids : List String)
    (heard : String → Transcript) :
    Evolves completes registry (registry.evict ids) heard heard := by
  induction ids generalizing registry with
  | nil => exact Evolves.refl registry heard
  | cons id rest ih =>
      have first : Evolves completes registry (registry.modify id Inbound.evicted)
          heard heard :=
        Evolves.modify_silent heard
          (fun stream _ => Inbound.evicted_moves stream (heard id))
      exact first.trans (ih _)

theorem streamId_injective {left right : Nat} (same : streamId left = streamId right) :
    left = right := by
  have digits := String.append_right_inj _ |>.mp same
  exact BusName.repr_injective digits

theorem insert_evolves (numbered : registry.Numbered) (sender : Option BusName)
    (descriptor : StreamDescriptor) (limits : StreamLimits) (now : Nat)
    (heard : String → Transcript) :
    Evolves completes registry
      { registry with
        nextId := registry.nextId + 1
        streams := registry.streams.insert (streamId registry.nextId)
          (fresh sender descriptor limits now) } heard heard := by
  have vacant : registry.streams.lookup (streamId registry.nextId) = none := by
    cases found : registry.streams.lookup (streamId registry.nextId) with
    | none => rfl
    | some stream =>
        obtain ⟨earlier, before, same⟩ := numbered _ stream found
        have equal := streamId_injective same
        omega
  refine ⟨Nat.le_succ _, ?_, ?_, fun _ _ => rfl⟩
  · intro id stream found
    refine ⟨stream, ?_, .refl⟩
    dsimp only
    rw [Table.lookup_insert_eq, if_neg, found]
    intro same
    rw [same, vacant] at found
    cases found
  · intro id changed absent found
    dsimp only at found
    rw [Table.lookup_insert_eq] at found
    split at found
    · rename_i same
      cases found
      exact ⟨⟨registry.nextId, Nat.lt_succ_self _, same⟩, sender, descriptor, limits,
        now, .refl⟩
    · rw [absent] at found
      cases found

theorem evict_nextId (registry : StreamRegistry) (nextId : Nat) (ids : List String) :
    ({ registry with nextId := nextId }).evict ids =
      { registry.evict ids with nextId := nextId } := by
  induction ids generalizing registry with
  | nil => rfl
  | cons id rest ih => exact ih (registry.modify id Inbound.evicted)

theorem evict_keeps_nextId (registry : StreamRegistry) (ids : List String) :
    (registry.evict ids).nextId = registry.nextId := by
  induction ids generalizing registry with
  | nil => rfl
  | cons id rest ih => exact ih (registry.modify id Inbound.evicted)

theorem evict_limits (registry : StreamRegistry) (ids : List String) :
    (registry.evict ids).limits = registry.limits := by
  induction ids generalizing registry with
  | nil => rfl
  | cons id rest ih => exact ih (registry.modify id Inbound.evicted)

/-! ### Each operation -/

theorem openStream_evolves (numbered : registry.Numbered) (now : Nat) (sender : Option BusName)
    (descriptor : StreamDescriptor) (order : List String) (heard : String → Transcript) :
    Evolves completes registry (registry.openStream now sender descriptor order).2
      heard heard := by
  have reaping : Evolves completes registry (registry.reap now registry.limits)
      heard heard := reap_evolves registry now registry.limits heard
  unfold openStream
  dsimp only
  split
  · exact Evolves.refl registry heard
  · split
    · exact reaping.trans (Evolves.same heard rfl (Nat.le_succ _))
    · generalize evictions _ _ = ids
      have evicting := reaping.trans (evict_evolves _ ids heard)
      generalize kept : (registry.reap now registry.limits).evict ids = remaining
        at evicting
      have inserting : Evolves completes remaining _ heard heard :=
        insert_evolves (evicting.numbered numbered) sender descriptor registry.limits
          now heard
      have bumped : ({ registry with nextId := registry.nextId + 1 }.reap now
          registry.limits).evict ids =
          { remaining with nextId := registry.nextId + 1 } := by
        rw [← kept]
        exact evict_nextId (registry.reap now registry.limits) _ ids
      have unchanged : remaining.nextId = registry.nextId := by
        rw [← kept]
        exact evict_keeps_nextId _ ids
      rw [unchanged] at inserting
      rw [bumped]
      exact evicting.trans inserting

theorem enter_evolves {id : String} {stream : Inbound}
    (found : registry.streams.lookup id = some stream) (free : stream.sending = none) (now : Nat)
    (write : PendingWrite) (heard : String → Transcript) :
    Evolves completes registry (registry.enter now id stream write).2 heard heard := by
  have counts : ∀ current, registry.streams.lookup id = some current →
      stream.refusal write = none → Inbound.Moves completes (current, heard id)
        ({ current.count now write with
            sending := if stream.aborted then none else some write }, heard id) := by
    intro current present accepted
    rw [found, Option.some.injEq] at present
    subst present
    exact .single (.count now write accepted free)
  unfold enter
  split
  · exact kill_evolves registry id _ heard
  · exact Evolves.refl registry heard
  · rename_i accepted
    split
    · rename_i aborted
      apply Evolves.modify_silent
      intro current present
      have moves := counts current present accepted
      rw [found, Option.some.injEq] at present
      subst present
      have kept : { stream.count now write with sending := none } =
          stream.count now write := by
        unfold Inbound.count
        rw [← free]
      rw [if_pos aborted, kept] at moves
      exact moves
    · rename_i calm
      apply Evolves.modify_silent
      intro current present
      have moves := counts current present accepted
      rw [if_neg calm] at moves
      exact moves

theorem write_evolves (registry : StreamRegistry) (now : Nat) (sender : Option BusName)
    (id : String) (seq : Nat) (data : String) (heard : String → Transcript) :
    Evolves completes registry (registry.write now sender id seq data).2 heard heard := by
  unfold write
  split
  · exact Evolves.refl registry heard
  · rename_i stream found
    split
    · exact Evolves.refl registry heard
    · split
      · exact kill_evolves registry id _ heard
      · dsimp only
        split
        · rename_i free
          exact enter_evolves (lookup_ok found) free.1 now _ heard
        · apply Evolves.modify_silent
          intro current _
          exact .single (.queue _)

theorem takeGate_evolves (registry : StreamRegistry) (now : Nat) (id : String)
    (heard : String → Transcript) :
    Evolves completes registry (registry.takeGate now id).2 heard heard := by
  unfold takeGate
  split
  · exact Evolves.refl registry heard
  · rename_i stream found
    split
    · rename_i write rest free _
      have queued : Evolves completes registry
          (registry.modify id (fun stream => { stream with gate := rest })) heard heard :=
        Evolves.modify_silent heard (fun _ _ => .single (.queue rest))
      have present : (registry.modify id (fun stream =>
          { stream with gate := rest })).streams.lookup id =
            some { stream with gate := rest } := by
        unfold modify
        dsimp only
        rw [Table.lookup_modify_self, found]
        rfl
      exact queued.trans (enter_evolves present free now write heard)
    · exact Evolves.refl registry heard

theorem modify_modify (registry : StreamRegistry) (id : String)
    (first second : Inbound → Inbound) :
    (registry.modify id first).modify id second =
      registry.modify id (fun stream => second (first stream)) := by
  unfold modify
  dsimp only
  rw [Table.modify_modify]

theorem send_evolves (registry : StreamRegistry) (now : Nat) (id : String)
    (heard : String → Transcript) :
    Evolves completes registry (registry.send now id).2 heard heard := by
  unfold send
  split
  · exact Evolves.refl registry heard
  · rename_i stream found
    split
    · exact Evolves.refl registry heard
    · rename_i write pending
      have released (ended : stream.aborted = true ∨ stream.reader = .dropped) :
          Evolves completes registry
            (registry.modify id (fun stream => { stream with sending := none }))
            heard heard := by
        apply Evolves.modify_silent
        intro current present
        rw [found, Option.some.injEq] at present
        subst present
        exact .single (.giveUp ended)
      dsimp only
      split
      · rename_i aborted
        exact released (.inl aborted)
      · split
        · rename_i dropped
          exact (released (.inr dropped)).trans (kill_evolves _ id _ heard)
        · split
          · rw [modify_modify]
            apply Evolves.modify_silent
            intro current present
            rw [found, Option.some.injEq] at present
            subst present
            exact .single (.push now write pending)
          · exact Evolves.refl registry heard

theorem abort_evolves (registry : StreamRegistry) (now : Nat) (sender : Option BusName)
    (id : String) (heard : String → Transcript) :
    Evolves completes registry (registry.abort now sender id).2 heard heard := by
  unfold abort
  split
  · exact Evolves.refl registry heard
  · exact Evolves.modify_silent heard
      (fun stream _ => Inbound.abandoned_moves stream (heard id) now)

theorem close_evolves (now : Nat) {sender : Option BusName} {id : String} {totalLen : Nat}
    (heard : String → Transcript) (permitted : ∀ stream, registry.lookup id sender = .ok stream →
      stream.outcome = none → stream.received = totalLen → completes stream totalLen) :
    Evolves completes registry (registry.close now sender id totalLen).2 heard
      (registry.announce sender id totalLen heard) := by
  cases got : registry.lookup id sender with
  | error error =>
      have refused : (registry.close now sender id totalLen).2 = registry := by
        unfold close
        rw [got]
      have silent : registry.announce sender id totalLen heard = heard := by
        unfold announce
        rw [got]
      rw [refused, silent]
      exact Evolves.refl registry heard
  | ok stream =>
      have closes : (registry.close now sender id totalLen).2 =
          registry.modify id (Inbound.closed now totalLen) := by
        unfold close
        rw [got]
      have announces : registry.announce sender id totalLen heard =
          Function.update heard id ((heard id).announce stream totalLen) := by
        unfold announce
        rw [got]
      have found := lookup_ok got
      rw [closes, announces]
      apply Evolves.modify
      · intro current present
        rw [found, Option.some.injEq] at present
        subst present
        exact .single (.close now totalLen (permitted stream got))
      · intro absent
        rw [found] at absent
        cases absent

theorem takeReaderInner_evolves (registry : StreamRegistry) (id : String)
    (expectedOwner : Option (Option BusName)) (heard : String → Transcript) :
    Evolves completes registry (registry.takeReaderInner id expectedOwner).2 heard heard := by
  unfold takeReaderInner
  split
  · exact Evolves.refl registry heard
  · rename_i stream got
    split
    · exact Evolves.refl registry heard
    · have passing : Evolves completes registry
          (if stream.writing then registry else registry.modify id .unregister)
          heard heard := by
        split
        · exact Evolves.refl registry heard
        · exact Evolves.modify_silent heard (fun _ _ => .single .unregister)
      dsimp only
      split
      · rename_i unclaimed
        apply passing.trans
        apply Evolves.modify_silent
        intro current present
        have reader : current.reader = .unclaimed := by
          have found := get_some got
          split at present
          · rw [found, Option.some.injEq] at present
            rw [← present, unclaimed]
          · unfold modify at present
            dsimp only at present
            rw [Table.lookup_modify_self, found, Option.map_some,
              Option.some.injEq] at present
            rw [← present]
            exact unclaimed
        exact .single (.claim reader)
      · exact passing

theorem claim_evolves (registry : StreamRegistry) (id : String) (how : Claim)
    (heard : String → Transcript) :
    Evolves completes registry (registry.claim id how).2 heard heard := by
  cases how with
  | any => exact takeReaderInner_evolves registry id none heard
  | ownedBy owner => exact takeReaderInner_evolves registry id (some owner) heard
  | openedBy opener =>
      unfold claim takeReaderOpenedBy
      dsimp only
      split
      · exact Evolves.refl registry heard
      · split
        · exact takeReaderInner_evolves registry id none heard
        · exact Evolves.refl registry heard

end StreamRegistry

namespace StreamState

variable {completes : Inbound → Nat → Prop}

variable {state : StreamState}

theorem dispatch_evolves (numbered : state.registry.Numbered) (header : Header) (body : Value)
    (order : List String) (permitted : state.Permits completes (.call header body order)) :
    Evolves completes state.registry
      (state.registry.dispatch state.now header body order).2
      state.transcripts (state.announced header body) := by
  unfold StreamRegistry.dispatch announced
  cases parsed : StreamRegistry.parse header body with
  | error error => exact Evolves.refl _ _
  | ok call =>
      cases call with
      | openStream descriptor =>
          exact StreamRegistry.openStream_evolves numbered _ _ _ _ _
      | write id seq data => exact StreamRegistry.write_evolves _ _ _ _ _ _ _
      | close id totalLen =>
          apply StreamRegistry.close_evolves state.now state.transcripts
          intro stream got undecided whole
          apply permitted (stream, totalLen)
          unfold completing
          dsimp only
          rw [parsed]
          dsimp only
          rw [got]
          dsimp only
          rw [if_pos ⟨undecided, whole⟩]
          exact Option.mem_some_self _
      | abort id => exact StreamRegistry.abort_evolves _ _ _ _ _

theorem poll_evolves {id : String} (timedOut : Bool) (reader : state.HasReader id) :
    Evolves completes state.registry
      (state.registry.modify id (fun stream => (stream.nextChunk timedOut).2))
      state.transcripts (state.observed id timedOut) := by
  obtain ⟨stream, found, claimed⟩ := Option.map_eq_some_iff.mp reader
  have observes : state.observed id timedOut =
      Function.update state.transcripts id
        ((state.transcripts id).observe (stream.nextChunk timedOut).1) := by
    unfold observed
    rw [found]
  rw [observes]
  apply Evolves.modify
  · intro current present
    rw [found, Option.some.injEq] at present
    subst present
    exact .single (.poll timedOut claimed)
  · intro absent
    rw [found] at absent
    cases absent

theorem next_evolves {event : StreamEvent} (numbered : state.registry.Numbered)
    (possible : state.Possible event) (permitted : state.Permits completes event) :
    Evolves completes state.registry (state.next event).registry
      state.transcripts (state.next event).transcripts := by
  cases event with
  | call header body order => exact dispatch_evolves numbered header body order permitted
  | takeGate id => exact StreamRegistry.takeGate_evolves _ _ _ _
  | send id => exact StreamRegistry.send_evolves _ _ _ _
  | claim id how => exact StreamRegistry.claim_evolves _ _ _ _
  | poll id timedOut => exact poll_evolves timedOut possible
  | dropReader id =>
      obtain ⟨stream, found, claimed⟩ := Option.map_eq_some_iff.mp possible
      apply Evolves.modify_silent
      intro current present
      rw [found, Option.some.injEq] at present
      subst present
      exact .single (.abandon claimed)
  | setLimits limits => exact Evolves.same _ rfl (Nat.le_refl _)
  | elapse duration => exact Evolves.refl _ _

/-! ### Facts about every stream -/

structure Everywhere (property : Inbound × Transcript → Prop) (state : StreamState) :
    Prop where
  numbered : state.registry.Numbered
  streams : ∀ id stream, state.registry.streams.lookup id = some stream →
    property (stream, state.transcripts id)
  unheard : ∀ id, state.registry.streams.lookup id = none →
    state.transcripts id = .blank

theorem everywhere_of_moves {property : Inbound × Transcript → Prop}
    (fresh : ∀ sender descriptor limits now,
      property (StreamRegistry.fresh sender descriptor limits now, .blank))
    (preserved : ∀ before after, Inbound.Move completes before after →
      property before → property after)
    (reached : (system.restrict (Permits completes)).Reachable state) :
    Everywhere property state := by
  apply reached.invariant
  · intro initial begins
    have begun : initial = start := begins
    subst begun
    have empty (id : String) : start.registry.streams.lookup id = none :=
      AList.lookup_empty id
    refine ⟨?_, ?_, fun _ _ => rfl⟩
    · intro id stream found
      rw [empty] at found
      cases found
    · intro id stream found
      rw [empty] at found
      cases found
  · rintro before event after ⟨permitted, possible, rfl⟩ held
    have evolves := next_evolves held.numbered possible permitted
    refine ⟨evolves.numbered held.numbered, ?_, ?_⟩
    · intro id changed found
      cases present : before.registry.streams.lookup id with
      | some stream =>
          obtain ⟨changed', kept, moves⟩ := evolves.kept id stream present
          rw [found, Option.some.injEq] at kept
          subst kept
          exact moves.preserves preserved (held.streams id stream present)
      | none =>
          obtain ⟨_, sender, descriptor, limits, now, moves⟩ :=
            evolves.added id changed present found
          rw [held.unheard id present] at moves
          exact moves.preserves preserved (fresh sender descriptor limits now)
    · intro id absent
      rw [evolves.absent id absent]
      cases present : before.registry.streams.lookup id with
      | none => exact held.unheard id present
      | some stream =>
          obtain ⟨changed, kept, _⟩ := evolves.kept id stream present
          rw [absent] at kept
          cases kept

end StreamState

end TinyBus
