/-
How many streams a peer may hold, and what the operations of other peers change
of its calls: the bounds hold in every run under fixed limits, and an operation
of another peer matters only to streams that went idle.
-/

import TinyBus.StreamIsolation

namespace TinyBus

open TransitionSystem

def Progress.accepted : Progress → Bool
  | .done (.error _) => false
  | _ => true

namespace StreamRegistry

section

variable {peer sender : Option BusName} {now later : Nat} {before after : StreamRegistry}

theorem openStream_accepted_iff {registry : StreamRegistry} {order : List String}
    (listing : order.Perm registry.registered) (now : Nat) (sender : Option BusName)
    (descriptor : StreamDescriptor) :
    (Progress.done (registry.openStream now sender descriptor order).1).accepted = true ↔
      ¬ registry.Oversized descriptor ∧
        (registry.liveAt now sender).card < registry.limits.maxStreamsPerPeer := by
  have opened := openStream_opened listing now sender descriptor
  generalize registry.openStream now sender descriptor order = answered at opened
  cases opened with
  | oversized large => simp [Progress.accepted, large]
  | crowded small full _ _ => simp [Progress.accepted, full]
  | added small room _ _ => simp [Progress.accepted, small, room]

theorem Spares.liveAt (spares : Spares peer now before after) (other : sender ≠ peer)
    (order : now ≤ later) : after.liveAt later sender = before.liveAt later sender := by
  unfold StreamRegistry.liveAt
  rw [spares.limits]
  ext id
  rw [mem_select, mem_select]
  constructor
  · rintro ⟨stream, got, test⟩
    rw [get_reap] at got
    obtain ⟨got, active⟩ := Option.filter_eq_some_iff.mp got
    rw [Bool.and_eq_true, decide_eq_true_eq] at test
    have foreign : stream.owner ≠ peer := by
      rw [test.1]
      exact other
    refine ⟨stream, ?_, by simp [test.1, test.2]⟩
    rw [get_reap]
    exact Option.filter_eq_some_iff.mpr ⟨spares.unmixed id stream got foreign, active⟩
  · rintro ⟨stream, got, test⟩
    rw [get_reap] at got
    obtain ⟨got, active⟩ := Option.filter_eq_some_iff.mp got
    rw [Bool.and_eq_true, decide_eq_true_eq] at test
    have foreign : stream.owner ≠ peer := by
      rw [test.1]
      exact other
    have recent := (of_decide_eq_true active).earlier order
    refine ⟨stream, ?_, by simp [test.1, test.2]⟩
    rw [get_reap]
    exact Option.filter_eq_some_iff.mpr ⟨spares.kept id stream got foreign recent, active⟩

theorem Spares.openStream (spares : Spares peer now before after) (other : sender ≠ peer)
    (later_le : now ≤ later) (descriptor : StreamDescriptor) {order order' : List String}
    (listing : order.Perm before.registered) (listing' : order'.Perm after.registered) :
    (Progress.done (before.openStream later sender descriptor order).1).accepted =
      (Progress.done (after.openStream later sender descriptor order').1).accepted := by
  rw [Bool.eq_iff_iff, openStream_accepted_iff listing, openStream_accepted_iff listing',
    spares.liveAt other later_le]
  unfold Oversized
  rw [spares.limits]

theorem perform_answer {left right : StreamRegistry} (limits : right.limits = left.limits)
    {id : String} (same : right.lookup id sender = left.lookup id sender)
    {call : StreamCall} (about : call.target = some id) (now : Nat)
    (order order' : List String) :
    (left.perform now sender order call).1 = (right.perform now sender order' call).1 := by
  cases call with
  | openStream descriptor => cases about
  | write id' seq data =>
      cases about
      dsimp only [perform]
      unfold StreamRegistry.write
      rw [same, limits]
      cases left.lookup id sender with
      | error error => rfl
      | ok stream =>
          cases Base64.decode data with
          | error error => rfl
          | ok chunk =>
              dsimp only
              split
              · rfl
              · split
                · unfold enter
                  split
                  · rfl
                  · rfl
                  · split <;> rfl
                · rfl
  | close id' totalLen =>
      cases about
      dsimp only [perform]
      unfold StreamRegistry.close
      rw [same]
      cases left.lookup id sender with
      | error error => rfl
      | ok stream => rfl
  | abort id' =>
      cases about
      dsimp only [perform]
      unfold StreamRegistry.abort
      rw [same]
      cases left.lookup id sender with
      | error error => rfl
      | ok stream => rfl

theorem Spares.lookup (spares : Spares peer now before after) (other : sender ≠ peer)
    {id : String} (active : ∀ stream, before.get id = some stream → stream.owner = sender →
      stream.Active now before.limits.idleTimeout) :
    after.lookup id sender = before.lookup id sender := by
  by_cases own : ∃ stream, before.get id = some stream ∧ stream.owner = sender
  · obtain ⟨stream, got, owner⟩ := own
    have foreign : stream.owner ≠ peer := by
      rw [owner]
      exact other
    have still := spares.kept id stream got foreign (active stream got owner)
    unfold StreamRegistry.lookup
    rw [got, still]
  · have nothing : before.Foreign sender id := by
      intro stream got owner
      exact own ⟨stream, got, owner⟩
    have nothing' : after.Foreign sender id := by
      intro stream got owner
      have foreign : stream.owner ≠ peer := by
        rw [owner]
        exact other
      exact own ⟨stream, spares.unmixed id stream got foreign, owner⟩
    rw [lookup_of_foreign nothing, lookup_of_foreign nothing']

end

end StreamRegistry

namespace StreamRegistry

def holdings (registry : StreamRegistry) (peer : Option BusName) : Finset String :=
  registry.select (fun stream => decide (stream.owner = peer))

def live (registry : StreamRegistry) (peer : Option BusName) : Finset String :=
  registry.select (fun stream => decide (stream.owner = peer) && stream.writing)

/-- No peer has more streams than it may have, live and altogether. -/
def Within (registry : StreamRegistry) : Prop :=
  ∀ peer, (registry.live peer).card ≤ registry.limits.maxStreamsPerPeer ∧
    (registry.holdings peer).card ≤ 2 * registry.limits.maxStreamsPerPeer - 1

variable {peer : Option BusName} {registry before after : StreamRegistry}

theorem mem_holdings {id : String} :
    id ∈ registry.holdings peer ↔
      ∃ stream, registry.get id = some stream ∧ stream.owner = peer := by
  unfold holdings
  rw [mem_select]
  simp only [decide_eq_true_eq]

theorem mem_live {id : String} :
    id ∈ registry.live peer ↔
      ∃ stream, registry.get id = some stream ∧ stream.owner = peer ∧
        stream.writing = true := by
  unfold live
  rw [mem_select]
  simp only [Bool.and_eq_true, decide_eq_true_eq]

theorem mem_liveAt {now : Nat} {id : String} :
    id ∈ registry.liveAt now peer ↔
      ∃ stream, (registry.reap now registry.limits).get id = some stream ∧
        stream.owner = peer ∧ stream.writing = true := by
  unfold liveAt
  rw [mem_select]
  simp only [Bool.and_eq_true, decide_eq_true_eq]

theorem mem_closedAt {now : Nat} {id : String} :
    id ∈ registry.closedAt now peer ↔
      ∃ stream, (registry.reap now registry.limits).get id = some stream ∧
        stream.owner = peer ∧ stream.writing = false := by
  unfold closedAt
  rw [mem_select]
  simp only [Bool.and_eq_true, decide_eq_true_eq, Bool.not_eq_true']

structure Shrinks (before after : StreamRegistry) : Prop where
  limits : after.limits = before.limits
  earlier : ∀ id changed, after.get id = some changed →
    ∃ stream, before.get id = some stream ∧ Inbound.Wanes stream changed

theorem Confined.shrinks {completes : Inbound → Nat → Prop} {id : String}
    {heard hears : String → Transcript} (confined : Confined id before after)
    (evolves : Evolves completes before after heard hears) : Shrinks before after :=
  ⟨confined.limits, fun _ _ got => confined.earlier evolves got⟩

theorem reap_shrinks (registry : StreamRegistry) (now : Nat) (limits : StreamLimits) :
    Shrinks registry (registry.reap now limits) := by
  refine ⟨rfl, ?_⟩
  intro id changed got
  rw [get_reap] at got
  exact ⟨changed, (Option.filter_eq_some_iff.mp got).1, Inbound.Wanes.refl changed⟩

theorem Shrinks.live (shrinks : Shrinks before after)
    (peer : Option BusName) : after.live peer ⊆ before.live peer := by
  intro id member
  obtain ⟨changed, got, owner, writes⟩ := mem_live.mp member
  obtain ⟨stream, past, wanes⟩ := shrinks.earlier id changed got
  exact mem_live.mpr ⟨stream, past, wanes.owner.symm.trans owner, wanes.writing writes⟩

theorem Shrinks.holdings (shrinks : Shrinks before after)
    (peer : Option BusName) : after.holdings peer ⊆ before.holdings peer := by
  intro id member
  obtain ⟨changed, got, owner⟩ := mem_holdings.mp member
  obtain ⟨stream, past, wanes⟩ := shrinks.earlier id changed got
  exact mem_holdings.mpr ⟨stream, past, wanes.owner.symm.trans owner⟩

theorem Shrinks.within (shrinks : Shrinks before after)
    (within : before.Within) : after.Within := by
  intro peer
  obtain ⟨live, total⟩ := within peer
  rw [shrinks.limits]
  constructor
  · exact (Finset.card_le_card (shrinks.live peer)).trans live
  · exact (Finset.card_le_card (shrinks.holdings peer)).trans total

theorem evictedAt_card {order : List String} (listing : order.Perm registry.registered) (now : Nat)
    (peer : Option BusName) (some : 1 ≤ registry.limits.maxStreamsPerPeer) :
    (registry.closedAt now peer \ (registry.evictedAt now peer order).toFinset).card + 1 ≤
      registry.limits.maxStreamsPerPeer := by
  have closed := closed_length listing now peer
  have count := evictions_length (registry.closedList now peer order) some
  have inside : (registry.evictedAt now peer order).toFinset ⊆
      registry.closedAt now peer := by
    intro id evicted
    exact mem_closedAt.mpr (mem_of_evictedAt listing (List.mem_toFinset.mp evicted))
  have evicted : (registry.evictedAt now peer order).toFinset.card =
      (registry.evictedAt now peer order).length :=
    List.toFinset_card_of_nodup (evictions_nodup (closedList_ids_nodup listing now peer))
  have few := Finset.card_le_card inside
  rw [Finset.card_sdiff_of_subset inside]
  unfold evictedAt at evicted few ⊢
  omega

theorem added_within {now : Nat} {sender : Option BusName} {order : List String}
    (listing : order.Perm registry.registered) (some : 1 ≤ registry.limits.maxStreamsPerPeer)
    (room : (registry.liveAt now sender).card < registry.limits.maxStreamsPerPeer)
    (others : ∀ id stream, after.get id = .some stream →
      id = streamId registry.nextId ∧ stream.owner = sender ∨
        id ∉ registry.evictedAt now sender order ∧
          (registry.reap now registry.limits).get id = .some stream) :
    (after.live sender).card ≤ registry.limits.maxStreamsPerPeer ∧
      (after.holdings sender).card ≤ 2 * registry.limits.maxStreamsPerPeer - 1 := by
  have liveInside : after.live sender ⊆
      insert (streamId registry.nextId) (registry.liveAt now sender) := by
    intro id member
    obtain ⟨stream, got, owner, writes⟩ := mem_live.mp member
    rcases others id stream got with ⟨same, _⟩ | ⟨_, past⟩
    · exact Finset.mem_insert.mpr (.inl same)
    · exact Finset.mem_insert.mpr (.inr (mem_liveAt.mpr ⟨stream, past, owner, writes⟩))
  have allInside : after.holdings sender ⊆
      insert (streamId registry.nextId) (registry.liveAt now sender ∪
        registry.closedAt now sender \ (registry.evictedAt now sender order).toFinset) := by
    intro id member
    obtain ⟨stream, got, owner⟩ := mem_holdings.mp member
    rcases others id stream got with ⟨same, _⟩ | ⟨kept, past⟩
    · exact Finset.mem_insert.mpr (.inl same)
    · apply Finset.mem_insert_of_mem
      rw [Finset.mem_union, Finset.mem_sdiff, List.mem_toFinset]
      cases writes : stream.writing with
      | true => exact .inl (mem_liveAt.mpr ⟨stream, past, owner, writes⟩)
      | false => exact .inr ⟨mem_closedAt.mpr ⟨stream, past, owner, writes⟩, kept⟩
  have liveCard := (Finset.card_le_card liveInside).trans (Finset.card_insert_le _ _)
  have allCard := (Finset.card_le_card allInside).trans (Finset.card_insert_le _ _)
  have union := Finset.card_union_le (registry.liveAt now sender)
    (registry.closedAt now sender \ (registry.evictedAt now sender order).toFinset)
  have left := evictedAt_card listing now sender some
  constructor
  · omega
  · omega

theorem openStream_within {order : List String} (listing : order.Perm registry.registered)
    (some : 1 ≤ registry.limits.maxStreamsPerPeer) (within : registry.Within) (now : Nat)
    (sender : Option BusName) (descriptor : StreamDescriptor) :
    (registry.openStream now sender descriptor order).2.Within := by
  have reaping := reap_shrinks registry now registry.limits
  have opened := openStream_opened listing now sender descriptor
  generalize registry.openStream now sender descriptor order = answered at opened
  cases opened with
  | oversized _ => exact within
  | @crowded after _ _ limits streams =>
      have shrinks : Shrinks registry after := by
        refine ⟨limits, ?_⟩
        intro id changed got
        rw [streams] at got
        exact reaping.earlier id changed got
      exact shrinks.within within
  | @added after _ room limits streams =>
      intro peer
      dsimp only
      rw [limits]
      have others : ∀ id stream, after.get id = .some stream →
          id = streamId registry.nextId ∧ stream.owner = sender ∨
            id ∉ registry.evictedAt now sender order ∧
              (registry.reap now registry.limits).get id = .some stream :=
        fun _ _ got => added_cases streams got
      by_cases own : peer = sender
      · subst own
        exact added_within listing some room others
      · have past : ∀ id stream, after.get id = .some stream → stream.owner = peer →
            registry.get id = .some stream := by
          intro id stream got owner
          rcases others id stream got with ⟨_, owner'⟩ | ⟨_, reaped⟩
          · exact absurd (owner.symm.trans owner') own
          · rw [get_reap] at reaped
            exact (Option.filter_eq_some_iff.mp reaped).1
        obtain ⟨live, total⟩ := within peer
        constructor
        · apply Nat.le_trans (Finset.card_le_card _) live
          intro id member
          obtain ⟨stream, got, owner, writes⟩ := mem_live.mp member
          exact mem_live.mpr ⟨stream, past id stream got owner, owner, writes⟩
        · apply Nat.le_trans (Finset.card_le_card _) total
          intro id member
          obtain ⟨stream, got, owner⟩ := mem_holdings.mp member
          exact mem_holdings.mpr ⟨stream, past id stream got owner, owner⟩

end StreamRegistry

namespace StreamState

def startWith (limits : StreamLimits) : StreamState :=
  { start with registry := { StreamRegistry.new with limits := limits } }

def KeepsLimits : StreamEvent → Prop
  | .setLimits _ => False
  | _ => True

instance : DecidablePred KeepsLimits
  | .setLimits _ => inferInstanceAs (Decidable False)
  | .call _ _ _ | .takeGate _ | .send _ | .claim _ _ | .poll _ _ | .dropReader _ | .elapse _ =>
      inferInstanceAs (Decidable True)

def fixed (limits : StreamLimits) : System StreamState StreamEvent :=
  (System.ofFunction (· = startWith limits) next).restrict
    (fun state event => state.Possible event ∧ KeepsLimits event)

structure Orderly (limits : StreamLimits) (state : StreamState) : Prop where
  numbered : state.registry.Numbered
  limits : state.registry.limits = limits
  within : state.registry.Within

theorem start_orderly (limits : StreamLimits) : Orderly limits (startWith limits) := by
  have absent : ∀ id, (startWith limits).registry.get id = none := by
    intro id
    rfl
  refine ⟨?_, rfl, ?_⟩
  · intro id stream found
    cases found
  · intro peer
    constructor
    · apply Nat.le_trans (Nat.le_of_eq (Finset.card_eq_zero.mpr ?_)) (Nat.zero_le _)
      rfl
    · apply Nat.le_trans (Nat.le_of_eq (Finset.card_eq_zero.mpr ?_)) (Nat.zero_le _)
      rfl

variable {state : StreamState}

theorem next_orderly {limits : StreamLimits} (some : 1 ≤ limits.maxStreamsPerPeer)
    {event : StreamEvent} (possible : state.Possible event) (keeps : KeepsLimits event)
    (orderly : Orderly limits state) :
    Orderly limits (state.next event) := by
  have evolves : Evolves (fun _ _ => True) _ _ _ _ :=
    next_evolves orderly.numbered possible (fun _ _ => trivial)
  have shrunk : ∀ {after : StreamRegistry}, StreamRegistry.Shrinks state.registry after →
      after.limits = limits ∧ after.Within := by
    intro after shrinks
    exact ⟨shrinks.limits.trans orderly.limits, shrinks.within orderly.within⟩
  suffices settled : (state.next event).registry.limits = limits ∧
      (state.next event).registry.Within from
    ⟨evolves.numbered orderly.numbered, settled.1, settled.2⟩
  cases event with
  | call header body order =>
      unfold next StreamRegistry.dispatch at evolves ⊢
      dsimp only at evolves ⊢
      cases parsed : StreamRegistry.parse header body with
      | error error => exact ⟨orderly.limits, orderly.within⟩
      | ok call =>
          rw [parsed] at evolves
          dsimp only at evolves ⊢
          cases about : call.target with
          | some id =>
              exact shrunk ((StreamRegistry.Confined.perform state.registry state.now
                header.sender order about).shrinks evolves)
          | none =>
              cases call with
              | openStream descriptor =>
                  have spares := StreamRegistry.openStream_spares orderly.numbered
                    possible.2 state.now header.sender descriptor
                  have room : 1 ≤ state.registry.limits.maxStreamsPerPeer := by
                    rw [orderly.limits]
                    exact some
                  exact ⟨spares.limits.trans orderly.limits,
                    StreamRegistry.openStream_within possible.2 room orderly.within _ _ _⟩
              | write id seq data => cases about
              | close id totalLen => cases about
              | abort id => cases about
  | takeGate id => exact shrunk ((StreamRegistry.Confined.takeGate _ _).shrinks evolves)
  | send id => exact shrunk ((StreamRegistry.Confined.send _ _).shrinks evolves)
  | claim id how => exact shrunk ((StreamRegistry.Confined.claim _ how).shrinks evolves)
  | poll id timedOut => exact shrunk ((StreamRegistry.Confined.modify _ _).shrinks evolves)
  | dropReader id => exact shrunk ((StreamRegistry.Confined.modify _ _).shrinks evolves)
  | setLimits limits => cases keeps
  | elapse duration => exact ⟨orderly.limits, orderly.within⟩

theorem fixed_orderly {limits : StreamLimits} (some : 1 ≤ limits.maxStreamsPerPeer)
    (reached : (fixed limits).Reachable state) :
    Orderly limits state := by
  apply reached.invariant
  · intro initial begins
    have begun : initial = startWith limits := begins
    rw [begun]
    exact start_orderly limits
  · rintro before event after ⟨⟨possible, keeps⟩, rfl⟩ orderly
    exact next_orderly some possible keeps orderly

/-- An event of one peer leaves the streams of the others as they are, and the
answers to their next calls, but for streams that went idle. -/
structure LeavesOthers (peer : Option BusName) (state : StreamState) (event : StreamEvent) :
    Prop where
  streams : ∀ id stream, state.registry.get id = some stream → stream.owner ≠ peer →
    stream.Active state.now state.registry.limits.idleTimeout →
      (state.next event).registry.get id = some stream
  opens : ∀ header body descriptor later order order', header.sender ≠ peer →
    StreamRegistry.parse header body = .ok (.openStream descriptor) → state.now ≤ later →
      order.Perm state.registry.registered →
        order'.Perm (state.next event).registry.registered →
          (state.registry.dispatch later header body order).1.accepted =
            ((state.next event).registry.dispatch later header body order').1.accepted
  calls : ∀ header body call id later order order', header.sender ≠ peer →
    StreamRegistry.parse header body = .ok call → call.target = some id →
      (∀ stream, state.registry.get id = some stream → stream.owner = header.sender →
        stream.Active state.now state.registry.limits.idleTimeout) →
          (state.registry.dispatch later header body order).1 =
            ((state.next event).registry.dispatch later header body order').1

theorem leavesOthers_of_spares {peer : Option BusName} {event : StreamEvent}
    (spares : StreamRegistry.Spares peer state.now state.registry
      (state.next event).registry) : LeavesOthers peer state event := by
  refine ⟨spares.kept, ?_, ?_⟩
  · intro header body descriptor later order order' other parsed passed listing listing'
    unfold StreamRegistry.dispatch
    rw [parsed]
    exact spares.openStream other passed descriptor listing listing'
  · intro header body call id later order order' other parsed about active
    unfold StreamRegistry.dispatch
    rw [parsed]
    exact StreamRegistry.perform_answer spares.limits (spares.lookup other active) about
      later order order'

/-- Under fixed limits no peer exceeds its bounds, and no operation of a peer
matters to the streams of others that are not idle. -/
theorem fixed_limits_isolate {limits : StreamLimits} (some : 1 ≤ limits.maxStreamsPerPeer)
    {state : StreamState} (reached : (fixed limits).Reachable state) :
    (∀ peer, (state.registry.live peer).card ≤ limits.maxStreamsPerPeer ∧
      (state.registry.holdings peer).card ≤ 2 * limits.maxStreamsPerPeer - 1) ∧
      ∀ event peer, state.Possible event → state.issuer event = .some peer →
        LeavesOthers peer state event := by
  have orderly := fixed_orderly some reached
  constructor
  · intro peer
    rw [← orderly.limits]
    exact orderly.within peer
  · intro event peer possible issued
    exact leavesOthers_of_spares (next_spares orderly.numbered possible issued)

theorem fixed_replayed {limits : StreamLimits} {events : List StreamEvent}
    (replayed : replay next (fun state event =>
      decide (state.Possible event) && decide (KeepsLimits event)) (startWith limits) events =
        .some state) : (fixed limits).Reachable state := by
  refine ⟨startWith limits, events, rfl, System.Run.of_replay ?_ replayed⟩
  intro before event admitted
  rw [Bool.and_eq_true, decide_eq_true_eq, decide_eq_true_eq] at admitted
  exact ⟨admitted, rfl⟩

def openBody : Value := .array [.object []]

/-- The peer `:1.1` opens a stream and leaves it for a minute. -/
def openAndWait : List StreamEvent :=
  [.call (streamCall openMember) openBody [], .elapse 60000]

/-- The peer `:1.2` opens a stream of its own. -/
def openByOther : StreamEvent :=
  .call { streamCall openMember with sender := some (BusName.unique 2) } openBody ["s1"]

theorem openByOther_isolated :
    ∃ state : StreamState,
      ((state.registry.live (some (BusName.unique 1))).card ≤ 4 ∧
        (state.registry.holdings (some (BusName.unique 1))).card ≤ 7) ∧
      LeavesOthers (some (BusName.unique 2)) state openByOther := by
  have replayed : (replay next (fun state event =>
      decide (state.Possible event) && decide (KeepsLimits event))
        (startWith .default) openAndWait).map
          (fun state => decide (state.Possible openByOther)) = .some true := by
    decide
  obtain ⟨state, reached, possible⟩ := Option.map_eq_some_iff.mp replayed
  have fair := fixed_limits_isolate (by decide) (fixed_replayed reached)
  exact ⟨state, fair.1 _, fair.2 openByOther _ (of_decide_eq_true possible) rfl⟩

def closeBody : Value := .array [.string "s1", .number (.posInt 0)]

/-- A stream that was idle for a minute is closed, but no longer once another peer
has opened one. -/
theorem idleStream_refused :
    ¬ ∀ (state : StreamState) (event : StreamEvent) (peer : Option BusName) (header : Header)
        (body : Value) (order order' : List String),
      (fixed .default).Reachable state → state.Possible event →
        state.issuer event = some peer → header.sender ≠ peer →
          order.Perm state.registry.registered →
            order'.Perm (state.next event).registry.registered →
              (state.registry.dispatch state.now header body order).1.accepted =
                ((state.next event).registry.dispatch state.now header body order').1.accepted := by
  intro isolated
  have replayed : (replay next (fun state event =>
      decide (state.Possible event) && decide (KeepsLimits event))
        (startWith .default) openAndWait).map (fun state =>
          (decide (state.Possible openByOther),
            (state.registry.dispatch state.now (streamCall closeMember) closeBody
              state.registry.registered).1.accepted,
            ((state.next openByOther).registry.dispatch state.now
              (streamCall closeMember) closeBody
                (state.next openByOther).registry.registered).1.accepted)) =
      .some (true, true, false) := by
    decide
  obtain ⟨state, reached, seen⟩ := Option.map_eq_some_iff.mp replayed
  rw [Prod.mk.injEq, Prod.mk.injEq] at seen
  obtain ⟨possible, before, after⟩ := seen
  have same := isolated state openByOther (some (BusName.unique 2))
    (streamCall closeMember) closeBody _ _ (fixed_replayed reached)
    (of_decide_eq_true possible) rfl (by decide) (List.Perm.refl _) (List.Perm.refl _)
  rw [before, after] at same
  cases same

end StreamState

end TinyBus
