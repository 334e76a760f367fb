/-
Which closed streams an open discards.  The limit is meant for the streams that
the receiver never collected; but a stream that was claimed before it was closed
stays in the map, counts, and can outlast one that nobody has read.
-/

import TinyBus.StreamQuota

namespace TinyBus

open TransitionSystem

namespace StreamRegistry

theorem byAge_of_closed {closed : List (String × Inbound)} {id : String} {stream : Inbound}
    (member : (id, stream) ∈ closed) : (id, stream.lastActivity) ∈ byAge closed :=
  (byAge_perm closed).mem_iff.mpr (List.mem_map.mpr ⟨(id, stream), member, rfl⟩)

theorem evicted_le_kept {closed : List (String × Inbound)} {limit : Nat}
    (distinct : (closed.map Prod.fst).Nodup) {gone left : String} {old young : Inbound}
    (goneClosed : (gone, old) ∈ closed) (leftClosed : (left, young) ∈ closed)
    (evicted : gone ∈ evictions closed limit) (kept : left ∉ evictions closed limit) :
    old.lastActivity ≤ young.lastActivity := by
  have sorted := byAge_sorted closed
  have ids : ((byAge closed).map Prod.fst).Nodup :=
    (byAge_ids_perm closed).nodup_iff.mpr distinct
  have goneAged := byAge_of_closed goneClosed
  have leftAged := byAge_of_closed leftClosed
  rw [evictions_eq] at evicted kept
  rw [← List.take_append_drop (closed.length + 1 - limit) (byAge closed)]
    at sorted goneAged leftAged ids
  rw [List.map_append] at ids
  have apart := (List.nodup_append.mp ids).2.2
  have goneTaken : (gone, old.lastActivity) ∈
      (byAge closed).take (closed.length + 1 - limit) := by
    rcases List.mem_append.mp goneAged with taken | dropped
    · exact taken
    · exact absurd rfl (apart gone evicted gone (List.mem_map.mpr ⟨_, dropped, rfl⟩))
  have leftDropped : (left, young.lastActivity) ∈
      (byAge closed).drop (closed.length + 1 - limit) := by
    rcases List.mem_append.mp leftAged with taken | dropped
    · exact absurd (List.mem_map.mpr ⟨_, taken, rfl⟩) kept
    · exact dropped
  exact (List.pairwise_append.mp sorted).2.2 _ goneTaken _ leftDropped

def unreadAt (registry : StreamRegistry) (now : Nat) (peer : Option BusName) :
    Finset String :=
  (registry.reap now registry.limits).select (fun stream =>
    decide (stream.owner = peer) && (!stream.writing && decide (stream.reader = .unclaimed)))

def closedWhen (registry : StreamRegistry) (now : Nat) (peer : Option BusName)
    (time : Nat → Bool) : Finset String :=
  (registry.reap now registry.limits).select (fun stream =>
    decide (stream.owner = peer) && (!stream.writing && time stream.lastActivity))

def excess (registry : StreamRegistry) (now : Nat) (peer : Option BusName) : Nat :=
  (registry.closedAt now peer).card + 1 - registry.limits.maxStreamsPerPeer

structure Fair (registry : StreamRegistry) (now : Nat) (peer : Option BusName)
    (after : StreamRegistry) : Prop where
  full : ∀ id stream, (registry.reap now registry.limits).get id = some stream →
    stream.writing = false → stream.reader = .unclaimed → after.get id = none →
      stream.owner = peer ∧
        registry.limits.maxStreamsPerPeer ≤ (registry.unreadAt now peer).card
  few : ((registry.unreadAt now peer).filter (fun id => after.get id = none)).card ≤
    (registry.unreadAt now peer).card + 1 - registry.limits.maxStreamsPerPeer

def lastTouched (registry : StreamRegistry) (id : String) : Nat :=
  ((registry.get id).map Inbound.lastActivity).getD 0

/-- A stream nobody has read is old enough to be evicted, and one that was claimed
is young enough to be kept. -/
def Outlasted (registry : StreamRegistry) (now : Nat) (peer : Option BusName) : Prop :=
  ∃ unread ∈ registry.unreadAt now peer,
    ∃ read ∈ registry.closedAt now peer \ registry.unreadAt now peer,
      (registry.closedWhen now peer
        (fun time => decide (time < registry.lastTouched unread))).card <
          registry.excess now peer ∧
      registry.excess now peer <
        (registry.closedWhen now peer
          (fun time => decide (time ≤ registry.lastTouched read))).card

/-- An open with this descriptor gets to the eviction: it declares no more than a stream
may have, and its peer may have one more live stream. -/
def Room (registry : StreamRegistry) (now : Nat) (peer : Option BusName)
    (descriptor : StreamDescriptor) : Prop :=
  ¬ registry.Oversized descriptor ∧
    (registry.liveAt now peer).card < registry.limits.maxStreamsPerPeer

instance (registry : StreamRegistry) (now : Nat) (peer : Option BusName)
    (descriptor : StreamDescriptor) : Decidable (registry.Room now peer descriptor) :=
  inferInstanceAs (Decidable (¬ _ = true ∧ _))

instance (registry : StreamRegistry) (now : Nat) (peer : Option BusName) :
    Decidable (registry.Outlasted now peer) :=
  inferInstanceAs (Decidable (∃ unread ∈ _, ∃ read ∈ _, _))

section

variable {registry : StreamRegistry} {now : Nat} {peer : Option BusName}
  {order : List String}

theorem mem_unreadAt {id : String} :
    id ∈ registry.unreadAt now peer ↔
      ∃ stream, (registry.reap now registry.limits).get id = some stream ∧
        stream.owner = peer ∧ stream.writing = false ∧ stream.reader = .unclaimed := by
  unfold unreadAt
  rw [mem_select]
  simp only [Bool.and_eq_true, decide_eq_true_eq, Bool.not_eq_true']

theorem mem_closedWhen {time : Nat → Bool} {id : String} :
    id ∈ registry.closedWhen now peer time ↔
      ∃ stream, (registry.reap now registry.limits).get id = some stream ∧
        stream.owner = peer ∧ stream.writing = false ∧ time stream.lastActivity = true := by
  unfold closedWhen
  rw [mem_select]
  simp only [Bool.and_eq_true, decide_eq_true_eq, Bool.not_eq_true']

theorem lastTouched_of_reaped {id : String} {stream : Inbound}
    (got : (registry.reap now registry.limits).get id = some stream) :
    registry.lastTouched id = stream.lastActivity := by
  rw [get_reap] at got
  unfold lastTouched
  rw [(Option.filter_eq_some_iff.mp got).1]
  rfl

theorem unreadAt_subset : registry.unreadAt now peer ⊆ registry.closedAt now peer := by
  intro id member
  obtain ⟨stream, got, owner, sealed, _⟩ := mem_unreadAt.mp member
  exact mem_closedAt.mpr ⟨stream, got, owner, sealed⟩

theorem evictedAt_excess (listing : order.Perm registry.registered)
    (some : 1 ≤ registry.limits.maxStreamsPerPeer) :
    (registry.evictedAt now peer order).toFinset.card = registry.excess now peer := by
  have count := evictions_length (registry.closedList now peer order) some
  have distinct : (registry.evictedAt now peer order).Nodup :=
    evictions_nodup (closedList_ids_nodup listing now peer)
  rw [closed_length listing] at count
  rw [List.toFinset_card_of_nodup distinct]
  exact count

theorem evictedAt_oldest (listing : order.Perm registry.registered)
    (some : 1 ≤ registry.limits.maxStreamsPerPeer) {gone left : String} {old young : Inbound}
    (goneGot : (registry.reap now registry.limits).get gone = .some old)
    (goneClosed : old.owner = peer ∧ old.writing = false)
    (leftGot : (registry.reap now registry.limits).get left = .some young)
    (leftClosed : young.owner = peer ∧ young.writing = false)
    (evicted : gone ∈ registry.evictedAt now peer order)
    (kept : left ∉ registry.evictedAt now peer order) :
    (registry.closedWhen now peer (fun time => decide (time < old.lastActivity))).card <
        registry.excess now peer ∧
      registry.excess now peer <
        (registry.closedWhen now peer (fun time => decide (time ≤ young.lastActivity))).card := by
  have distinct := closedList_ids_nodup listing now peer
  have goneListed := (mem_closedList listing).mpr ⟨goneGot, goneClosed⟩
  have leftListed := (mem_closedList listing).mpr ⟨leftGot, leftClosed⟩
  rw [← evictedAt_excess listing some]
  constructor
  · -- Whatever is older than an evicted stream is evicted, too.
    apply Finset.card_lt_card
    rw [Finset.ssubset_iff_of_subset]
    · refine ⟨gone, List.mem_toFinset.mpr evicted, ?_⟩
      intro member
      obtain ⟨stream, got, _, _, older⟩ := mem_closedWhen.mp member
      rw [goneGot, Option.some.injEq] at got
      subst got
      exact absurd (of_decide_eq_true older) (Nat.lt_irrefl _)
    · intro id member
      obtain ⟨stream, got, owner, sealed, older⟩ := mem_closedWhen.mp member
      rw [List.mem_toFinset]
      by_contra stays
      have ordered := evicted_le_kept distinct goneListed
        ((mem_closedList listing).mpr ⟨got, owner, sealed⟩) evicted stays
      have before := of_decide_eq_true older
      omega
  · apply Finset.card_lt_card
    rw [Finset.ssubset_iff_of_subset]
    · refine ⟨left, mem_closedWhen.mpr ⟨young, leftGot, leftClosed.1, leftClosed.2, ?_⟩, ?_⟩
      · exact decide_eq_true (Nat.le_refl _)
      · rw [List.mem_toFinset]
        exact kept
    · intro id member
      have taken := List.mem_toFinset.mp member
      obtain ⟨stream, got, owner, sealed⟩ := mem_of_evictedAt listing taken
      have ordered := evicted_le_kept distinct
        ((mem_closedList listing).mpr ⟨got, owner, sealed⟩) leftListed taken kept
      exact mem_closedWhen.mpr ⟨stream, got, owner, sealed, decide_eq_true ordered⟩

theorem evicted_unread_card (listing : order.Perm registry.registered)
    (some : 1 ≤ registry.limits.maxStreamsPerPeer) (apart : ¬ registry.Outlasted now peer) :
    ((registry.evictedAt now peer order).toFinset ∩ registry.unreadAt now peer).card ≤
      (registry.unreadAt now peer).card + 1 - registry.limits.maxStreamsPerPeer := by
  by_cases any : ((registry.evictedAt now peer order).toFinset ∩
      registry.unreadAt now peer).Nonempty
  · obtain ⟨gone, member⟩ := any
    obtain ⟨evicted, unread⟩ := Finset.mem_inter.mp member
    obtain ⟨old, goneGot, owner, sealed, _⟩ := mem_unreadAt.mp unread
    -- Then every claimed stream is evicted.
    have claimed : registry.closedAt now peer \ registry.unreadAt now peer ⊆
        (registry.evictedAt now peer order).toFinset := by
      intro left inside
      obtain ⟨young, leftGot, owner', sealed'⟩ :=
        mem_closedAt.mp (Finset.mem_sdiff.mp inside).1
      by_contra kept
      have ages := evictedAt_oldest listing some goneGot ⟨owner, sealed⟩ leftGot
        ⟨owner', sealed'⟩ (List.mem_toFinset.mp evicted) (fun taken =>
          kept (List.mem_toFinset.mpr taken))
      rw [← lastTouched_of_reaped goneGot, ← lastTouched_of_reaped leftGot] at ages
      exact apart ⟨gone, unread, left, inside, ages⟩
    have split := Finset.card_sdiff_add_card_inter
      (registry.evictedAt now peer order).toFinset (registry.unreadAt now peer)
    have excess : (registry.evictedAt now peer order).toFinset.card =
        registry.excess now peer := evictedAt_excess listing some
    have parts := Finset.card_sdiff_add_card_eq_card (unreadAt_subset : _ ⊆
      registry.closedAt now peer)
    have covered : registry.closedAt now peer \ registry.unreadAt now peer ⊆
        (registry.evictedAt now peer order).toFinset \ registry.unreadAt now peer := by
      intro id inside
      exact Finset.mem_sdiff.mpr ⟨claimed inside, (Finset.mem_sdiff.mp inside).2⟩
    have few := Finset.card_le_card covered
    unfold StreamRegistry.excess at excess
    omega
  · rw [Finset.not_nonempty_iff_eq_empty.mp any, Finset.card_empty]
    exact Nat.zero_le _

theorem Fair.of_kept {after : StreamRegistry}
    (kept : ∀ id stream, (registry.reap now registry.limits).get id = some stream →
      after.get id ≠ none) : registry.Fair now peer after := by
  refine ⟨?_, ?_⟩
  · intro id stream got _ _ gone
    exact absurd gone (kept id stream got)
  · have nothing : (registry.unreadAt now peer).filter (fun id => after.get id = none) = ∅ := by
      apply Finset.filter_eq_empty_iff.mpr
      intro id member
      obtain ⟨stream, got, _⟩ := mem_unreadAt.mp member
      exact kept id stream got
    rw [nothing, Finset.card_empty]
    exact Nat.zero_le _

theorem openStream_fair (listing : order.Perm registry.registered)
    {descriptor : StreamDescriptor}
    (apart : registry.Room now peer descriptor → ¬ registry.Outlasted now peer) :
    registry.Fair now peer (registry.openStream now peer descriptor order).2 := by
  have opened := openStream_opened listing now peer descriptor
  generalize registry.openStream now peer descriptor order = answered at opened
  cases opened with
  | oversized _ =>
      apply Fair.of_kept
      intro id stream got gone
      rw [get_reap] at got
      rw [(Option.filter_eq_some_iff.mp got).1] at gone
      cases gone
  | crowded _ _ _ streams =>
      apply Fair.of_kept
      intro id stream got gone
      rw [streams, got] at gone
      cases gone
  | @added after small room _ streams =>
      have some : 1 ≤ registry.limits.maxStreamsPerPeer := by
        omega
      have few := evicted_unread_card listing some (apart ⟨small, room⟩)
      have taken : ∀ id stream, (registry.reap now registry.limits).get id = .some stream →
          after.get id = none → id ∈ registry.evictedAt now peer order := by
        intro id stream got gone
        rw [streams] at gone
        split at gone
        · cases gone
        · split at gone
          · assumption
          · rw [got] at gone
            cases gone
      constructor
      · intro id stream got sealed unclaimed gone
        have evicted := taken id stream got gone
        obtain ⟨stream', got', owner, _⟩ := mem_of_evictedAt listing evicted
        rw [got, Option.some.injEq] at got'
        subst got'
        have inside : id ∈ (registry.evictedAt now peer order).toFinset ∩
            registry.unreadAt now peer :=
          Finset.mem_inter.mpr ⟨List.mem_toFinset.mpr evicted,
            mem_unreadAt.mpr ⟨stream, got, owner, sealed, unclaimed⟩⟩
        have present := Finset.card_pos.mpr ⟨id, inside⟩
        exact ⟨owner, by omega⟩
      · apply Nat.le_trans (Finset.card_le_card _) few
        intro id member
        obtain ⟨unread, gone⟩ := Finset.mem_filter.mp member
        obtain ⟨stream, got, _⟩ := mem_unreadAt.mp unread
        exact Finset.mem_inter.mpr ⟨List.mem_toFinset.mpr (taken id stream got gone), unread⟩

end

end StreamRegistry

def StreamEvent.opening : StreamEvent → Option (Option BusName × StreamDescriptor)
  | .call header body _ =>
      match StreamRegistry.parse header body with
      | .ok (.openStream descriptor) => some (header.sender, descriptor)
      | _ => none
  | _ => none

namespace StreamState

/-- No open that is within the limits finds a claimed stream that outlasts an unread one. -/
def NoneOutlasted (state : StreamState) (event : StreamEvent) : Prop :=
  ∀ opening ∈ event.opening, state.registry.Room state.now opening.1 opening.2 →
    ¬ state.registry.Outlasted state.now opening.1

instance (state : StreamState) : DecidablePred state.NoneOutlasted :=
  fun event => inferInstanceAs (Decidable (∀ opening ∈ event.opening, _ → _))

def OpensFairly (state : StreamState) (event : StreamEvent) : Prop :=
  ∀ opening ∈ event.opening,
    state.registry.Fair state.now opening.1 (state.next event).registry

theorem next_fair {state : StreamState} {event : StreamEvent}
    (possible : state.Possible event) (apart : state.NoneOutlasted event) :
    state.OpensFairly event := by
  intro opening opens
  cases event with
  | call header body order =>
      have apart' := apart opening opens
      unfold StreamEvent.opening at opens
      unfold next StreamRegistry.dispatch
      dsimp only at opens ⊢
      cases parsed : StreamRegistry.parse header body with
      | error error =>
          rw [parsed] at opens
          cases opens
      | ok call =>
          rw [parsed] at opens
          cases call with
          | openStream descriptor =>
              cases opens
              exact StreamRegistry.openStream_fair possible.2 apart'
          | write id seq data => cases opens
          | close id totalLen => cases opens
          | abort id => cases opens
  | takeGate id => cases opens
  | send id => cases opens
  | claim id how => cases opens
  | poll id timedOut => cases opens
  | dropReader id => cases opens
  | setLimits limits => cases opens
  | elapse duration => cases opens

/-- In every run in which no claimed stream outlasts an unread one where an open is let
in, every open discards only what exceeds the limit of uncollected streams. -/
theorem runs_open_fairly {events : List StreamEvent} {state : StreamState}
    (run : (system.restrict NoneOutlasted).Run start events state) :
    (system.restrict OpensFairly).Run start events state := by
  apply run.mono
  rintro before event after ⟨apart, possible, rfl⟩
  exact ⟨next_fair possible apart, possible, rfl⟩

def closeOf (id : String) (order : List String) : StreamEvent :=
  .call (streamCall closeMember) (.array [.string id, .number (.posInt 0)]) order

/-- Two streams may be open.  The first is closed and left alone; the second is
claimed before it is closed. -/
def claimBeforeClose : List StreamEvent :=
  [.setLimits { StreamLimits.default with maxStreamsPerPeer := 2 },
    .call (streamCall openMember) openBody [], closeOf "s1" ["s1"],
    .call (streamCall openMember) openBody ["s1"], .claim "s2" .any, .elapse 1,
    closeOf "s2" ["s2", "s1"]]

/-- The first is claimed before it is closed, and the second left alone. -/
def claimTheFirst : List StreamEvent :=
  [.setLimits { StreamLimits.default with maxStreamsPerPeer := 2 },
    .call (streamCall openMember) openBody [], .claim "s1" .any,
    closeOf "s1" ["s1"], .call (streamCall openMember) openBody ["s1"], .elapse 1,
    closeOf "s2" ["s2", "s1"], .call (streamCall openMember) openBody ["s2", "s1"]]

theorem claimTheFirst_fair :
    ∃ state : StreamState, (system.restrict OpensFairly).Run start claimTheFirst state ∧
      (state.registry.get "s1").isNone ∧ (state.registry.get "s2").isSome := by
  have replayed : (replay next (fun state event =>
      decide (state.NoneOutlasted event ∧ state.Possible event)) start claimTheFirst).map
        (fun state => ((state.registry.get "s1").isNone, (state.registry.get "s2").isSome)) =
      some (true, true) := by
    decide
  obtain ⟨state, reached, seen⟩ := Option.map_eq_some_iff.mp replayed
  rw [Prod.mk.injEq] at seen
  refine ⟨state, runs_open_fairly (System.Run.of_replay ?_ reached), seen⟩
  intro before event admitted
  obtain ⟨apart, possible⟩ := of_decide_eq_true admitted
  exact ⟨apart, possible, rfl⟩

/-- An open discards a closed stream that nobody has collected, though its peer
holds only this one of the two it may hold. -/
theorem unread_evicted :
    ¬ ∀ (state : StreamState) (event : StreamEvent), system.Reachable state →
      state.Possible event → state.OpensFairly event := by
  intro fair
  have replayed : (replay next (fun state event => decide (state.Possible event)) start
      claimBeforeClose).map (fun state =>
        (decide (state.Possible
          (.call (streamCall openMember) openBody ["s2", "s1"])),
          state.registry.unreadAt state.now (some (BusName.unique 1)),
          state.registry.limits.maxStreamsPerPeer,
          ((state.next (.call (streamCall openMember) openBody
            ["s2", "s1"])).registry.get "s1").isNone)) =
      some (true, {"s1"}, 2, true) := by
    decide
  obtain ⟨state, reached, seen⟩ := Option.map_eq_some_iff.mp replayed
  rw [Prod.mk.injEq, Prod.mk.injEq, Prod.mk.injEq] at seen
  obtain ⟨possible, unread, limit, gone⟩ := seen
  have run : system.Run start claimBeforeClose state := by
    apply System.Run.of_replay _ reached
    intro before event admitted
    exact ⟨of_decide_eq_true admitted, rfl⟩
  have opens := fair state _ ⟨start, _, rfl, run⟩ (of_decide_eq_true possible)
    (some (BusName.unique 1), _) rfl
  have member : "s1" ∈ state.registry.unreadAt state.now (some (BusName.unique 1)) := by
    rw [unread]
    exact Finset.mem_singleton_self "s1"
  obtain ⟨stream, got, _, sealed, unclaimed⟩ := StreamRegistry.mem_unreadAt.mp member
  have full := (opens.full "s1" stream got sealed unclaimed (Option.isNone_iff_eq_none.mp gone)).2
  rw [unread, limit, Finset.card_singleton] at full
  omega

end StreamState

end TinyBus
