/-
The registered streams of a connection, as the operations see them.  Everything
an operation decides depends on these alone.
-/

import TinyBus.StreamSystem
import Mathlib.Data.Finset.Card

namespace TinyBus

/-- The stream that a call is about. -/
def StreamCall.target : StreamCall → Option String
  | .openStream _ => none
  | .write id _ _ => some id
  | .close id _ => some id
  | .abort id => some id

namespace Inbound

@[simp] theorem finish_owner (stream : Inbound) (outcome : Outcome) :
    (stream.finish outcome).owner = stream.owner := by
  unfold finish
  split <;> rfl

@[simp] theorem finish_writing (stream : Inbound) (outcome : Outcome) :
    (stream.finish outcome).writing = stream.writing := by
  unfold finish
  split <;> rfl

@[simp] theorem dropReader_owner (stream : Inbound) :
    stream.dropReader.owner = stream.owner := by
  unfold dropReader
  split <;> rfl

@[simp] theorem dropReader_writing (stream : Inbound) :
    stream.dropReader.writing = stream.writing := by
  unfold dropReader
  split <;> rfl

@[simp] theorem killed_registered (stream : Inbound) (reason : String) :
    (stream.killed reason).registered = false := by
  unfold killed sealed
  simp [unregister]

@[simp] theorem reaped_registered (stream : Inbound) :
    stream.reaped.registered = false :=
  killed_registered stream "the stream went idle and was reaped"

@[simp] theorem evicted_registered (stream : Inbound) :
    stream.evicted.registered = false := by
  unfold evicted
  simp [unregister]

def Active (now timeout : Nat) (stream : Inbound) : Prop :=
  stream.idleFor now < timeout

instance (now timeout : Nat) (stream : Inbound) : Decidable (stream.Active now timeout) :=
  inferInstanceAs (Decidable (_ < _))

theorem Active.earlier {now later timeout : Nat} {stream : Inbound}
    (active : stream.Active later timeout) (order : now ≤ later) :
    stream.Active now timeout := by
  unfold Active idleFor at active ⊢
  omega

end Inbound

structure Inbound.Wanes (stream changed : Inbound) : Prop where
  owner : changed.owner = stream.owner
  registered : changed.registered = true → stream.registered = true
  writing : changed.writing = true → stream.writing = true

namespace Inbound.Wanes

theorem refl (stream : Inbound) : Wanes stream stream :=
  ⟨rfl, id, id⟩

theorem trans {first middle last : Inbound} (early : Wanes first middle)
    (late : Wanes middle last) : Wanes first last :=
  ⟨late.owner.trans early.owner, fun listed => early.registered (late.registered listed),
    fun writes => early.writing (late.writing writes)⟩

theorem of_same {stream changed : Inbound} (owner : changed.owner = stream.owner)
    (registered : changed.registered = stream.registered)
    (writing : changed.writing = stream.writing) : Wanes stream changed := by
  refine ⟨owner, ?_, ?_⟩
  · intro listed
    rw [← registered, listed]
  · intro writes
    rw [← writing, writes]

theorem sealed (stream : Inbound) : Wanes stream stream.sealed :=
  ⟨rfl, id, fun (impossible : false = true) => absurd impossible Bool.false_ne_true⟩

theorem finish (stream : Inbound) (outcome : Outcome) :
    Wanes stream (stream.finish outcome) :=
  of_same (finish_owner _ _) (finish_registered _ _) (finish_writing _ _)

theorem move {completes : Inbound → Nat → Prop} {before after : Inbound × Transcript}
    (moved : Inbound.Move completes before after) : Wanes before.1 after.1 := by
  cases moved with
  | finish reason => exact finish _ _
  | sealed => exact sealed _
  | unregister =>
      refine ⟨rfl, ?_, id⟩
      intro impossible
      cases impossible
  | dropReader =>
      exact of_same (dropReader_owner _) (dropReader_registered _) (dropReader_writing _)
  | @close stream transcript now totalLen _ =>
      have touched : Wanes stream (stream.touch now) := of_same rfl rfl rfl
      exact (touched.trans (finish _ _)).trans (sealed _)
  | poll timedOut _ =>
      unfold Inbound.nextChunk
      split
      · exact of_same rfl rfl rfl
      · split
        · exact refl _
        · split <;> exact refl _
  | _ => exact of_same rfl rfl rfl

theorem moves {completes : Inbound → Nat → Prop} {before after : Inbound × Transcript}
    (moves : Inbound.Moves completes before after) : Wanes before.1 after.1 := by
  induction moves with
  | refl => exact refl before.1
  | tail _ moved wanes => exact wanes.trans (move moved)

end Inbound.Wanes

namespace StreamRegistry

theorem get_eq_some_iff {registry : StreamRegistry} {id : String} {stream : Inbound} :
    registry.get id = some stream ↔
      registry.streams.lookup id = some stream ∧ stream.registered = true :=
  Option.filter_eq_some_iff

theorem get_modify_of_ne (registry : StreamRegistry) {id other : String}
    (update : Inbound → Inbound) (different : other ≠ id) :
    (registry.modify id update).get other = registry.get other := by
  unfold get modify
  rw [Table.lookup_modify_of_ne _ _ different]

theorem get_modify_self (registry : StreamRegistry) (id : String)
    (update : Inbound → Inbound) :
    (registry.modify id update).get id =
      ((registry.streams.lookup id).map update).filter Inbound.registered := by
  unfold get modify
  rw [Table.lookup_modify_self]

theorem get_reap (registry : StreamRegistry) (now : Nat) (limits : StreamLimits)
    (id : String) :
    (registry.reap now limits).get id =
      (registry.get id).filter (fun stream =>
        decide (stream.Active now limits.idleTimeout)) := by
  unfold get reap
  dsimp only
  rw [Table.lookup_mapValues]
  cases registry.streams.lookup id with
  | none => rfl
  | some stream =>
      by_cases listed : stream.registered = true
      · by_cases active : stream.idleFor now < limits.idleTimeout
        · have kept : stream.Active now limits.idleTimeout := active
          simp [Option.filter, listed, kept, Nat.not_le_of_lt active]
        · have old : ¬ stream.Active now limits.idleTimeout := active
          simp [Option.filter, listed, old, Nat.le_of_not_lt active]
      · simp [Option.filter, listed]

theorem get_evict (registry : StreamRegistry) (ids : List String) (id : String) :
    (registry.evict ids).get id = if id ∈ ids then none else registry.get id := by
  induction ids generalizing registry with
  | nil => rfl
  | cons first rest ih =>
      have unfolded : registry.evict (first :: rest) =
          (registry.modify first Inbound.evicted).evict rest := rfl
      rw [unfolded, ih]
      by_cases later : id ∈ rest
      · rw [if_pos later, if_pos (List.mem_cons_of_mem first later)]
      · rw [if_neg later]
        by_cases same : id = first
        · subst same
          rw [if_pos List.mem_cons_self, get_modify_self]
          cases registry.streams.lookup id with
          | none => rfl
          | some stream => simp
        · rw [get_modify_of_ne _ _ same, if_neg]
          rw [List.mem_cons]
          exact not_or.mpr ⟨same, later⟩

/-- Only the stream under one id changed. -/
structure Confined (id : String) (before after : StreamRegistry) : Prop where
  limits : after.limits = before.limits
  others : ∀ other, other ≠ id → after.streams.lookup other = before.streams.lookup other
  present : after.streams.lookup id = none ↔ before.streams.lookup id = none

namespace Confined

variable {id : String}

theorem refl (registry : StreamRegistry) : Confined id registry registry :=
  ⟨rfl, fun _ _ => rfl, Iff.rfl⟩

theorem trans {first middle last : StreamRegistry} (early : Confined id first middle)
    (late : Confined id middle last) : Confined id first last :=
  ⟨late.limits.trans early.limits,
    fun other different => (late.others other different).trans (early.others other different),
    late.present.trans early.present⟩

theorem modify (registry : StreamRegistry) (update : Inbound → Inbound) :
    Confined id registry (registry.modify id update) := by
  refine ⟨rfl, ?_, ?_⟩
  · intro other different
    exact Table.lookup_modify_of_ne registry.streams update different
  · unfold StreamRegistry.modify
    dsimp only
    rw [Table.lookup_modify_self, Option.map_eq_none_iff]

theorem enter (registry : StreamRegistry) (now : Nat) (stream : Inbound)
    (write : PendingWrite) : Confined id registry (registry.enter now id stream write).2 := by
  unfold StreamRegistry.enter
  split
  · exact modify registry _
  · exact refl registry
  · split
    · exact modify registry _
    · exact modify registry _

theorem takeGate (registry : StreamRegistry) (now : Nat) :
    Confined id registry (registry.takeGate now id).2 := by
  unfold StreamRegistry.takeGate
  split
  · exact refl registry
  · split
    · exact (modify registry _).trans (enter _ now _ _)
    · exact refl registry

theorem send (registry : StreamRegistry) (now : Nat) :
    Confined id registry (registry.send now id).2 := by
  unfold StreamRegistry.send
  split
  · exact refl registry
  · split
    · exact refl registry
    · dsimp only
      split
      · exact modify registry _
      · split
        · exact (modify registry _).trans (modify _ _)
        · split
          · exact (modify registry _).trans (modify _ _)
          · exact refl registry

theorem write (registry : StreamRegistry) (now : Nat) (sender : Option BusName)
    (seq : Nat) (data : String) :
    Confined id registry (registry.write now sender id seq data).2 := by
  unfold StreamRegistry.write
  split
  · exact refl registry
  · split
    · exact refl registry
    · split
      · exact modify registry _
      · dsimp only
        split
        · exact enter registry now _ _
        · exact modify registry _

theorem close (registry : StreamRegistry) (now : Nat) (sender : Option BusName)
    (totalLen : Nat) : Confined id registry (registry.close now sender id totalLen).2 := by
  unfold StreamRegistry.close
  split
  · exact refl registry
  · exact modify registry _

theorem abort (registry : StreamRegistry) (now : Nat) (sender : Option BusName) :
    Confined id registry (registry.abort now sender id).2 := by
  unfold StreamRegistry.abort
  split
  · exact refl registry
  · exact modify registry _

theorem perform (registry : StreamRegistry) (now : Nat) (sender : Option BusName)
    (order : List String) {call : StreamCall} (about : call.target = some id) :
    Confined id registry (registry.perform now sender order call).2 := by
  cases call with
  | openStream descriptor => cases about
  | write id' seq data =>
      cases about
      exact write registry now sender seq data
  | close id' totalLen =>
      cases about
      exact close registry now sender totalLen
  | abort id' =>
      cases about
      exact abort registry now sender

theorem takeReaderInner (registry : StreamRegistry) (expected : Option (Option BusName)) :
    Confined id registry (registry.takeReaderInner id expected).2 := by
  unfold StreamRegistry.takeReaderInner
  split
  · exact refl registry
  · rename_i stream _
    split
    · exact refl registry
    · have passing : Confined id registry
          (if stream.writing then registry else registry.modify id .unregister) := by
        split
        · exact refl registry
        · exact modify registry _
      dsimp only
      split
      · exact passing.trans (modify _ _)
      · exact passing

theorem claim (registry : StreamRegistry) (how : Claim) :
    Confined id registry (registry.claim id how).2 := by
  cases how with
  | any => exact takeReaderInner registry none
  | ownedBy owner => exact takeReaderInner registry (some owner)
  | openedBy opener =>
      unfold StreamRegistry.claim StreamRegistry.takeReaderOpenedBy
      dsimp only
      split
      · exact refl registry
      · split
        · exact takeReaderInner registry none
        · exact refl registry

theorem earlier {before after : StreamRegistry} {heard hears : String → Transcript}
    {completes : Inbound → Nat → Prop} (confined : Confined id before after)
    (evolves : Evolves completes before after heard hears) {other : String}
    {changed : Inbound} (got : after.get other = some changed) :
    ∃ stream, before.get other = some stream ∧ Inbound.Wanes stream changed := by
  obtain ⟨found, listed⟩ := get_eq_some_iff.mp got
  cases past : before.streams.lookup other with
  | none =>
      have absent : after.streams.lookup other = none := by
        by_cases same : other = id
        · subst same
          exact confined.present.mpr past
        · rw [confined.others other same, past]
      rw [absent] at found
      cases found
  | some stream =>
      obtain ⟨changed', found', moves⟩ := evolves.kept other stream past
      rw [found, Option.some.injEq] at found'
      subst found'
      have wanes := Inbound.Wanes.moves moves
      exact ⟨stream, get_eq_some_iff.mpr ⟨past, wanes.registered listed⟩, wanes⟩

end Confined

def select (registry : StreamRegistry) (test : Inbound → Bool) : Finset String :=
  registry.streams.keys.toFinset.filter (fun id => (registry.get id).any test = true)

variable {id : String} {registry : StreamRegistry} {order : List String} {stream : Inbound}

theorem mem_select {test : Inbound → Bool} :
    id ∈ registry.select test ↔
      ∃ stream, registry.get id = some stream ∧ test stream = true := by
  unfold select
  rw [Finset.mem_filter, List.mem_toFinset, Option.any_eq_true]
  constructor
  · rintro ⟨_, stream, got, passes⟩
    exact ⟨stream, got, passes⟩
  · rintro ⟨stream, got, passes⟩
    have present : id ∈ registry.streams := by
      rw [← AList.lookup_isSome, (get_eq_some_iff.mp got).1]
      rfl
    exact ⟨present, stream, got, passes⟩

theorem mem_owned {sender : Option BusName} :
    (id, stream) ∈ registry.owned sender order ↔
      id ∈ order ∧ registry.get id = some stream ∧ stream.owner = sender := by
  unfold owned
  rw [List.mem_filterMap]
  constructor
  · rintro ⟨other, listed, found⟩
    obtain ⟨stream', got, same⟩ := Option.map_eq_some_iff.mp found
    cases same
    obtain ⟨got, owner⟩ := Option.filter_eq_some_iff.mp got
    exact ⟨listed, got, of_decide_eq_true owner⟩
  · rintro ⟨listed, got, owner⟩
    refine ⟨id, listed, ?_⟩
    rw [got]
    simp [owner]

theorem owned_ids_sublist (registry : StreamRegistry) (sender : Option BusName)
    (order : List String) :
    ((registry.owned sender order).map Prod.fst).Sublist order := by
  induction order with
  | nil => exact List.Sublist.slnil
  | cons id rest ih =>
      unfold owned at ih ⊢
      rw [List.filterMap_cons]
      cases (registry.get id).filter (fun stream => decide (stream.owner = sender)) with
      | none => exact ih.cons id
      | some stream => exact ih.cons_cons id

theorem registered_nodup (registry : StreamRegistry) : registry.registered.Nodup := by
  unfold registered
  apply List.Nodup.sublist _ registry.streams.pairs_keys_nodup
  exact List.filter_sublist.map Prod.fst

theorem mem_registered :
    id ∈ registry.registered ↔ ∃ stream, registry.get id = some stream := by
  unfold registered
  rw [List.mem_map]
  constructor
  · rintro ⟨⟨id', stream⟩, listed, rfl⟩
    obtain ⟨present, kept⟩ := List.mem_filter.mp listed
    exact ⟨stream, get_eq_some_iff.mpr ⟨Table.mem_pairs_iff_lookup.mp present, kept⟩⟩
  · rintro ⟨stream, got⟩
    obtain ⟨found, kept⟩ := get_eq_some_iff.mp got
    exact ⟨(id, stream), List.mem_filter.mpr
      ⟨Table.mem_pairs_iff_lookup.mpr found, kept⟩, rfl⟩

theorem owned_filter_length (distinct : order.Nodup)
    (complete : ∀ id stream, registry.get id = some stream → id ∈ order) (sender : Option BusName)
    (test : Inbound → Bool) :
    ((registry.owned sender order).filter (fun entry => test entry.2)).length =
      (registry.select (fun stream => decide (stream.owner = sender) && test stream)).card := by
  have listed : ((registry.owned sender order).filter (fun entry => test entry.2)).map
      Prod.fst |>.Nodup := by
    apply List.Nodup.sublist _ distinct
    exact (List.filter_sublist.map Prod.fst).trans (owned_ids_sublist registry sender order)
  have same : (((registry.owned sender order).filter (fun entry => test entry.2)).map
      Prod.fst).toFinset =
        registry.select (fun stream => decide (stream.owner = sender) && test stream) := by
    ext id
    rw [List.mem_toFinset, List.mem_map, mem_select]
    constructor
    · rintro ⟨⟨id', stream⟩, member, rfl⟩
      obtain ⟨member, passes⟩ := List.mem_filter.mp member
      obtain ⟨_, got, owner⟩ := mem_owned.mp member
      exact ⟨stream, got, by simp [owner, passes]⟩
    · rintro ⟨stream, got, passes⟩
      rw [Bool.and_eq_true, decide_eq_true_eq] at passes
      exact ⟨(id, stream), List.mem_filter.mpr
        ⟨mem_owned.mpr ⟨complete id stream got, got, passes.1⟩, passes.2⟩, rfl⟩
  rw [← same, List.toFinset_card_of_nodup listed, List.length_map]

def byAge (closed : List (String × Inbound)) : List (String × Nat) :=
  (closed.map (fun entry => (entry.1, entry.2.lastActivity))).insertionSort
    (fun left right => left.2 ≤ right.2)

theorem evictions_eq (closed : List (String × Inbound)) (limit : Nat) :
    evictions closed limit =
      ((byAge closed).take (closed.length + 1 - limit)).map Prod.fst := by
  unfold evictions
  split
  · rename_i few
    rw [Nat.sub_eq_zero_of_le few, List.take_zero, List.map_nil]
  · rfl

theorem byAge_perm (closed : List (String × Inbound)) :
    (byAge closed).Perm (closed.map (fun entry => (entry.1, entry.2.lastActivity))) :=
  List.perm_insertionSort _ _

theorem byAge_ids_perm (closed : List (String × Inbound)) :
    ((byAge closed).map Prod.fst).Perm (closed.map Prod.fst) := by
  have permuted := (byAge_perm closed).map Prod.fst
  rw [List.map_map] at permuted
  exact permuted

theorem byAge_sorted (closed : List (String × Inbound)) :
    (byAge closed).Pairwise (fun left right => left.2 ≤ right.2) :=
  List.pairwise_insertionSort _ _

theorem evictions_length (closed : List (String × Inbound)) {limit : Nat}
    (some : 1 ≤ limit) :
    (evictions closed limit).length = closed.length + 1 - limit := by
  have all := (byAge_perm closed).length_eq
  rw [List.length_map] at all
  rw [evictions_eq, List.length_map, List.length_take, all]
  omega

theorem mem_of_evicted {closed : List (String × Inbound)} {limit : Nat}
    (evicted : id ∈ evictions closed limit) : id ∈ closed.map Prod.fst := by
  rw [evictions_eq] at evicted
  have member := ((List.take_sublist _ (byAge closed)).map Prod.fst).subset evicted
  exact (byAge_ids_perm closed).mem_iff.mp member

theorem evictions_nodup {closed : List (String × Inbound)} {limit : Nat}
    (distinct : (closed.map Prod.fst).Nodup) : (evictions closed limit).Nodup := by
  rw [evictions_eq]
  apply List.Nodup.sublist ((List.take_sublist _ (byAge closed)).map Prod.fst)
  exact (byAge_ids_perm closed).nodup_iff.mpr distinct

def liveAt (registry : StreamRegistry) (now : Nat) (peer : Option BusName) : Finset String :=
  (registry.reap now registry.limits).select
    (fun stream => decide (stream.owner = peer) && stream.writing)

def closedAt (registry : StreamRegistry) (now : Nat) (peer : Option BusName) : Finset String :=
  (registry.reap now registry.limits).select
    (fun stream => decide (stream.owner = peer) && !stream.writing)

def closedList (registry : StreamRegistry) (now : Nat) (peer : Option BusName)
    (order : List String) : List (String × Inbound) :=
  ((registry.reap now registry.limits).owned peer order).filter (fun entry => !isLive entry)

def evictedAt (registry : StreamRegistry) (now : Nat) (peer : Option BusName)
    (order : List String) : List String :=
  evictions (registry.closedList now peer order) registry.limits.maxStreamsPerPeer

/-- The declared length is beyond what is accepted. -/
def Oversized (registry : StreamRegistry) (descriptor : StreamDescriptor) : Prop :=
  descriptor.totalLen.any
    (fun total => decide (registry.limits.maxStreamLen < total)) = true

theorem order_complete (listing : order.Perm registry.registered) (now : Nat)
    (limits : StreamLimits) :
    order.Nodup ∧
      ∀ id stream, (registry.reap now limits).get id = some stream → id ∈ order := by
  constructor
  · exact listing.nodup_iff.mpr registry.registered_nodup
  · intro id stream got
    rw [get_reap] at got
    have present := (Option.filter_eq_some_iff.mp got).1
    exact listing.mem_iff.mpr (mem_registered.mpr ⟨stream, present⟩)

theorem live_length (listing : order.Perm registry.registered) (now : Nat) (peer : Option BusName) :
    (((registry.reap now registry.limits).owned peer order).filter isLive).length =
      (registry.liveAt now peer).card := by
  obtain ⟨distinct, complete⟩ := order_complete listing now registry.limits
  exact owned_filter_length distinct complete peer Inbound.writing

theorem closed_length (listing : order.Perm registry.registered) (now : Nat)
    (peer : Option BusName) :
    (registry.closedList now peer order).length = (registry.closedAt now peer).card := by
  obtain ⟨distinct, complete⟩ := order_complete listing now registry.limits
  exact owned_filter_length distinct complete peer (fun stream => !stream.writing)

theorem mem_closedList (listing : order.Perm registry.registered) {now : Nat}
    {peer : Option BusName} :
    (id, stream) ∈ registry.closedList now peer order ↔
      (registry.reap now registry.limits).get id = some stream ∧ stream.owner = peer ∧
        stream.writing = false := by
  unfold closedList isLive
  rw [List.mem_filter, mem_owned, Bool.not_eq_true']
  constructor
  · rintro ⟨⟨_, got, owner⟩, sealed⟩
    exact ⟨got, owner, sealed⟩
  · rintro ⟨got, owner, sealed⟩
    exact ⟨⟨(order_complete listing now registry.limits).2 id stream got, got, owner⟩, sealed⟩

theorem closedList_ids_nodup (listing : order.Perm registry.registered) (now : Nat)
    (peer : Option BusName) :
    ((registry.closedList now peer order).map Prod.fst).Nodup := by
  apply List.Nodup.sublist _ (order_complete listing now registry.limits).1
  exact (List.filter_sublist.map Prod.fst).trans (owned_ids_sublist _ peer order)

theorem mem_of_evictedAt (listing : order.Perm registry.registered) {now : Nat}
    {peer : Option BusName} (evicted : id ∈ registry.evictedAt now peer order) :
    ∃ stream, (registry.reap now registry.limits).get id = some stream ∧
      stream.owner = peer ∧ stream.writing = false := by
  obtain ⟨⟨id', stream⟩, member, rfl⟩ := List.mem_map.mp (mem_of_evicted evicted)
  exact ⟨stream, (mem_closedList listing).mp member⟩

/-- What an open does: it refuses a length, refuses another stream beside too many
live ones, or makes room and adds the stream. -/
inductive Opened (registry : StreamRegistry) (now : Nat) (sender : Option BusName)
    (descriptor : StreamDescriptor) (order : List String) :
    Except Error Value × StreamRegistry → Prop
  | oversized (large : registry.Oversized descriptor) :
      Opened registry now sender descriptor order
        (.error (.streamTooLarge registry.limits.maxStreamLen), registry)
  | crowded {after : StreamRegistry} (small : ¬ registry.Oversized descriptor)
      (full : registry.limits.maxStreamsPerPeer ≤ (registry.liveAt now sender).card)
      (limits : after.limits = registry.limits)
      (streams : ∀ id, after.get id = (registry.reap now registry.limits).get id) :
      Opened registry now sender descriptor order
        (.error (.tooManyStreams registry.limits.maxStreamsPerPeer), after)
  | added {after : StreamRegistry} (small : ¬ registry.Oversized descriptor)
      (room : (registry.liveAt now sender).card < registry.limits.maxStreamsPerPeer)
      (limits : after.limits = registry.limits)
      (streams : ∀ id, after.get id =
        if id = streamId registry.nextId then
          some (fresh sender descriptor registry.limits now)
        else if id ∈ registry.evictedAt now sender order then none
        else (registry.reap now registry.limits).get id) :
      Opened registry now sender descriptor order
        (.ok (.string (streamId registry.nextId)), after)

theorem added_cases {after : StreamRegistry} {now : Nat} {sender : Option BusName}
    {descriptor : StreamDescriptor} (streams : ∀ id, after.get id =
      if id = streamId registry.nextId then
        some (fresh sender descriptor registry.limits now)
      else if id ∈ registry.evictedAt now sender order then none
      else (registry.reap now registry.limits).get id) (got : after.get id = some stream) :
    id = streamId registry.nextId ∧ stream.owner = sender ∨
      id ∉ registry.evictedAt now sender order ∧
        (registry.reap now registry.limits).get id = some stream := by
  rw [streams] at got
  split at got
  · rename_i same
    cases got
    exact .inl ⟨same, rfl⟩
  · split at got
    · cases got
    · rename_i kept
      exact .inr ⟨kept, got⟩

theorem get_insert (registry : StreamRegistry) (id other : String)
    (listed : stream.registered = true) :
    ({ registry with streams := registry.streams.insert id stream }).get other =
      if other = id then some stream else registry.get other := by
  unfold get
  dsimp only
  rw [Table.lookup_insert_eq]
  by_cases same : other = id
  · rw [if_pos same, if_pos same]
    simp [Option.filter, listed]
  · rw [if_neg same, if_neg same]

theorem openStream_opened (listing : order.Perm registry.registered) (now : Nat)
    (sender : Option BusName) (descriptor : StreamDescriptor) :
    Opened registry now sender descriptor order
      (registry.openStream now sender descriptor order) := by
  have live := live_length listing now sender
  unfold openStream
  dsimp only
  split
  · rename_i large
    exact .oversized large
  · rename_i small
    split
    · rename_i full
      apply Opened.crowded small
      · exact full.trans_eq live
      · rfl
      · intro id
        rfl
    · rename_i room
      apply Opened.added small
      · rw [← live]
        exact Nat.lt_of_not_le room
      · exact evict_limits _ _
      · intro id
        rw [get_insert]
        · rw [get_evict]
          rfl
        · rfl

end StreamRegistry

end TinyBus
