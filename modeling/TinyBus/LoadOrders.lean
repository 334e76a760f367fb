/-
The load order of a batch of manifests: a largest list of modules that can be activated
one after another.  The loader goes by the names of the interfaces; what that means for
the version ranges of the dependencies is at the end.
-/

import TinyBus.Loading
import TinyBus.Library.Activation

namespace TinyBus

open Activation

/-! ### Dependencies that are met -/

namespace ModuleManifest

/-- The manifest lists the interface of a dependency, at whatever version. -/
def Names (provider : ModuleManifest) (dependency : Dependency) : Prop :=
  dependency.interface.interface.text ∈ provider.provided

/-- The manifest lists the interface at a version that both sides accept. -/
def Serves (provider : ModuleManifest) (dependency : Dependency) : Prop :=
  ∃ offered ∈ provider.provides, offered.version.interface = dependency.interface.interface ∧
    offered.version.compatible dependency.interface = true

theorem Serves.names {provider : ModuleManifest} {dependency : Dependency}
    (serves : provider.Serves dependency) : provider.Names dependency := by
  obtain ⟨offered, among, same, _⟩ := serves
  exact List.mem_map.mpr ⟨offered, among, by rw [same]⟩

end ModuleManifest

def Free (initiallyAvailable : List String) (dependency : Dependency) : Prop :=
  dependency.interface.interface.text ∈ initiallyAvailable

def Alone (batch : List ModuleManifest) (manifest : ModuleManifest) : Prop :=
  manifest ∈ batch ∧
    (batch.map (fun other => other.module.name)).count manifest.module.name = 1 ∧
    (batch.map (fun other => other.busName.text)).count manifest.busName.text = 1

def ordered (batch : List ModuleManifest) (initiallyAvailable : List String) :
    List ModuleManifest :=
  (resolve batch initiallyAvailable).order.map (manifestAt batch)

/-- What is expected of the load order of a batch, for a notion of dependencies that are
met: each manifest is ordered or left out, once; whoever shares a name is left out; what
is ordered is supported, no list that could be activated has anything that the order has
not, and the input may come in any order. -/
structure Resolves (meets : ModuleManifest → Dependency → Prop) (batch : List ModuleManifest)
    (initiallyAvailable : List String) : Prop where
  every : ((resolve batch initiallyAvailable).order ++
    (resolve batch initiallyAvailable).unresolved.map Prod.fst).Perm (List.range batch.length)
  apart : ∀ first second, first < batch.length → second < batch.length → first ≠ second →
    (manifestAt batch first).module.name = (manifestAt batch second).module.name ∨
      (manifestAt batch first).busName = (manifestAt batch second).busName →
    ∃ reason, (first, reason) ∈ (resolve batch initiallyAvailable).unresolved
  supported : Ordered meets (Free initiallyAvailable) ModuleManifest.needs
    (ordered batch initiallyAvailable)
  largest : ∀ others, (∀ manifest ∈ others, Alone batch manifest) →
    Ordered meets (Free initiallyAvailable) ModuleManifest.needs others →
    ∀ manifest ∈ others, manifest ∈ ordered batch initiallyAvailable
  unordered : ∀ shuffled, batch.Perm shuffled →
    (ordered shuffled initiallyAvailable).Perm (ordered batch initiallyAvailable)

/-! ### Who shares a name -/

section Sharing

variable {batch : List ModuleManifest}

theorem mem_duplicates {values : List String} {value : String} :
    value ∈ duplicates values ↔ 1 < values.count value := by
  unfold duplicates
  rw [List.mem_filter, decide_eq_true_iff]
  constructor
  · exact fun both => both.2
  · exact fun several => ⟨List.count_pos_iff.mp (Nat.lt_of_succ_lt several), several⟩

theorem clash_none_iff {manifest : ModuleManifest} (among : manifest ∈ batch) :
    clash batch manifest = none ↔ Alone batch manifest := by
  have name := List.count_pos_iff.mpr
    (List.mem_map_of_mem (f := fun other : ModuleManifest => other.module.name) among)
  have busName := List.count_pos_iff.mpr
    (List.mem_map_of_mem (f := fun other : ModuleManifest => other.busName.text) among)
  unfold clash Alone
  dsimp only
  by_cases shared : manifest.module.name ∈
      duplicates (batch.map (fun other => other.module.name))
  · rw [if_pos (List.contains_iff_mem.mpr shared)]
    rw [mem_duplicates] at shared
    constructor
    · intro absent
      cases absent
    · rintro ⟨_, once, _⟩
      omega
  · rw [if_neg (fun listed => shared (List.contains_iff_mem.mp listed))]
    rw [mem_duplicates] at shared
    by_cases claimed : manifest.busName.text ∈
        duplicates (batch.map (fun other => other.busName.text))
    · rw [if_pos (List.contains_iff_mem.mpr claimed)]
      rw [mem_duplicates] at claimed
      constructor
      · intro absent
        cases absent
      · rintro ⟨_, _, once⟩
        omega
    · rw [if_neg (fun listed => claimed (List.contains_iff_mem.mp listed))]
      rw [mem_duplicates] at claimed
      refine ⟨fun _ => ⟨among, ?_, ?_⟩, fun _ => rfl⟩
      · omega
      · omega

theorem manifestAt_eq {index : Nat} (within : index < batch.length) :
    manifestAt batch index = batch[index] := by
  unfold manifestAt
  rw [List.getD_eq_getElem?_getD, List.getElem?_eq_getElem within]
  rfl

theorem mem_separate {index : Nat} : index ∈ (separate batch).1 ↔
    index < batch.length ∧ Alone batch (manifestAt batch index) := by
  unfold separate
  dsimp only
  rw [List.mem_map]
  constructor
  · rintro ⟨⟨manifest, position⟩, among, rfl⟩
    obtain ⟨entry, alone⟩ := List.mem_filter.mp among
    have listed := List.mem_zipIdx_iff_getElem?.mp entry
    obtain ⟨within, same⟩ := List.getElem?_eq_some_iff.mp listed
    dsimp only at same alone within ⊢
    rw [manifestAt_eq within, same]
    exact ⟨within, (clash_none_iff (same ▸ List.getElem_mem within)).mp
      (Option.isNone_iff_eq_none.mp alone)⟩
  · rintro ⟨within, alone⟩
    rw [manifestAt_eq within] at alone
    refine ⟨(batch[index], index), List.mem_filter.mpr ⟨?_, ?_⟩, rfl⟩
    · exact List.mem_zipIdx_iff_getElem?.mpr (List.getElem?_eq_getElem within)
    · rw [(clash_none_iff (List.getElem_mem within)).mpr alone]
      rfl

theorem separate_perm (batch : List ModuleManifest) :
    ((separate batch).1 ++ (separate batch).2.map Prod.fst).Perm
      (List.range batch.length) := by
  have left : (separate batch).2.map Prod.fst = (batch.zipIdx.filter
      (fun entry => !(clash batch entry.1).isNone)).map Prod.snd := by
    unfold separate
    dsimp only
    generalize batch.zipIdx = entries
    induction entries with
    | nil => rfl
    | cons entry rest ih =>
        cases clashes : clash batch entry.1 with
        | none => simp [clashes, ih]
        | some reason => simp [clashes, ih]
  have split := List.filter_append_perm (fun entry => (clash batch entry.1).isNone) batch.zipIdx
  have indices : batch.zipIdx.map Prod.snd = List.range batch.length := by
    rw [List.zipIdx_map_snd, List.range_eq_range']
  rw [left, ← indices]
  unfold separate
  dsimp only
  rw [← List.map_append]
  exact split.map Prod.snd

theorem Alone.once {first second : Nat} (alone : Alone batch (manifestAt batch first))
    (within : first < batch.length) (withinSecond : second < batch.length)
    (same : (manifestAt batch first).module.name = (manifestAt batch second).module.name ∨
      (manifestAt batch first).busName = (manifestAt batch second).busName) :
    first = second := by
  have twice : ∀ property : ModuleManifest → String,
      property (manifestAt batch first) = property (manifestAt batch second) →
      (batch.map property).count (property (manifestAt batch first)) = 1 →
      first = second := by
    intro property equal single
    by_contra different
    have entry : ∀ index, (place : index < (batch.map property).length) →
        (batch.map property).get ⟨index, place⟩ = property (manifestAt batch index) := by
      intro index place
      rw [List.length_map] at place
      rw [manifestAt_eq place]
      simp
    have repeated : 2 ≤ (batch.map property).count (property (manifestAt batch first)) := by
      rw [← List.duplicate_iff_two_le_count, List.duplicate_iff_exists_distinct_get]
      have place : first < (batch.map property).length := by rwa [List.length_map]
      have placeSecond : second < (batch.map property).length := by rwa [List.length_map]
      rcases Nat.lt_or_gt_of_ne different with earlier | later
      · exact ⟨⟨first, place⟩, ⟨second, placeSecond⟩, earlier, (entry first place).symm,
          equal.trans (entry second placeSecond).symm⟩
      · exact ⟨⟨second, placeSecond⟩, ⟨first, place⟩, later,
          equal.trans (entry second placeSecond).symm, (entry first place).symm⟩
    omega
  rcases same with name | busName
  · exact twice (fun other => other.module.name) name alone.2.1
  · exact twice (fun other => other.busName.text) (congrArg BusName.text busName) alone.2.2

end Sharing

/-! ### The loop -/

namespace BatchOrder

variable {manifests : Nat → ModuleManifest} {state : BatchOrder}

def Stalled (manifests : Nat → ModuleManifest) (state : BatchOrder) : Prop :=
  ∀ index ∈ state.pending, state.ready manifests index = false

def noProvider (name : String) : String := "required interface " ++ name ++ " has no provider"

def cycleDetected : String := "module dependency cycle detected"

theorem step_cases (manifests : Nat → ModuleManifest) (state : BatchOrder) :
    (∃ index ∈ state.pending, state.ready manifests index = true ∧
      state.step manifests = state.place manifests index) ∨
    Stalled manifests state ∧
      ((∃ index ∈ state.pending, ∃ name, state.missing manifests index = some name ∧
          state.step manifests = state.refuse index (noProvider name)) ∨
        (∀ index ∈ state.pending, state.missing manifests index = none) ∧
          state.step manifests =
            { state with
              pending := []
              placed := { state.placed with
                unresolved := state.placed.unresolved ++
                  state.pending.map (fun index => (index, cycleDetected)) } }) := by
  unfold step
  cases found : state.pending.find? (state.ready manifests) with
  | some index =>
      exact .inl ⟨index, List.mem_of_find?_eq_some found, List.find?_some found, rfl⟩
  | none =>
      have stalled : Stalled manifests state := by
        intro index pending
        exact eq_false_of_ne_true (List.find?_eq_none.mp found index pending)
      refine .inr ⟨stalled, ?_⟩
      dsimp only
      cases blocked : state.pending.findSome? (fun index =>
          (state.missing manifests index).map (fun name => (index, name))) with
      | some pair =>
          obtain ⟨index, pending, same⟩ := List.exists_of_findSome?_eq_some blocked
          obtain ⟨name, missing, rfl⟩ := Option.map_eq_some_iff.mp same
          exact .inl ⟨index, pending, name, missing, rfl⟩
      | none =>
          refine .inr ⟨?_, rfl⟩
          intro index pending
          exact Option.map_eq_none_iff.mp (List.findSome?_eq_none_iff.mp blocked index pending)

theorem turns_keeps {Kept : BatchOrder → Prop}
    (step : ∀ state, Kept state → Kept (state.step manifests)) (more : Nat)
    (kept : Kept state) : Kept (turns manifests more state) := by
  induction more generalizing state with
  | zero => exact kept
  | succ more ih => exact ih (step state kept)

/-- Every manifest of the batch is pending, placed or left out, and only one of these. -/
def Partitions (count : Nat) (state : BatchOrder) : Prop :=
  (state.pending ++ (state.placed.order ++ state.placed.unresolved.map Prod.fst)).Perm
    (List.range count)

theorem Partitions.step {count : Nat} (partitions : Partitions count state) :
    Partitions count (state.step manifests) := by
  have moved : ∀ {index : Nat}, index ∈ state.pending → ∀ value,
      state.pending.count value = (state.pending.erase index).count value +
        if (index == value) = true then 1 else 0 := by
    intro index pending value
    rw [(List.perm_cons_erase pending).count_eq value, List.count_cons]
  unfold Partitions at partitions ⊢
  refine List.Perm.trans (List.perm_iff_count.mpr fun value => ?_) partitions
  rcases step_cases manifests state with ⟨index, pending, _, stepped⟩ |
    ⟨_, ⟨index, pending, name, _, stepped⟩ | ⟨_, stepped⟩⟩
  · rw [stepped]
    unfold place
    simp only [List.count_append, List.count_cons, List.count_nil, moved pending value]
    omega
  · rw [stepped]
    unfold refuse
    simp only [List.map_append, List.map_cons, List.map_nil, List.count_append,
      List.count_cons, List.count_nil, moved pending value]
    omega
  · rw [stepped]
    have indices : (state.pending.map fun index => (index, cycleDetected)).map Prod.fst =
        state.pending := by
      rw [List.map_map]
      exact List.map_id' state.pending
    simp only [List.map_append, indices, List.count_append, List.count_nil]
    omega

/-- What was pending at first is all that is ever placed. -/
def Within (first : List Nat) (state : BatchOrder) : Prop :=
  ∀ index, index ∈ state.pending ∨ index ∈ state.placed.order → index ∈ first

theorem Within.step {first : List Nat} (within : Within first state) :
    Within first (state.step manifests) := by
  intro index listed
  rcases step_cases manifests state with ⟨chosen, pending, _, stepped⟩ |
    ⟨_, ⟨chosen, pending, name, _, stepped⟩ | ⟨_, stepped⟩⟩
  · rw [stepped] at listed
    unfold place at listed
    rcases listed with left | placed
    · exact within index (.inl (List.mem_of_mem_erase left))
    · rcases List.mem_append.mp placed with before | last
      · exact within index (.inr before)
      · rw [List.mem_singleton.mp last]
        exact within chosen (.inl pending)
  · rw [stepped] at listed
    unfold refuse at listed
    rcases listed with left | placed
    · exact within index (.inl (List.mem_of_mem_erase left))
    · exact within index (.inr placed)
  · rw [stepped] at listed
    rcases listed with left | placed
    · cases left
    · exact within index (.inr placed)

structure Offers (manifests : Nat → ModuleManifest) (first : List String)
    (state : BatchOrder) : Prop where
  initial : ∀ name ∈ first, name ∈ state.available
  placed : ∀ index ∈ state.placed.order, ∀ name ∈ (manifests index).provided,
    name ∈ state.available

theorem Offers.step {first : List String} (offers : Offers manifests first state) :
    Offers manifests first (state.step manifests) := by
  rcases step_cases manifests state with ⟨chosen, pending, _, stepped⟩ |
    ⟨_, ⟨chosen, pending, name, _, stepped⟩ | ⟨_, stepped⟩⟩
  · rw [stepped]
    refine ⟨fun name given => List.mem_append_left _ (offers.initial name given), ?_⟩
    intro index placed name provides
    rcases List.mem_append.mp placed with before | last
    · exact List.mem_append_left _ (offers.placed index before name provides)
    · rw [List.mem_singleton.mp last] at provides
      exact List.mem_append_right _ provides
  · rw [stepped]
    exact ⟨offers.initial, offers.placed⟩
  · rw [stepped]
    exact ⟨offers.initial, offers.placed⟩

structure Retains (manifests : Nat → ModuleManifest) (first : List String)
    (others : List ModuleManifest) (state : BatchOrder) : Prop where
  offers : Offers manifests first state
  retained : ∀ manifest ∈ others, ∃ index, manifests index = manifest ∧
    (index ∈ state.pending ∨ index ∈ state.placed.order)

theorem Retains.placed {first : List String} {others : List ModuleManifest}
    (retains : Retains manifests first others state) (stalled : Stalled manifests state)
    (ordered : Ordered ModuleManifest.Names (Free first) ModuleManifest.needs others) :
    ∀ manifest ∈ others, ∃ index ∈ state.placed.order, manifests index = manifest := by
  by_contra some
  have left : ∃ manifest ∈ others,
      ¬ ∃ index ∈ state.placed.order, manifests index = manifest := by simpa using some
  obtain ⟨manifest, among, unplaced, found⟩ := ordered.exists_next left
  obtain ⟨index, rfl, pending | placed⟩ := retains.retained manifest among
  · have ready : state.ready manifests index = true := by
      unfold ready ModuleManifest.needed
      rw [List.all_eq_true]
      intro name needed
      obtain ⟨dependency, needs, rfl⟩ := List.mem_map.mp needed
      rw [List.contains_iff_mem]
      rcases found dependency needs with given | ⟨_, ⟨earlier, placed, rfl⟩, names⟩
      · exact retains.offers.initial _ given
      · exact retains.offers.placed earlier placed _ names
    rw [stalled index pending] at ready
    cases ready
  · exact unplaced ⟨index, placed, rfl⟩

theorem Retains.step {first : List String} {others : List ModuleManifest}
    (ordered : Ordered ModuleManifest.Names (Free first) ModuleManifest.needs others)
    (retains : Retains manifests first others state) :
    Retains manifests first others (state.step manifests) := by
  refine ⟨retains.offers.step, ?_⟩
  intro manifest among
  rcases step_cases manifests state with ⟨chosen, pending, _, stepped⟩ |
    ⟨stalled, ⟨chosen, pending, name, _, stepped⟩ | ⟨_, stepped⟩⟩
  · obtain ⟨index, same, held⟩ := retains.retained manifest among
    refine ⟨index, same, ?_⟩
    rw [stepped]
    by_cases here : index = chosen
    · exact .inr (List.mem_append_right _ (List.mem_singleton.mpr here))
    · rcases held with left | placed
      · exact .inl ((List.mem_erase_of_ne here).mpr left)
      · exact .inr (List.mem_append_left _ placed)
  · obtain ⟨index, placed, same⟩ := retains.placed stalled ordered manifest among
    refine ⟨index, same, .inr ?_⟩
    rw [stepped]
    exact placed
  · obtain ⟨index, placed, same⟩ := retains.placed stalled ordered manifest among
    refine ⟨index, same, .inr ?_⟩
    rw [stepped]
    exact placed

end BatchOrder

/-! ### What is resolved, by name -/

section Resolved

variable {batch shuffled : List ModuleManifest} {initiallyAvailable : List String}

/-- The loop as it starts on a batch. -/
def BatchOrder.start (batch : List ModuleManifest) (initiallyAvailable : List String) :
    BatchOrder :=
  ⟨(separate batch).1, initiallyAvailable, ⟨[], (separate batch).2⟩⟩

theorem resolve_eq (batch : List ModuleManifest) (initiallyAvailable : List String) :
    resolve batch initiallyAvailable =
      (BatchOrder.turns (manifestAt batch) (separate batch).1.length
        (.start batch initiallyAvailable)).placed := rfl

theorem resolve_keeps (batch : List ModuleManifest) (initiallyAvailable : List String)
    (Kept : BatchOrder → Prop) (start : Kept (.start batch initiallyAvailable))
    (step : ∀ state, Kept state → Kept (state.step (manifestAt batch))) :
    ∃ last, Kept last ∧ last.pending = [] ∧ last.placed = resolve batch initiallyAvailable :=
  ⟨_, BatchOrder.turns_keeps step _ start,
    BatchOrder.turns_settle _ _ _ (Nat.le_refl _), rfl⟩

theorem resolve_every (batch : List ModuleManifest) (initiallyAvailable : List String) :
    ((resolve batch initiallyAvailable).order ++
      (resolve batch initiallyAvailable).unresolved.map Prod.fst).Perm
        (List.range batch.length) := by
  obtain ⟨last, partitions, settled, placed⟩ := resolve_keeps batch
    initiallyAvailable (BatchOrder.Partitions batch.length) (separate_perm batch)
    (fun _ kept => kept.step)
  unfold BatchOrder.Partitions at partitions
  rw [settled, placed] at partitions
  exact partitions

theorem resolve_alone {index : Nat}
    (placed : index ∈ (resolve batch initiallyAvailable).order) :
    index < batch.length ∧ Alone batch (manifestAt batch index) := by
  obtain ⟨last, within, _, same⟩ := resolve_keeps batch initiallyAvailable
    (BatchOrder.Within (separate batch).1)
    (fun index listed => listed.resolve_right (fun placed => nomatch placed))
    (fun _ kept => kept.step)
  rw [← same] at placed
  exact mem_separate.mp (within index (.inr placed))

theorem ordered_alone {manifest : ModuleManifest}
    (placed : manifest ∈ ordered batch initiallyAvailable) : Alone batch manifest := by
  obtain ⟨index, listed, rfl⟩ := List.mem_map.mp placed
  exact (resolve_alone listed).2

theorem ordered_nodup (batch : List ModuleManifest) (initiallyAvailable : List String) :
    (ordered batch initiallyAvailable).Nodup := by
  have nodup := (resolve_every batch initiallyAvailable).nodup_iff.mpr List.nodup_range
  refine List.Nodup.map_on ?_ (List.nodup_append.mp nodup).1
  intro first placed second placedSecond same
  obtain ⟨within, alone⟩ := resolve_alone placed
  exact alone.once within (resolve_alone placedSecond).1 (.inl (by rw [same]))

theorem ordered_supported (batch : List ModuleManifest) (initiallyAvailable : List String) :
    Ordered ModuleManifest.Names (Free initiallyAvailable) ModuleManifest.needs
      (ordered batch initiallyAvailable) := by
  intro early manifest late split dependency needs
  obtain ⟨before, rest, placed, rfl, rested⟩ := List.map_eq_append_iff.mp split
  obtain ⟨index, after, rfl, rfl, _⟩ := List.map_eq_cons_iff.mp rested
  have needed : dependency.interface.interface.text ∈ (manifestAt batch index).needed :=
    List.mem_map.mpr ⟨dependency, needs, rfl⟩
  rcases resolve_ordered batch initiallyAvailable placed needed with
    given | ⟨earlier, among, provides⟩
  · exact .inl given
  · exact .inr ⟨manifestAt batch earlier, List.mem_map_of_mem among, provides⟩

theorem ordered_largest {others : List ModuleManifest}
    (alone : ∀ manifest ∈ others, Alone batch manifest)
    (possible : Ordered ModuleManifest.Names (Free initiallyAvailable) ModuleManifest.needs
      others) : ∀ manifest ∈ others, manifest ∈ ordered batch initiallyAvailable := by
  obtain ⟨last, retains, settled, placed⟩ := resolve_keeps batch
    initiallyAvailable (BatchOrder.Retains (manifestAt batch) initiallyAvailable others)
    ⟨⟨fun _ given => given, fun _ placed => nomatch placed⟩, by
      intro manifest among
      obtain ⟨index, within, same⟩ := List.getElem_of_mem (alone manifest among).1
      have here : manifestAt batch index = manifest := (manifestAt_eq within).trans same
      refine ⟨index, here, .inl (mem_separate.mpr ⟨within, ?_⟩)⟩
      rw [here]
      exact alone manifest among⟩
    (fun _ kept => kept.step possible)
  intro manifest among
  obtain ⟨index, same, pending | listed⟩ := retains.retained manifest among
  · rw [settled] at pending
    cases pending
  · rw [placed] at listed
    exact List.mem_map.mpr ⟨index, listed, same⟩

theorem Alone.of_perm {manifest : ModuleManifest} (same : batch.Perm shuffled)
    (alone : Alone batch manifest) : Alone shuffled manifest := by
  obtain ⟨among, name, busName⟩ := alone
  refine ⟨same.mem_iff.mp among, ?_, ?_⟩
  · rw [← (same.map _).count_eq]
    exact name
  · rw [← (same.map _).count_eq]
    exact busName

theorem ordered_perm (same : batch.Perm shuffled) (initiallyAvailable : List String) :
    (ordered shuffled initiallyAvailable).Perm (ordered batch initiallyAvailable) := by
  rw [List.perm_ext_iff_of_nodup (ordered_nodup _ _) (ordered_nodup _ _)]
  intro manifest
  constructor
  · exact ordered_largest (fun _ placed => (ordered_alone placed).of_perm same.symm)
      (ordered_supported shuffled initiallyAvailable) manifest
  · exact ordered_largest (fun _ placed => (ordered_alone placed).of_perm same)
      (ordered_supported batch initiallyAvailable) manifest

theorem resolve_apart {first second : Nat} (within : first < batch.length)
    (withinSecond : second < batch.length) (different : first ≠ second)
    (shared : (manifestAt batch first).module.name = (manifestAt batch second).module.name ∨
      (manifestAt batch first).busName = (manifestAt batch second).busName) :
    ∃ reason, (first, reason) ∈ (resolve batch initiallyAvailable).unresolved := by
  have listed := (resolve_every batch initiallyAvailable).mem_iff.mpr
    (List.mem_range.mpr within)
  rcases List.mem_append.mp listed with placed | left
  · exact absurd ((resolve_alone placed).2.once within withinSecond shared) different
  · obtain ⟨⟨index, reason⟩, among, rfl⟩ := List.mem_map.mp left
    exact ⟨reason, among⟩

theorem resolves_by_name (batch : List ModuleManifest) (initiallyAvailable : List String) :
    Resolves ModuleManifest.Names batch initiallyAvailable where
  every := resolve_every batch initiallyAvailable
  apart := fun _ _ within withinSecond different shared =>
    resolve_apart within withinSecond different shared
  supported := ordered_supported batch initiallyAvailable
  largest := fun _ alone possible => ordered_largest alone possible
  unordered := fun _ same => ordered_perm same initiallyAvailable

end Resolved

/-! ### Taking turns -/

/-- The module can be activated behind these, as far as the names of interfaces say. -/
def Due (initiallyAvailable : List String) (early : List ModuleManifest)
    (manifest : ModuleManifest) : Prop :=
  ∀ dependency ∈ manifest.needs,
    Free initiallyAvailable dependency ∨ ∃ earlier ∈ early, earlier.Names dependency

/-- Each module is the first of the batch that can be activated behind those before it. -/
def InTurn (batch : List ModuleManifest) (initiallyAvailable : List String)
    (others : List ModuleManifest) : Prop :=
  ∀ early manifest late, others = early ++ manifest :: late →
    ∃ before after, batch = before ++ manifest :: after ∧ manifest ∉ early ∧
      ∀ other ∈ before, Alone batch other → other ∉ early → ¬ Due initiallyAvailable early other

/-- The loop has placed these, and none of the others has been given up. -/
structure PlacesInTurn (batch : List ModuleManifest) (initiallyAvailable : List String)
    (early : List ModuleManifest) (state : BatchOrder) : Prop where
  resolved : (BatchOrder.turns (manifestAt batch) state.pending.length state).placed =
    resolve batch initiallyAvailable
  placed : state.placed.order.map (manifestAt batch) = early
  within : ∀ index ∈ state.placed.order, index ∈ (separate batch).1
  available : ∀ name, name ∈ state.available ↔
    name ∈ initiallyAvailable ∨ ∃ earlier ∈ early, name ∈ earlier.provided
  pending : ∀ index, index ∈ state.pending ↔
    index ∈ (separate batch).1 ∧ index ∉ state.placed.order
  sorted : state.pending.Pairwise (· < ·)

section Turns

variable {batch shuffled early others : List ModuleManifest} {initiallyAvailable : List String}
  {state : BatchOrder} {manifest : ModuleManifest}

theorem PlacesInTurn.start (batch : List ModuleManifest) (initiallyAvailable : List String) :
    PlacesInTurn batch initiallyAvailable [] (.start batch initiallyAvailable) where
  resolved := (resolve_eq batch initiallyAvailable).symm
  placed := rfl
  within := fun _ placed => nomatch placed
  available := fun name => ⟨.inl, fun either => either.resolve_right (by simp)⟩
  pending := fun index => ⟨fun left => ⟨left, List.not_mem_nil⟩, fun left => left.1⟩
  sorted := by
    have indices : (batch.zipIdx.map Prod.snd).Pairwise (· < ·) := by
      rw [List.zipIdx_map_snd]
      exact List.pairwise_lt_range'
    exact indices.sublist (List.filter_sublist.map Prod.snd)

theorem PlacesInTurn.ready (follows : PlacesInTurn batch initiallyAvailable early state)
    (index : Nat) : state.ready (manifestAt batch) index = true ↔
      Due initiallyAvailable early (manifestAt batch index) := by
  unfold BatchOrder.ready ModuleManifest.needed Due
  rw [List.all_eq_true]
  constructor
  · intro ready dependency needs
    have listed := ready _ (List.mem_map_of_mem needs)
    exact (follows.available _).mp (List.contains_iff_mem.mp listed)
  · intro due name needed
    obtain ⟨dependency, needs, rfl⟩ := List.mem_map.mp needed
    exact List.contains_iff_mem.mpr ((follows.available _).mpr (due dependency needs))

theorem BatchOrder.turns_place {manifests : Nat → ModuleManifest} {index : Nat}
    (found : state.pending.find? (state.ready manifests) = some index) :
    turns manifests state.pending.length state =
      turns manifests (state.place manifests index).pending.length
        (state.place manifests index) := by
  have among := List.mem_of_find?_eq_some found
  have stepped : state.step manifests = state.place manifests index := by
    unfold step
    rw [found]
  have shorter : state.pending.length = (state.place manifests index).pending.length + 1 := by
    unfold place
    dsimp only
    rw [List.length_erase_of_mem among]
    have positive := List.length_pos_of_mem among
    omega
  rw [shorter, ← stepped]
  rfl

theorem PlacesInTurn.place (follows : PlacesInTurn batch initiallyAvailable early state)
    {index : Nat} (found : state.pending.find? (state.ready (manifestAt batch)) = some index) :
    PlacesInTurn batch initiallyAvailable (early ++ [manifestAt batch index])
      (state.place (manifestAt batch) index) := by
  have among := (follows.pending index).mp (List.mem_of_find?_eq_some found)
  refine ⟨?_, ?_, ?_, ?_, ?_, ?_⟩
  · rw [← BatchOrder.turns_place found]
    exact follows.resolved
  · change (state.placed.order ++ [index]).map (manifestAt batch) = _
    rw [List.map_append, follows.placed]
    rfl
  · intro other placed
    rcases List.mem_append.mp placed with earlier | last
    · exact follows.within other earlier
    · rw [List.mem_singleton.mp last]
      exact among.1
  · intro name
    change name ∈ state.available ++ (manifestAt batch index).provided ↔ _
    rw [List.mem_append, follows.available, or_assoc]
    refine or_congr_right ⟨?_, ?_⟩
    · rintro (⟨earlier, placed, provides⟩ | provides)
      · exact ⟨earlier, List.mem_append_left _ placed, provides⟩
      · exact ⟨_, List.mem_append_right _ List.mem_cons_self, provides⟩
    · rintro ⟨earlier, placed, provides⟩
      rcases List.mem_append.mp placed with before | last
      · exact .inl ⟨earlier, before, provides⟩
      · rw [List.mem_singleton.mp last] at provides
        exact .inr provides
  · intro other
    change other ∈ state.pending.erase index ↔ _ ∧ other ∉ state.placed.order ++ [index]
    have distinct : state.pending.Nodup := follows.sorted.imp Nat.ne_of_lt
    rw [distinct.mem_erase_iff, follows.pending, List.mem_append, List.mem_singleton]
    tauto
  · exact follows.sorted.sublist List.erase_sublist

theorem PlacesInTurn.next (follows : PlacesInTurn batch initiallyAvailable early state)
    {before after : List ModuleManifest} (split : batch = before ++ manifest :: after)
    (alone : Alone batch manifest) (fresh : manifest ∉ early)
    (due : Due initiallyAvailable early manifest)
    (first : ∀ other ∈ before, Alone batch other → other ∉ early →
      ¬ Due initiallyAvailable early other) :
    ∃ next, PlacesInTurn batch initiallyAvailable (early ++ [manifest]) next := by
  have within : before.length < batch.length := by
    rw [split, List.length_append, List.length_cons]
    omega
  have here : manifestAt batch before.length = manifest := by
    rw [manifestAt_eq within]
    simp [split]
  have member : before.length ∈ (separate batch).1 :=
    mem_separate.mpr ⟨within, by rwa [here]⟩
  have waiting : before.length ∈ state.pending := by
    refine (follows.pending _).mpr ⟨member, fun placed => fresh ?_⟩
    rw [← follows.placed, ← here]
    exact List.mem_map_of_mem placed
  have found : state.pending.find? (state.ready (manifestAt batch)) = some before.length := by
    obtain ⟨ahead, behind, parts⟩ := List.append_of_mem waiting
    refine List.find?_eq_some_iff_append.mpr ⟨(follows.ready _).mpr (here ▸ due), ahead, behind,
      parts, ?_⟩
    intro index among
    have sorted := follows.sorted
    rw [parts] at sorted
    have smaller := (List.pairwise_append.mp sorted).2.2 index among _ List.mem_cons_self
    have left := (follows.pending index).mp (by rw [parts]; exact List.mem_append_left _ among)
    obtain ⟨place, aloneOther⟩ := mem_separate.mp left.1
    rw [Bool.not_eq_true', ← Bool.not_eq_true, follows.ready]
    refine first _ ?_ aloneOther ?_
    · rw [manifestAt_eq place]
      simp [split, List.getElem_append_left smaller]
    · rw [← follows.placed]
      intro placed
      obtain ⟨twin, listed, same⟩ := List.mem_map.mp placed
      have twinPlace := (mem_separate.mp (follows.within twin listed)).1
      have equal := aloneOther.once place twinPlace (.inl (by rw [same]))
      exact left.2 (equal ▸ listed)
  rw [← here]
  exact ⟨_, follows.place found⟩

theorem InTurn.of_append {late : List ModuleManifest}
    (turns : InTurn batch initiallyAvailable (others ++ late)) :
    InTurn batch initiallyAvailable others := by
  intro early manifest rest split
  exact turns early manifest (rest ++ late) (by rw [split, List.append_assoc]; rfl)

theorem InTurn.places (turns : InTurn batch initiallyAvailable others)
    (alone : ∀ manifest ∈ others, Alone batch manifest)
    (possible : Ordered ModuleManifest.Names (Free initiallyAvailable) ModuleManifest.needs
      others) : ∃ state, PlacesInTurn batch initiallyAvailable others state := by
  induction others using List.reverseRecOn with
  | nil => exact ⟨_, .start batch initiallyAvailable⟩
  | append_singleton early last ih =>
      obtain ⟨state, follows⟩ := ih turns.of_append
        (fun manifest among => alone manifest (List.mem_append_left _ among)) possible.of_append
      obtain ⟨before, after, split, fresh, first⟩ := turns early last [] rfl
      exact follows.next split (alone last (by simp)) fresh (possible early last [] rfl) first

theorem BatchOrder.turns_order {manifests : Nat → ModuleManifest} (state : BatchOrder)
    (more : Nat) : state.placed.order <+: (turns manifests more state).placed.order := by
  have step : ∀ later : BatchOrder, state.placed.order <+: later.placed.order →
      state.placed.order <+: (later.step manifests).placed.order := ?_
  · exact turns_keeps step more (List.prefix_refl _)
  intro later kept
  rcases step_cases manifests later with ⟨_, _, _, stepped⟩ |
    ⟨_, ⟨_, _, _, _, stepped⟩ | ⟨_, stepped⟩⟩
  · rw [stepped]
    exact kept.trans (List.prefix_append _ _)
  · rw [stepped]
    exact kept
  · rw [stepped]
    exact kept

theorem InTurn.prefix (turns : InTurn batch initiallyAvailable others)
    (alone : ∀ manifest ∈ others, Alone batch manifest)
    (possible : Ordered ModuleManifest.Names (Free initiallyAvailable) ModuleManifest.needs
      others) : others <+: ordered batch initiallyAvailable := by
  obtain ⟨state, follows⟩ := turns.places alone possible
  unfold ordered
  rw [← follows.resolved, ← follows.placed]
  exact (BatchOrder.turns_order state _).map _

theorem ordered_inTurn (prior : others <+: ordered batch initiallyAvailable) :
    InTurn batch initiallyAvailable others := by
  induction others using List.reverseRecOn with
  | nil =>
      intro early manifest late split
      simp at split
  | append_singleton earlier last ih =>
      obtain ⟨rest, whole⟩ := prior
      have turns := ih ⟨last :: rest, by rw [← whole, List.append_assoc]; rfl⟩
      have alone : ∀ manifest ∈ earlier ++ [last], Alone batch manifest := by
        intro manifest among
        have placed : manifest ∈ ordered batch initiallyAvailable := by
          rw [← whole]
          exact List.mem_append_left _ among
        exact ordered_alone placed
      have possible : Ordered ModuleManifest.Names (Free initiallyAvailable)
          ModuleManifest.needs (earlier ++ [last]) := by
        have every := ordered_supported batch initiallyAvailable
        rw [← whole] at every
        exact every.of_append
      have nodup : (earlier ++ [last]).Nodup := by
        have every := ordered_nodup batch initiallyAvailable
        rw [← whole] at every
        exact (List.nodup_append.mp every).1
      have fresh : last ∉ earlier := fun among =>
        (List.nodup_append.mp nodup).2.2 last among last List.mem_cons_self rfl
      -- The first that is due behind the earlier ones is placed there, so it is the last.
      have some : ∃ manifest ∈ batch, Alone batch manifest ∧ manifest ∉ earlier ∧
          Due initiallyAvailable earlier manifest :=
        ⟨last, (alone last (by simp)).1, alone last (by simp), fresh,
          possible earlier last [] rfl⟩
      obtain ⟨before, first, after, split, ⟨aloneFirst, freshFirst, due⟩, others⟩ :=
        exists_first some
      have turn : InTurn batch initiallyAvailable (earlier ++ [first]) := by
        intro early manifest late parts
        rcases snoc_split parts with ⟨rfl, rfl⟩ | ⟨rest, parts⟩
        · exact ⟨before, after, split, freshFirst, fun other among aloneOther freshOther dueOther =>
            others other among ⟨aloneOther, freshOther, dueOther⟩⟩
        · exact turns early manifest rest parts
      have placed := turn.prefix (by
        intro manifest among
        rcases List.mem_append.mp among with old | new
        · exact alone manifest (List.mem_append_left _ old)
        · rw [List.mem_singleton.mp new]
          exact aloneFirst) (possible.of_append.snoc due)
      have same : earlier ++ [first] = earlier ++ [last] :=
        (List.prefix_of_prefix_length_le placed ⟨rest, whole⟩ (by simp)).eq_of_length (by simp)
      rwa [← same]

end Turns

/-! ### Versions -/

/-- The module can be activated behind these by the names of interfaces, and one of its
needs is not there from the start and met by none of them at a version both sides accept. -/
def Misled (batch : List ModuleManifest) (initiallyAvailable : List String)
    (early : List ModuleManifest) (consumer : ModuleManifest) : Prop :=
  (∀ manifest ∈ early ++ [consumer], Alone batch manifest) ∧
    Ordered ModuleManifest.Names (Free initiallyAvailable) ModuleManifest.needs
      (early ++ [consumer]) ∧
    ∃ dependency ∈ consumer.needs, ¬ Free initiallyAvailable dependency ∧
      ∀ manifest ∈ early, ¬ manifest.Serves dependency

section Versions

variable {batch shuffled early : List ModuleManifest} {initiallyAvailable : List String}
  {consumer : ModuleManifest}

theorem Misled.of_perm (same : batch.Perm shuffled)
    (misled : Misled batch initiallyAvailable early consumer) :
    Misled shuffled initiallyAvailable early consumer :=
  ⟨fun manifest among => (misled.1 manifest among).of_perm same, misled.2⟩

theorem resolves_at_version_iff (batch : List ModuleManifest)
    (initiallyAvailable : List String) :
    Resolves ModuleManifest.Serves batch initiallyAvailable ↔
      ∀ early consumer, Misled batch initiallyAvailable early consumer →
        ¬ InTurn batch initiallyAvailable (early ++ [consumer]) := by
  constructor
  · rintro resolves early consumer ⟨alone, possible, dependency, needs, missing, none⟩ turns
    obtain ⟨late, whole⟩ := turns.prefix alone possible
    rw [List.append_assoc] at whole
    rcases resolves.supported early consumer late whole.symm dependency needs with
      given | ⟨earlier, among, serves⟩
    · exact missing given
    · exact none earlier among serves
  · intro agree
    refine
      { every := resolve_every batch initiallyAvailable
        apart := fun _ _ within withinSecond different shared =>
          resolve_apart within withinSecond different shared
        supported := ?_
        largest := fun _ alone possible =>
          ordered_largest alone (possible.mono (fun _ _ serves => serves.names))
        unordered := fun _ same => ordered_perm same initiallyAvailable }
    intro early consumer late split dependency needs
    by_contra unmet
    rw [not_or, not_exists] at unmet
    have whole : ordered batch initiallyAvailable = (early ++ [consumer]) ++ late := by
      rw [split, List.append_assoc]
      rfl
    refine agree early consumer ⟨?_, ?_, dependency, needs, unmet.1, ?_⟩
      (ordered_inTurn ⟨late, whole.symm⟩)
    · intro manifest among
      have placed : manifest ∈ ordered batch initiallyAvailable := by
        rw [whole]
        exact List.mem_append_left _ among
      exact ordered_alone placed
    · have every := ordered_supported batch initiallyAvailable
      rw [whole] at every
      exact every.of_append
    · exact fun manifest among serves => unmet.2 manifest ⟨among, serves⟩

/-- A list that can be activated, without what is repeated, can come first in the input. -/
theorem Misled.inTurn (misled : Misled batch initiallyAvailable early consumer) :
    ∃ shuffled first, batch.Perm shuffled ∧ Misled shuffled initiallyAvailable first consumer ∧
      InTurn shuffled initiallyAvailable (first ++ [consumer]) := by
  obtain ⟨alone, possible, dependency, needs, missing, none⟩ := misled
  obtain ⟨distinct, nodup, same, ordered⟩ := possible.exists_nodup
  obtain ⟨first, rest, split⟩ := List.append_of_mem ((same consumer).mpr (by simp))
  have whole : distinct = (first ++ [consumer]) ++ rest := by
    rw [split, List.append_assoc]
    rfl
  rw [whole] at nodup ordered
  have among : ∀ manifest ∈ first ++ [consumer], manifest ∈ early ++ [consumer] := by
    intro manifest listed
    rw [← same, whole]
    exact List.mem_append_left _ listed
  have nodup := (List.nodup_append.mp nodup).1
  obtain ⟨part, samePart, sublist⟩ := List.subperm_of_subset nodup fun manifest listed =>
    (alone manifest (among manifest listed)).1
  obtain ⟨others, together⟩ := sublist.exists_perm_append
  have perm := together.trans (samePart.append_right others)
  refine ⟨first ++ [consumer] ++ others, first, perm, Misled.of_perm perm ⟨?_, ?_, ?_⟩, ?_⟩
  · exact fun manifest listed => alone manifest (among manifest listed)
  · exact ordered.of_append
  · refine ⟨dependency, needs, missing, fun manifest listed => none manifest ?_⟩
    have either := among manifest (List.mem_append_left _ listed)
    refine (List.mem_append.mp either).resolve_right fun last => ?_
    exact (List.nodup_append.mp nodup).2.2 manifest listed consumer List.mem_cons_self
      (List.mem_singleton.mp last)
  · intro before manifest after parts
    refine ⟨before, after ++ others, ?_, ?_, fun other listed _ fresh _ => fresh listed⟩
    · rw [parts, List.append_assoc]
      rfl
    · rw [parts] at nodup
      intro twice
      exact (List.nodup_append.mp nodup).2.2 manifest twice manifest List.mem_cons_self rfl

theorem resolves_in_any_order_iff (batch : List ModuleManifest)
    (initiallyAvailable : List String) :
    (∀ shuffled, batch.Perm shuffled →
        Resolves ModuleManifest.Serves shuffled initiallyAvailable) ↔
      ∀ early consumer, ¬ Misled batch initiallyAvailable early consumer := by
  constructor
  · intro resolves early consumer misled
    obtain ⟨shuffled, first, same, misled, turns⟩ := misled.inTurn
    exact (resolves_at_version_iff shuffled initiallyAvailable).mp (resolves shuffled same)
      first consumer misled turns
  · intro agree shuffled same
    rw [resolves_at_version_iff]
    exact fun early consumer misled _ => agree early consumer (misled.of_perm same.symm)

/-- A batch is resolved as expected by the names of its interfaces, whatever their versions.
At compatible versions a set of modules is so in every order of the input exactly if none of
them can be activated behind modules that leave it without a version that it accepts; and in
one order exactly if none is when each of these is the first that can be activated. -/
theorem load_orders_resolve (batch : List ModuleManifest) (initiallyAvailable : List String) :
    Resolves ModuleManifest.Names batch initiallyAvailable ∧
    ((∀ shuffled, batch.Perm shuffled →
        Resolves ModuleManifest.Serves shuffled initiallyAvailable) ↔
      ∀ early consumer, ¬ Misled batch initiallyAvailable early consumer) ∧
    (Resolves ModuleManifest.Serves batch initiallyAvailable ↔
      ∀ early consumer, Misled batch initiallyAvailable early consumer →
        ¬ InTurn batch initiallyAvailable (early ++ [consumer])) :=
  ⟨resolves_by_name batch initiallyAvailable,
    resolves_in_any_order_iff batch initiallyAvailable,
    resolves_at_version_iff batch initiallyAvailable⟩

/-- A module that wants the second version of what the speech module provides. -/
def newerChat : ModuleManifest :=
  { Loader.chatManifest with
    requires := [⟨⟨Loader.speech.interface, ⟨2, 0, 0, none⟩, Version.caret ⟨2, 0, 0, none⟩⟩,
      false, ""⟩] }

/-- With the interface there from the start, nothing is left to its version. -/
theorem newerChat_resolves :
    Resolves ModuleManifest.Names [newerChat, Loader.speechManifest] [] ∧
      Resolves ModuleManifest.Serves [newerChat, Loader.speechManifest]
        [Loader.speech.interface.text] := by
  refine ⟨(load_orders_resolve _ _).1, (load_orders_resolve _ _).2.2.mpr ?_⟩
  rintro early consumer ⟨alone, _, dependency, needs, missing, _⟩
  have among := (alone consumer (by simp)).1
  simp only [List.mem_cons, List.not_mem_nil, or_false] at among
  rcases among with rfl | rfl
  · exact absurd (by rw [List.mem_singleton.mp needs]; exact List.mem_cons_self) missing
  · cases needs

/-- With nothing there it is ordered behind the first version all the same. -/
theorem newerChat_unsupported :
    ¬ ∀ batch initiallyAvailable,
      Resolves ModuleManifest.Serves batch initiallyAvailable := by
  intro resolves
  have order : ordered [newerChat, Loader.speechManifest] [] =
      [Loader.speechManifest] ++ newerChat :: [] := by decide +kernel
  rcases (resolves [newerChat, Loader.speechManifest] []).supported _ _ _ order _
    List.mem_cons_self with given | ⟨earlier, among, offered, listed, _, compatible⟩
  · cases given
  · rw [List.mem_singleton.mp among] at listed
    rw [List.mem_singleton.mp listed] at compatible
    exact absurd compatible (by decide)

end Versions

end TinyBus
