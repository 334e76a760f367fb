/-
Why a batch leaves a manifest out.  A manifest is refused for a missing provider only
after everyone who could provide was refused for the same kind of reason; what is left at
the end waits for one another, and in a finite batch that ends in a circle.
-/

import TinyBus.LoadOrders

namespace TinyBus

open Activation BatchOrder Relation

section Reasons

variable (meets : ModuleManifest → Dependency → Prop) (batch : List ModuleManifest)
  (initiallyAvailable : List String)

def Unmet (order : List Nat) (index : Nat) (dependency : Dependency) : Prop :=
  dependency ∈ (manifestAt batch index).needs ∧ ¬ Free initiallyAvailable dependency ∧
    ∀ placed ∈ order, ¬ meets (manifestAt batch placed) dependency

/-- One manifest has an unmet need that another one meets, which is left out for a cycle. -/
def WaitsFor (result : LoadOrder) (index next : Nat) : Prop :=
  (next, cycleDetected) ∈ result.unresolved ∧
    ∃ dependency, Unmet meets batch initiallyAvailable result.order index dependency ∧
      meets (manifestAt batch next) dependency

/-- What is true of a manifest that is left out, after those that were left out before it,
for each of the reasons that are given. -/
inductive Justified (result : LoadOrder) (before : List (Nat × String)) (index : Nat) :
    String → Prop
  | moduleName {other : Nat} (within : other < batch.length) (different : other ≠ index)
      (same : (manifestAt batch other).module.name = (manifestAt batch index).module.name) :
      Justified result before index "two artifacts declare the same module name"
  | busName {other : Nat} (within : other < batch.length) (different : other ≠ index)
      (same : (manifestAt batch other).busName = (manifestAt batch index).busName) :
      Justified result before index "two modules claim the same bus name"
  | missing {dependency : Dependency} (needs : dependency ∈ (manifestAt batch index).needs)
      (absent : ¬ Free initiallyAvailable dependency)
      (providers : ∀ provider < batch.length, Alone batch (manifestAt batch provider) →
        meets (manifestAt batch provider) dependency →
        ∃ other, (provider, noProvider other) ∈ before) :
      Justified result before index (noProvider dependency.interface.interface.text)
  | cycle
      (some : ∃ dependency, Unmet meets batch initiallyAvailable result.order index dependency)
      (leads : ∀ dependency, Unmet meets batch initiallyAvailable result.order index dependency →
        ∃ provider, (provider, cycleDetected) ∈ result.unresolved ∧
          meets (manifestAt batch provider) dependency ∧
          ∃ turn,
            ReflTransGen (WaitsFor meets batch initiallyAvailable result) provider turn ∧
            TransGen (WaitsFor meets batch initiallyAvailable result) turn turn) :
      Justified result before index cycleDetected

/-- Every reason that is given is true. -/
def TrueReasons : Prop :=
  ∀ early index reason late,
    (resolve batch initiallyAvailable).unresolved = early ++ (index, reason) :: late →
    Justified meets batch initiallyAvailable (resolve batch initiallyAvailable) early index reason

end Reasons

variable {meets : ModuleManifest → Dependency → Prop} {batch : List ModuleManifest}
  {initiallyAvailable : List String}

/-! ### Shared names -/

theorem exists_other {values : List String} {index : Nat} (within : index < values.length)
    (several : 1 < values.count values[index]) :
    ∃ other, ∃ bound : other < values.length, other ≠ index ∧
      values[other] = values[index] := by
  obtain ⟨first, second, earlier, same, sameSecond⟩ :=
    List.duplicate_iff_exists_distinct_get.mp (List.duplicate_iff_two_le_count.mpr several)
  by_cases here : first.1 = index
  · refine ⟨second.1, second.2, ?_, sameSecond.symm⟩
    have apart : first.1 < second.1 := earlier
    omega
  · exact ⟨first.1, first.2, here, same.symm⟩

variable {before : List (Nat × String)}

theorem justified_of_clash {result : LoadOrder} {index : Nat} {reason : String}
    (listed : (index, reason) ∈ (separate batch).2) :
    Justified meets batch initiallyAvailable result before index reason := by
  unfold separate at listed
  dsimp only at listed
  obtain ⟨⟨manifest, position⟩, among, found⟩ := List.mem_filterMap.mp listed
  obtain ⟨given, clashes, same⟩ := Option.map_eq_some_iff.mp found
  obtain ⟨rfl, rfl⟩ := Prod.mk.inj same
  obtain ⟨within, here⟩ := List.getElem?_eq_some_iff.mp (List.mem_zipIdx_iff_getElem?.mp among)
  dsimp only at clashes within here
  have shared : ∀ property : ModuleManifest → String,
      property manifest ∈ duplicates (batch.map property) →
      ∃ other, other < batch.length ∧ other ≠ position ∧
        property (manifestAt batch other) = property (manifestAt batch position) := by
    intro property duplicated
    have place : position < (batch.map property).length := by rwa [List.length_map]
    have value : (batch.map property)[position] = property manifest := by
      rw [List.getElem_map, here]
    rw [mem_duplicates, ← value] at duplicated
    obtain ⟨other, bound, different, equal⟩ := exists_other place duplicated
    have inside : other < batch.length := by rwa [List.length_map] at bound
    refine ⟨other, inside, different, ?_⟩
    rw [List.getElem_map, List.getElem_map] at equal
    rw [manifestAt_eq inside, manifestAt_eq within]
    exact equal
  unfold clash at clashes
  dsimp only at clashes
  split at clashes
  · rename_i duplicated
    cases clashes
    obtain ⟨other, inside, different, equal⟩ :=
      shared (fun other => other.module.name) (List.contains_iff_mem.mp duplicated)
    exact .moduleName inside different equal
  · split at clashes
    · rename_i duplicated
      cases clashes
      obtain ⟨other, inside, different, equal⟩ :=
        shared (fun other => other.busName.text) (List.contains_iff_mem.mp duplicated)
      exact .busName inside different (BusName.ext equal)
    · cases clashes

/-! ### The loop -/

theorem noProvider_ne {text : String} (other : text.toList.head? ≠ some 'r') (name : String) :
    noProvider name ≠ text := by
  rintro rfl
  unfold noProvider at other
  simp only [String.toList_append] at other
  exact other (by simp)

theorem clash_other {manifest : ModuleManifest} {reason : String}
    (clashes : clash batch manifest = some reason) :
    reason ≠ cycleDetected ∧ ∀ name, noProvider name ≠ reason := by
  unfold clash at clashes
  dsimp only at clashes
  split at clashes
  · cases clashes
    exact ⟨by decide, noProvider_ne (by decide)⟩
  · split at clashes
    · cases clashes
      exact ⟨by decide, noProvider_ne (by decide)⟩
    · cases clashes

theorem Alone.exists_place {manifest : ModuleManifest} (alone : Alone batch manifest) :
    ∃ index, index < batch.length ∧ manifestAt batch index = manifest := by
  obtain ⟨index, within, same⟩ := List.getElem_of_mem alone.1
  exact ⟨index, within, (manifestAt_eq within).trans same⟩

theorem Justified.at_end {result last : LoadOrder} {index : Nat} {reason : String}
    (other : reason ≠ cycleDetected)
    (justified : Justified meets batch initiallyAvailable result before index reason) :
    Justified meets batch initiallyAvailable last before index reason := by
  cases justified with
  | moduleName within different same => exact .moduleName within different same
  | busName within different same => exact .busName within different same
  | missing needs absent providers => exact .missing needs absent providers
  | cycle => exact absurd rfl other

theorem Justified.of_cycle {result : LoadOrder} {index : Nat}
    (justified : Justified meets batch initiallyAvailable result before index cycleDetected) :
    (∃ dependency, Unmet meets batch initiallyAvailable result.order index dependency) ∧
    ∀ dependency, Unmet meets batch initiallyAvailable result.order index dependency →
      ∃ provider, (provider, cycleDetected) ∈ result.unresolved ∧
        meets (manifestAt batch provider) dependency := by
  generalize given : cycleDetected = reason at justified
  cases justified with
  | moduleName => exact absurd given (by decide)
  | busName => exact absurd given (by decide)
  | missing => exact absurd given.symm (noProvider_ne (by decide) _)
  | cycle some leads =>
      refine ⟨some, ?_⟩
      intro dependency unmet
      obtain ⟨provider, listed, met, _⟩ := leads dependency unmet
      exact ⟨provider, listed, met⟩

/-- Every reason that was given is true by the names, and whoever shares no name is pending,
ordered, or was refused for a missing provider, until the rest is left out at once. -/
structure Truthful (batch : List ModuleManifest) (initiallyAvailable : List String)
    (state : BatchOrder) : Prop where
  offers : Offers (manifestAt batch) initiallyAvailable state
  grounded : Grounded (manifestAt batch) initiallyAvailable state
  within : Within (separate batch).1 state
  left : ∀ index reason, (index, reason) ∈ state.placed.unresolved →
    (index, reason) ∈ (separate batch).2 ∨ index ∈ (separate batch).1
  running : state.pending ≠ [] → ∀ index, (index, cycleDetected) ∉ state.placed.unresolved
  accounted : state.pending ≠ [] → ∀ index ∈ (separate batch).1,
    index ∈ state.pending ∨ index ∈ state.placed.order ∨
      ∃ name, (index, noProvider name) ∈ state.placed.unresolved
  reasons : ∀ early index reason late,
    state.placed.unresolved = early ++ (index, reason) :: late →
      Justified ModuleManifest.Names batch initiallyAvailable state.placed early index reason

theorem Truthful.start (batch : List ModuleManifest) (initiallyAvailable : List String) :
    Truthful batch initiallyAvailable (.start batch initiallyAvailable) where
  offers := ⟨fun _ given => given, fun _ placed => nomatch placed⟩
  grounded := by
    refine ⟨fun name listed => .inl listed, ?_⟩
    intro early index late split
    exact absurd split.symm (by simp [BatchOrder.start])
  within := fun index listed => listed.resolve_right (fun placed => nomatch placed)
  left := fun _ _ listed => .inl listed
  running := by
    intro _ index listed
    obtain ⟨entry, _, found⟩ := List.mem_filterMap.mp listed
    obtain ⟨reason, clashes, same⟩ := Option.map_eq_some_iff.mp found
    exact (clash_other clashes).1 (Prod.mk.inj same).2
  accounted := fun _ index among => .inl among
  reasons := by
    intro early index reason late split
    have same : (BatchOrder.start batch initiallyAvailable).placed.unresolved =
        (separate batch).2 := rfl
    have listed : (index, reason) ∈ (separate batch).2 := by
      rw [← same, split]
      simp
    exact justified_of_clash listed

theorem missing_spec {state : BatchOrder} {index : Nat} {name : String}
    (missing : state.missing (manifestAt batch) index = some name) :
    ∃ dependency ∈ (manifestAt batch index).needs,
      dependency.interface.interface.text = name ∧ name ∉ state.available ∧
        ∀ provider ∈ state.pending, name ∉ (manifestAt batch provider).provided := by
  unfold BatchOrder.missing at missing
  have listed : name ∈ (manifestAt batch index).needed := List.mem_of_find?_eq_some missing
  obtain ⟨dependency, needs, same⟩ := List.mem_map.mp listed
  have absent := List.find?_some missing
  rw [Bool.and_eq_true, Bool.not_eq_true', Bool.not_eq_true'] at absent
  refine ⟨dependency, needs, same, ?_, ?_⟩
  · intro available
    rw [List.contains_iff_mem.mpr available] at absent
    exact absurd absent.1 (by decide)
  · intro provider pending provides
    have declared : name ∈ state.declared (manifestAt batch) :=
      List.mem_flatMap.mpr ⟨provider, pending, provides⟩
    rw [List.contains_iff_mem.mpr declared] at absent
    exact absurd absent.2 (by decide)

section Turn

variable {state : BatchOrder}

theorem Truthful.refused (truthful : Truthful batch initiallyAvailable state) {index : Nat}
    (pending : index ∈ state.pending) {name : String}
    (missing : state.missing (manifestAt batch) index = some name) (result : LoadOrder) :
    Justified ModuleManifest.Names batch initiallyAvailable result state.placed.unresolved
      index (noProvider name) := by
  obtain ⟨dependency, needs, rfl, absent, undeclared⟩ := missing_spec missing
  refine .missing needs (fun free => absent (truthful.offers.initial _ free)) ?_
  intro provider within alone names
  rcases truthful.accounted (List.ne_nil_of_mem pending) provider
    (mem_separate.mpr ⟨within, alone⟩) with waiting | placed | refused
  · exact absurd names (undeclared provider waiting)
  · exact absurd (truthful.offers.placed provider placed _ names) absent
  · exact refused

theorem Truthful.unmet_iff (truthful : Truthful batch initiallyAvailable state) {index : Nat}
    {dependency : Dependency} :
    Unmet ModuleManifest.Names batch initiallyAvailable state.placed.order index dependency ↔
      dependency ∈ (manifestAt batch index).needs ∧
        dependency.interface.interface.text ∉ state.available := by
  constructor
  · rintro ⟨needs, absent, nobody⟩
    refine ⟨needs, ?_⟩
    intro available
    rcases truthful.grounded.available _ available with given | ⟨placed, among, provides⟩
    · exact absent given
    · exact nobody placed among provides
  · rintro ⟨needs, unavailable⟩
    exact ⟨needs, fun free => unavailable (truthful.offers.initial _ free),
      fun placed among names => unavailable (truthful.offers.placed placed among _ names)⟩

theorem Truthful.circular (truthful : Truthful batch initiallyAvailable state)
    (stalled : Stalled (manifestAt batch) state)
    (complete : ∀ index ∈ state.pending, state.missing (manifestAt batch) index = none)
    {result : LoadOrder} (order : result.order = state.placed.order)
    (left : ∀ index ∈ state.pending, (index, cycleDetected) ∈ result.unresolved)
    {index : Nat} (pending : index ∈ state.pending) (before : List (Nat × String)) :
    Justified ModuleManifest.Names batch initiallyAvailable result before index
      cycleDetected := by
  have some : ∀ waiting ∈ state.pending, ∃ dependency,
      Unmet ModuleManifest.Names batch initiallyAvailable result.order waiting dependency := by
    intro waiting among
    have unready := stalled waiting among
    unfold BatchOrder.ready at unready
    obtain ⟨name, needed, absent⟩ := List.all_eq_false.mp unready
    obtain ⟨dependency, needs, rfl⟩ := List.mem_map.mp needed
    refine ⟨dependency, ?_⟩
    rw [order]
    exact truthful.unmet_iff.mpr
      ⟨needs, fun available => absent (List.contains_iff_mem.mpr available)⟩
  have provider : ∀ waiting ∈ state.pending, ∀ dependency,
      Unmet ModuleManifest.Names batch initiallyAvailable result.order waiting dependency →
      ∃ next ∈ state.pending, (manifestAt batch next).Names dependency := by
    intro waiting among dependency unmet
    rw [order] at unmet
    obtain ⟨needs, unavailable⟩ := truthful.unmet_iff.mp unmet
    have found := List.find?_eq_none.mp (complete waiting among)
      dependency.interface.interface.text (List.mem_map.mpr ⟨dependency, needs, rfl⟩)
    have declared : dependency.interface.interface.text ∈
        state.declared (manifestAt batch) := by
      by_contra undeclared
      apply found
      rw [Bool.and_eq_true, Bool.not_eq_true', Bool.not_eq_true']
      exact ⟨eq_false_of_ne_true (fun listed => unavailable (List.contains_iff_mem.mp listed)),
        eq_false_of_ne_true (fun listed => undeclared (List.contains_iff_mem.mp listed))⟩
    exact List.mem_flatMap.mp declared
  have waits : ∀ waiting ∈ state.pending, ∃ next ∈ state.pending,
      WaitsFor ModuleManifest.Names batch initiallyAvailable result waiting next := by
    intro waiting among
    obtain ⟨dependency, unmet⟩ := some waiting among
    obtain ⟨next, amongNext, names⟩ := provider waiting among dependency unmet
    exact ⟨next, amongNext, left next amongNext, dependency, unmet, names⟩
  refine .cycle (some index pending) ?_
  intro dependency unmet
  obtain ⟨next, amongNext, names⟩ := provider index pending dependency unmet
  obtain ⟨turn, _, leads, turns⟩ := exists_cycle waits amongNext
  exact ⟨next, left next amongNext, names, turn, leads, turns⟩

theorem split_append {Entry : Type} {old added early late : List Entry} {entry : Entry}
    (split : old ++ added = early ++ entry :: late) :
    (∃ rest, old = early ++ entry :: rest) ∨
      ∃ between rest, early = old ++ between ∧ added = between ++ entry :: rest := by
  rcases List.append_eq_append_iff.mp split with ⟨between, grown, rest⟩ | ⟨between, old, rest⟩
  · exact .inr ⟨between, late, grown, rest⟩
  · cases between with
    | nil =>
        refine .inr ⟨[], late, ?_, rest.symm⟩
        rw [old, List.append_nil]
        exact (List.append_nil _).symm
    | cons first between =>
        obtain ⟨rfl, _⟩ := List.cons.inj rest
        exact .inl ⟨between, old⟩

theorem BatchOrder.step_settled {manifests : Nat → ModuleManifest}
    (settled : state.pending = []) : state.step manifests = state := by
  unfold BatchOrder.step
  rw [settled]
  cases state
  cases settled
  simp

theorem Truthful.step (truthful : Truthful batch initiallyAvailable state) :
    Truthful batch initiallyAvailable (state.step (manifestAt batch)) := by
  by_cases settled : state.pending = []
  · rw [BatchOrder.step_settled settled]
    exact truthful
  have offers := truthful.offers.step
  have grounded := (step_turn (manifestAt batch) state).grounded truthful.grounded
  have within : Within (separate batch).1 (state.step (manifestAt batch)) :=
    truthful.within.step
  have kept : ∀ early index reason late (placed : LoadOrder),
      state.placed.unresolved = early ++ (index, reason) :: late →
      Justified ModuleManifest.Names batch initiallyAvailable placed early index reason := by
    intro early index reason late placed split
    refine (truthful.reasons early index reason late split).at_end ?_
    rintro rfl
    exact truthful.running settled index (by rw [split]; simp)
  rcases step_cases (manifestAt batch) state with ⟨chosen, pending, _, stepped⟩ |
    ⟨stalled, ⟨chosen, pending, name, missing, stepped⟩ | ⟨complete, stepped⟩⟩
  · rw [stepped] at offers grounded within ⊢
    refine ⟨offers, grounded, within, truthful.left, fun _ => truthful.running settled, ?_, ?_⟩
    · intro _ index among
      by_cases here : index = chosen
      · exact .inr (.inl (List.mem_append_right _ (List.mem_singleton.mpr here)))
      · rcases truthful.accounted settled index among with waiting | placed | refused
        · exact .inl ((List.mem_erase_of_ne here).mpr waiting)
        · exact .inr (.inl (List.mem_append_left _ placed))
        · exact .inr (.inr refused)
    · intro early index reason late split
      exact kept early index reason late _ split
  · rw [stepped] at offers grounded within ⊢
    refine ⟨offers, grounded, within, ?_, ?_, ?_, ?_⟩
    · intro index reason listed
      rcases List.mem_append.mp listed with before | added
      · exact truthful.left index reason before
      · rw [(Prod.mk.inj (List.mem_singleton.mp added)).1]
        exact .inr (truthful.within chosen (.inl pending))
    · intro _ index listed
      rcases List.mem_append.mp listed with before | added
      · exact truthful.running settled index before
      · exact noProvider_ne (by decide) name (Prod.mk.inj (List.mem_singleton.mp added)).2.symm
    · intro _ index among
      by_cases here : index = chosen
      · rw [here]
        exact .inr (.inr ⟨name, List.mem_append_right _ (List.mem_singleton_self _)⟩)
      · rcases truthful.accounted settled index among with waiting | placed | ⟨other, refused⟩
        · exact .inl ((List.mem_erase_of_ne here).mpr waiting)
        · exact .inr (.inl placed)
        · exact .inr (.inr ⟨other, List.mem_append_left _ refused⟩)
    · intro early index reason late split
      rcases split_append split with ⟨rest, before⟩ | ⟨between, rest, grown, added⟩
      · exact kept early index reason rest _ before
      · cases between with
        | nil =>
            obtain ⟨same, _⟩ := List.cons.inj added
            obtain ⟨rfl, rfl⟩ := Prod.mk.inj same
            rw [grown, List.append_nil]
            exact truthful.refused pending missing _
        | cons first between =>
            have lengths := congrArg List.length added
            simp at lengths
  · rw [stepped] at offers grounded within ⊢
    refine ⟨offers, grounded, within, ?_, fun left => absurd rfl left,
      fun left => absurd rfl left, ?_⟩
    · intro index reason listed
      rcases List.mem_append.mp listed with before | added
      · exact truthful.left index reason before
      · obtain ⟨waiting, pending, same⟩ := List.mem_map.mp added
        rw [← (Prod.mk.inj same).1]
        exact .inr (truthful.within waiting (.inl pending))
    intro early index reason late split
    rcases split_append split with ⟨rest, before⟩ | ⟨between, rest, _, added⟩
    · exact kept early index reason rest _ before
    · have listed : (index, reason) ∈
          state.pending.map (fun index => (index, cycleDetected)) := by
        rw [added]
        simp
      obtain ⟨other, pending, same⟩ := List.mem_map.mp listed
      obtain ⟨rfl, rfl⟩ := Prod.mk.inj same
      exact truthful.circular stalled complete (by rfl)
        (fun waiting among => List.mem_append_right _ (List.mem_map_of_mem among)) pending early

end Turn

/-! ### What each reason comes to -/

section Outcome

variable {index : Nat}

theorem resolve_truthful (batch : List ModuleManifest) (initiallyAvailable : List String) :
    ∃ last, Truthful batch initiallyAvailable last ∧ last.pending = [] ∧
      last.placed = resolve batch initiallyAvailable :=
  resolve_keeps batch initiallyAvailable (Truthful batch initiallyAvailable)
    (.start batch initiallyAvailable) (fun _ truthful => truthful.step)

theorem trueReasons_by_name (batch : List ModuleManifest) (initiallyAvailable : List String) :
    TrueReasons ModuleManifest.Names batch initiallyAvailable := by
  obtain ⟨last, truthful, _, same⟩ := resolve_truthful batch initiallyAvailable
  intro early index reason late split
  rw [← same] at split ⊢
  exact truthful.reasons early index reason late split

theorem resolve_once {first second : String}
    (listed : (index, first) ∈ (resolve batch initiallyAvailable).unresolved)
    (again : (index, second) ∈ (resolve batch initiallyAvailable).unresolved) :
    first = second := by
  have nodup := (resolve_every batch initiallyAvailable).nodup_iff.mpr List.nodup_range
  have same := List.inj_on_of_nodup_map (List.nodup_append.mp nodup).2.1 listed again rfl
  exact (Prod.mk.inj same).2

theorem resolve_disjoint {reason : String}
    (placed : index ∈ (resolve batch initiallyAvailable).order) :
    (index, reason) ∉ (resolve batch initiallyAvailable).unresolved := by
  have nodup := (resolve_every batch initiallyAvailable).nodup_iff.mpr List.nodup_range
  intro listed
  exact (List.nodup_append.mp nodup).2.2 index placed index
    (List.mem_map.mpr ⟨_, listed, rfl⟩) rfl

theorem resolve_left {reason : String}
    (listed : (index, reason) ∈ (resolve batch initiallyAvailable).unresolved) :
    (reason ≠ cycleDetected ∧ ∀ name, noProvider name ≠ reason) ∨
      index < batch.length ∧ Alone batch (manifestAt batch index) := by
  obtain ⟨last, truthful, _, same⟩ := resolve_truthful batch initiallyAvailable
  rw [← same] at listed
  rcases truthful.left index reason listed with shared | alone
  · obtain ⟨entry, _, found⟩ := List.mem_filterMap.mp shared
    obtain ⟨given, clashes, equal⟩ := Option.map_eq_some_iff.mp found
    rw [← (Prod.mk.inj equal).2]
    exact .inl (clash_other clashes)
  · exact .inr (mem_separate.mp alone)

theorem resolve_cycle_alone
    (listed : (index, cycleDetected) ∈ (resolve batch initiallyAvailable).unresolved) :
    index < batch.length ∧ Alone batch (manifestAt batch index) :=
  (resolve_left listed).resolve_left (fun other => other.1 rfl)

theorem resolve_trichotomy (within : index < batch.length)
    (alone : Alone batch (manifestAt batch index)) :
    index ∈ (resolve batch initiallyAvailable).order ∨
      (∃ name, (index, noProvider name) ∈ (resolve batch initiallyAvailable).unresolved) ∨
      (index, cycleDetected) ∈ (resolve batch initiallyAvailable).unresolved := by
  rcases resolve_covers batch initiallyAvailable within with placed | ⟨reason, listed⟩
  · exact .inl placed
  · obtain ⟨early, late, split⟩ := List.append_of_mem listed
    have justified := trueReasons_by_name batch initiallyAvailable early index reason late split
    cases justified with
    | moduleName withinOther different same =>
        exact absurd (alone.once within withinOther (.inl same.symm)).symm different
    | busName withinOther different same =>
        exact absurd (alone.once within withinOther (.inr same.symm)).symm different
    | missing => exact .inr (.inl ⟨_, listed⟩)
    | cycle => exact .inr (.inr listed)

/-- A manifest that cannot be activated, since something it needs is not there, and every
provider of it lacks something likewise. -/
inductive Lacking (batch : List ModuleManifest) (initiallyAvailable : List String) :
    ModuleManifest → Prop
  | intro {manifest : ModuleManifest} {dependency : Dependency}
      (needs : dependency ∈ manifest.needs) (absent : ¬ Free initiallyAvailable dependency)
      (providers : ∀ provider, Alone batch provider → provider.Names dependency →
        Lacking batch initiallyAvailable provider) :
      Lacking batch initiallyAvailable manifest

def Activated (batch : List ModuleManifest) (initiallyAvailable : List String)
    (manifest : ModuleManifest) : Prop :=
  ∃ others, (∀ other ∈ others, Alone batch other) ∧
    Ordered ModuleManifest.Names (Free initiallyAvailable) ModuleManifest.needs others ∧
    manifest ∈ others

structure Entangled (batch : List ModuleManifest) (initiallyAvailable : List String)
    (manifest : ModuleManifest) : Prop where
  alone : Alone batch manifest
  inert : ¬ Activated batch initiallyAvailable manifest
  supplied : ¬ Lacking batch initiallyAvailable manifest

theorem refused_split (early : List (Nat × String)) : ∀ (late : List (Nat × String))
    (index : Nat) (name : String),
    (resolve batch initiallyAvailable).unresolved = early ++ (index, noProvider name) :: late →
    Lacking batch initiallyAvailable (manifestAt batch index) := by
  -- Whoever could have provided was refused before, among fewer.
  induction size : early.length using Nat.strong_induction_on generalizing early with
  | _ size ih =>
      intro late index name split
      have justified := trueReasons_by_name batch initiallyAvailable early index _ late split
      generalize given : noProvider name = reason at justified
      cases justified with
      | moduleName => exact absurd given (noProvider_ne (by decide) name)
      | busName => exact absurd given (noProvider_ne (by decide) name)
      | cycle => exact absurd given (noProvider_ne (by decide) name)
      | missing needs absent providers =>
          refine .intro needs absent ?_
          intro provider alone names
          obtain ⟨place, within, rfl⟩ := alone.exists_place
          obtain ⟨other, before⟩ := providers place within alone names
          obtain ⟨front, back, parted⟩ := List.append_of_mem before
          refine ih front.length ?_ front rfl (back ++ (index, noProvider name) :: late)
            place other ?_
          · rw [← size, parted]
            simp
          · rw [split, parted, List.append_assoc]
            rfl

theorem Lacking.of_refused {name : String}
    (listed : (index, noProvider name) ∈ (resolve batch initiallyAvailable).unresolved) :
    Lacking batch initiallyAvailable (manifestAt batch index) := by
  obtain ⟨early, late, split⟩ := List.append_of_mem listed
  exact refused_split early late index name split

theorem Lacking.refused {manifest : ModuleManifest}
    (lacking : Lacking batch initiallyAvailable manifest) :
    ∀ index, index < batch.length → manifestAt batch index = manifest → Alone batch manifest →
      ∃ name, (index, noProvider name) ∈ (resolve batch initiallyAvailable).unresolved := by
  induction lacking with
  | @intro manifest dependency needs absent providers ih =>
      intro index within here alone
      subst here
      have nobody : ∀ placed ∈ (resolve batch initiallyAvailable).order,
          ¬ (manifestAt batch placed).Names dependency := by
        intro placed among names
        obtain ⟨inside, aloneProvider⟩ := resolve_alone among
        obtain ⟨name, listed⟩ := ih _ aloneProvider names placed inside rfl aloneProvider
        exact resolve_disjoint among listed
      rcases resolve_trichotomy within alone with placed | refused | circular
      · obtain ⟨early, late, split⟩ := List.append_of_mem placed
        rcases resolve_ordered batch initiallyAvailable split
          (List.mem_map.mpr ⟨dependency, needs, rfl⟩) with given | ⟨earlier, among, provides⟩
        · exact absurd given absent
        · exact absurd provides (nobody earlier (by rw [split]; simp [among]))
      · exact refused
      · obtain ⟨early, late, split⟩ := List.append_of_mem circular
        obtain ⟨_, leads⟩ :=
          (trueReasons_by_name batch initiallyAvailable early index _ late split).of_cycle
        obtain ⟨provider, listed, names⟩ := leads dependency ⟨needs, absent, nobody⟩
        obtain ⟨inside, aloneProvider⟩ := resolve_cycle_alone listed
        obtain ⟨name, refused⟩ := ih _ aloneProvider names provider inside rfl aloneProvider
        exact absurd (resolve_once refused listed) (noProvider_ne (by decide) name)

theorem circular_iff (within : index < batch.length) :
    (index, cycleDetected) ∈ (resolve batch initiallyAvailable).unresolved ↔
      Entangled batch initiallyAvailable (manifestAt batch index) := by
  constructor
  · intro listed
    obtain ⟨_, alone⟩ := resolve_cycle_alone listed
    refine ⟨alone, ?_, ?_⟩
    · rintro ⟨others, aloneOthers, possible, among⟩
      obtain ⟨place, placed, same⟩ :=
        List.mem_map.mp (ordered_largest aloneOthers possible _ among)
      obtain ⟨inside, aloneOther⟩ := resolve_alone placed
      have here := aloneOther.once inside within (.inl (by rw [same]))
      rw [here] at placed
      exact resolve_disjoint placed listed
    · intro lacking
      obtain ⟨name, refused⟩ := lacking.refused index within rfl alone
      exact noProvider_ne (by decide) name (resolve_once refused listed)
  · rintro ⟨alone, inert, supplied⟩
    rcases resolve_trichotomy within alone with placed | ⟨name, refused⟩ | circular
    · exact absurd ⟨ordered batch initiallyAvailable, fun _ among => ordered_alone among,
        ordered_supported batch initiallyAvailable, List.mem_map_of_mem placed⟩ inert
    · exact absurd (.of_refused refused) supplied
    · exact circular

end Outcome

/-! ### Versions -/

/-- Whatever an entangled manifest needs from a module is served by one that lacks
nothing. -/
def EntangledServed (batch : List ModuleManifest) (initiallyAvailable : List String) : Prop :=
  ∀ manifest, Entangled batch initiallyAvailable manifest →
    ∀ dependency ∈ manifest.needs, ¬ Free initiallyAvailable dependency →
      ∃ provider, Alone batch provider ∧ ¬ Lacking batch initiallyAvailable provider ∧
        provider.Serves dependency

section Versions

variable {index : Nat}

theorem EntangledServed.next (served : EntangledServed batch initiallyAvailable)
    (listed : (index, cycleDetected) ∈ (resolve batch initiallyAvailable).unresolved)
    {dependency : Dependency}
    (unmet : Unmet ModuleManifest.Serves batch initiallyAvailable
      (resolve batch initiallyAvailable).order index dependency) :
    ∃ provider, (provider, cycleDetected) ∈ (resolve batch initiallyAvailable).unresolved ∧
      (manifestAt batch provider).Serves dependency := by
  obtain ⟨needs, absent, nobody⟩ := unmet
  have entangled := (circular_iff (resolve_cycle_alone listed).1).mp listed
  obtain ⟨provider, alone, supplied, serves⟩ := served _ entangled dependency needs absent
  obtain ⟨place, within, rfl⟩ := alone.exists_place
  rcases resolve_trichotomy within alone with placed | ⟨name, refused⟩ | circular
  · exact absurd serves (nobody place placed)
  · exact absurd (.of_refused refused) supplied
  · exact ⟨place, circular, serves⟩

theorem exists_unmet
    (listed : (index, cycleDetected) ∈ (resolve batch initiallyAvailable).unresolved) :
    ∃ dependency, Unmet ModuleManifest.Serves batch initiallyAvailable
      (resolve batch initiallyAvailable).order index dependency := by
  obtain ⟨early, late, split⟩ := List.append_of_mem listed
  obtain ⟨⟨dependency, needs, absent, nobody⟩, _⟩ :=
    (trueReasons_by_name batch initiallyAvailable early index _ late split).of_cycle
  exact ⟨dependency, needs, absent,
    fun placed among serves => nobody placed among serves.names⟩

theorem EntangledServed.true_reasons (served : EntangledServed batch initiallyAvailable) :
    TrueReasons ModuleManifest.Serves batch initiallyAvailable := by
  intro early index reason late split
  have justified := trueReasons_by_name batch initiallyAvailable early index reason late split
  have listed : (index, reason) ∈ (resolve batch initiallyAvailable).unresolved := by
    rw [split]
    simp
  cases justified with
  | moduleName within different same => exact .moduleName within different same
  | busName within different same => exact .busName within different same
  | missing needs absent providers =>
      exact .missing needs absent
        (fun provider within alone serves => providers provider within alone serves.names)
  | cycle =>
      -- Everyone that is left out for a cycle waits, at its versions, for another one.
      have waits : ∀ waiting ∈ (List.range batch.length).filter (fun place =>
            decide ((place, cycleDetected) ∈ (resolve batch initiallyAvailable).unresolved)),
          ∃ next ∈ (List.range batch.length).filter (fun place =>
            decide ((place, cycleDetected) ∈ (resolve batch initiallyAvailable).unresolved)),
            WaitsFor ModuleManifest.Serves batch initiallyAvailable
              (resolve batch initiallyAvailable) waiting next := by
        intro waiting among
        have circular := of_decide_eq_true (List.mem_filter.mp among).2
        obtain ⟨dependency, unmet⟩ := exists_unmet circular
        obtain ⟨provider, next, serves⟩ := served.next circular unmet
        exact ⟨provider, List.mem_filter.mpr
          ⟨List.mem_range.mpr (resolve_cycle_alone next).1, decide_eq_true next⟩,
          next, dependency, unmet, serves⟩
      refine .cycle (exists_unmet listed) ?_
      intro dependency unmet
      obtain ⟨provider, next, serves⟩ := served.next listed unmet
      obtain ⟨turn, _, leads, turns⟩ := exists_cycle waits (List.mem_filter.mpr
        ⟨List.mem_range.mpr (resolve_cycle_alone next).1, decide_eq_true next⟩)
      exact ⟨provider, next, serves, turn, leads, turns⟩

theorem TrueReasons.served
    (reasons : TrueReasons ModuleManifest.Serves batch initiallyAvailable) :
    EntangledServed batch initiallyAvailable := by
  intro manifest entangled dependency needs absent
  obtain ⟨index, within, rfl⟩ := entangled.alone.exists_place
  have listed := (circular_iff within).mpr entangled
  by_cases met : ∃ placed ∈ (resolve batch initiallyAvailable).order,
      (manifestAt batch placed).Serves dependency
  · obtain ⟨placed, among, serves⟩ := met
    obtain ⟨inside, alone⟩ := resolve_alone among
    refine ⟨_, alone, ?_, serves⟩
    intro lacking
    obtain ⟨name, refused⟩ := lacking.refused placed inside rfl alone
    exact resolve_disjoint among refused
  · obtain ⟨early, late, split⟩ := List.append_of_mem listed
    obtain ⟨_, leads⟩ := (reasons early index _ late split).of_cycle
    obtain ⟨provider, next, serves⟩ := leads dependency
      ⟨needs, absent, fun placed among serves => met ⟨placed, among, serves⟩⟩
    obtain ⟨inside, alone⟩ := resolve_cycle_alone next
    exact ⟨_, alone, ((circular_iff inside).mp next).supplied, serves⟩

/-- The reasons of a batch are true by the names of its interfaces; at compatible versions
they are true exactly if whatever the entangled manifests need is served. -/
theorem load_reasons_true (batch : List ModuleManifest) (initiallyAvailable : List String) :
    TrueReasons ModuleManifest.Names batch initiallyAvailable ∧
    (TrueReasons ModuleManifest.Serves batch initiallyAvailable ↔
      EntangledServed batch initiallyAvailable) :=
  ⟨trueReasons_by_name batch initiallyAvailable, TrueReasons.served,
    EntangledServed.true_reasons⟩

/-- The speech module, if it needed what the chat module provides. -/
def chattySpeech : ModuleManifest :=
  { Loader.speechManifest with
    requires := [⟨⟨⟨"ai.tinyhumans.openhuman.Chat", by rfl⟩, ⟨1, 0, 0, none⟩,
      Version.caret ⟨1, 0, 0, none⟩⟩, false, ""⟩] }

/-- A chat module that needs the second version of the speech interface. -/
def speakingChat : ModuleManifest :=
  { newerChat with
    provides := [⟨⟨⟨"ai.tinyhumans.openhuman.Chat", by rfl⟩, ⟨1, 0, 0, none⟩,
      Version.compatibleSeries ⟨1, 0, 0, none⟩⟩, [], []⟩] }

theorem chatty_reasons :
    TrueReasons ModuleManifest.Names [speakingChat, chattySpeech] [] ∧
    (TrueReasons ModuleManifest.Serves [speakingChat, chattySpeech] [] ↔
      EntangledServed [speakingChat, chattySpeech] []) :=
  load_reasons_true [speakingChat, chattySpeech] []

/-- Nobody provides the second version, and the chat module is said to be in a cycle. -/
theorem speakingChat_misjudged :
    ¬ ∀ batch initiallyAvailable,
      TrueReasons ModuleManifest.Serves batch initiallyAvailable := by
  intro reasons
  have left : (resolve [speakingChat, chattySpeech] []).unresolved =
      [] ++ (0, cycleDetected) :: [(1, cycleDetected)] := by decide +kernel
  have order : (resolve [speakingChat, chattySpeech] []).order = [] := by decide +kernel
  obtain ⟨_, leads⟩ := (reasons [speakingChat, chattySpeech] [] [] 0 _ _ left).of_cycle
  obtain ⟨dependency, needs⟩ : ∃ dependency, (manifestAt [speakingChat, chattySpeech] 0).needs =
      [dependency] := ⟨_, rfl⟩
  have unmet : Unmet ModuleManifest.Serves [speakingChat, chattySpeech] []
      (resolve [speakingChat, chattySpeech] []).order 0 dependency := by
    unfold Unmet
    rw [order, needs]
    exact ⟨List.mem_cons_self, List.not_mem_nil, fun _ placed => nomatch placed⟩
  obtain ⟨provider, listed, offered, among, _, compatible⟩ := leads dependency unmet
  cases needs
  rw [left] at listed
  rcases List.mem_cons.mp listed with same | last
  · obtain ⟨rfl, _⟩ := Prod.mk.inj same
    rw [List.mem_singleton.mp among] at compatible
    exact absurd compatible (by decide)
  · obtain ⟨rfl, _⟩ := Prod.mk.inj (List.mem_singleton.mp last)
    rw [List.mem_singleton.mp among] at compatible
    exact absurd compatible (by decide)

end Versions

end TinyBus
