/-
The object tree as what it is for: a partial map from a path and an interface to the
latest registration there.  The tree keeps a list for each path and must drop a list that
runs empty; the map knows neither lists nor their order.
-/

import TinyBus.Error
import TinyBus.ObjectTree
import TinyBus.Library.Machine

namespace TinyBus

universe u

variable {Served : Type u}

/-! ### Reading the tree -/

namespace ObjectTree

/-- One interface, where "no such object" is told from "object exists, wrong contract". -/
def lookup (tree : ObjectTree Served) (path : ObjectPath) (name : InterfaceName) :
    Except Error Served :=
  match tree.objects.lookup path with
  | none => .error (.unknownObject path)
  | some entries =>
      match entries.find? (fun entry => entry.name == name) with
      | some entry => .ok entry.interface
      | none => .error (.unknownInterface path name)

/-- Every exported path, sorted. -/
def paths (tree : ObjectTree Served) : List ObjectPath :=
  tree.objects.keys.mergeSort (fun left right => decide (left.text ≤ right.text))

def interfacesAt (tree : ObjectTree Served) (path : ObjectPath) : List InterfaceName :=
  ((tree.objects.lookup path).map (List.map Export.name)).getD []

end ObjectTree

/-! ### Operations and their answers -/

inductive TreeOperation (Served : Type u) where
  | insert (path : ObjectPath) (name : InterfaceName) (interface : Served)
  | insertIfAbsent (path : ObjectPath) (name : InterfaceName) (interface : Served)
  | insertOwned (path : ObjectPath) (name : InterfaceName) (interface : Served)
  | takeIfOwned (registration : ObjectRegistration)
  | remove (path : ObjectPath)

inductive TreeAnswer (Served : Type u) where
  | inserted
  | insertedIfAbsent (inserted : Bool)
  | owned (id : Nat) (replaced : List Served)
  | taken (interface : Option Served)
  | removed (present : Bool)
  /-- The operation panicked: there was no identity left. -/
  | exhausted

namespace ObjectTree

def perform (tree : ObjectTree Served) :
    TreeOperation Served → TreeAnswer Served × ObjectTree Served
  | .insert path name interface =>
      match tree.insert path name interface with
      | some after => (.inserted, after)
      | none => (.exhausted, tree)
  | .insertIfAbsent path name interface =>
      match tree.insertIfAbsent path name interface with
      | some (inserted, after) => (.insertedIfAbsent inserted, after)
      | none => (.exhausted, tree)
  | .insertOwned path name interface =>
      match tree.insertOwned path name interface with
      | some ((id, replaced), after) => (.owned id replaced, after)
      | none => (.exhausted, tree)
  | .takeIfOwned registration =>
      (.taken (tree.takeIfOwned registration).1, (tree.takeIfOwned registration).2)
  | .remove path => (.removed (tree.remove path).1, (tree.remove path).2)

def machine : Machine (ObjectTree Served) (TreeOperation Served) (TreeAnswer Served) :=
  ⟨.new, perform⟩

end ObjectTree

/-! ### The map -/

/-- The latest registration of every path and interface, and the last identity. -/
structure FlatMap (Served : Type u) where
  registered : ObjectPath → InterfaceName → Option (Nat × Served)
  issued : Nat

namespace FlatMap

def empty : FlatMap Served := ⟨fun _ _ => none, 0⟩

def Holds (flat : FlatMap Served) (path : ObjectPath) : Prop :=
  ∃ name, flat.registered path name ≠ none

def register (flat : FlatMap Served) (path : ObjectPath) (name : InterfaceName)
    (interface : Served) : FlatMap Served where
  registered := fun other called =>
    if other = path ∧ called = name then some (flat.issued + 1, interface)
    else flat.registered other called
  issued := flat.issued + 1

def unregister (flat : FlatMap Served) (path : ObjectPath) (name : InterfaceName) :
    FlatMap Served :=
  { flat with
    registered := fun other called =>
      if other = path ∧ called = name then none else flat.registered other called }

def clear (flat : FlatMap Served) (path : ObjectPath) : FlatMap Served :=
  { flat with
    registered := fun other called =>
      if other = path then none else flat.registered other called }

open Classical in
noncomputable def perform (flat : FlatMap Served) :
    TreeOperation Served → TreeAnswer Served × FlatMap Served
  | .insert path name interface =>
      if flat.issued + 1 < 2 ^ 64 then (.inserted, flat.register path name interface)
      else (.exhausted, flat)
  | .insertIfAbsent path name interface =>
      if flat.Holds path then (.insertedIfAbsent false, flat)
      else if flat.issued + 1 < 2 ^ 64 then
        (.insertedIfAbsent true, flat.register path name interface)
      else (.exhausted, flat)
  | .insertOwned path name interface =>
      if flat.issued + 1 < 2 ^ 64 then
        (.owned (flat.issued + 1) ((flat.registered path name).map Prod.snd).toList,
          flat.register path name interface)
      else (.exhausted, flat)
  | .takeIfOwned registration =>
      match flat.registered registration.path registration.interface with
      | some (id, interface) =>
          if id = registration.id then
            (.taken (some interface), flat.unregister registration.path registration.interface)
          else (.taken none, flat)
      | none => (.taken none, flat)
  | .remove path => (.removed (decide (flat.Holds path)), flat.clear path)

noncomputable def machine :
    Machine (FlatMap Served) (TreeOperation Served) (TreeAnswer Served) := ⟨empty, perform⟩

end FlatMap

/-! ### The tree mirrors the map -/

structure MirrorsMap (tree : ObjectTree Served) (flat : FlatMap Served) : Prop where
  issued : tree.nextRegistration = flat.issued
  registered : ∀ path name id interface,
    flat.registered path name = some (id, interface) ↔
      ⟨id, name, interface⟩ ∈ tree.exportsAt path
  pruned : ∀ path, tree.objects.lookup path ≠ some []

namespace MirrorsMap

variable {tree : ObjectTree Served} {flat : FlatMap Served} {path : ObjectPath}
  {name : InterfaceName}

theorem entry_registered (mirrors : MirrorsMap tree flat) {entry : Export Served} :
    entry ∈ tree.exportsAt path ↔
      flat.registered path entry.name = some (entry.id, entry.interface) :=
  (mirrors.registered path entry.name entry.id entry.interface).symm

theorem same_of_name (mirrors : MirrorsMap tree flat) {entry other : Export Served}
    (among : entry ∈ tree.exportsAt path) (amongOther : other ∈ tree.exportsAt path)
    (same : other.name = entry.name) : other = entry := by
  have first := mirrors.entry_registered.mp among
  have second := mirrors.entry_registered.mp amongOther
  rw [same, first, Option.some.injEq, Prod.mk.injEq] at second
  cases other
  cases entry
  cases same
  obtain ⟨id, interface⟩ := second
  cases id
  cases interface
  rfl

theorem present_iff (mirrors : MirrorsMap tree flat) :
    (tree.objects.lookup path).isSome = true ↔ flat.Holds path := by
  unfold FlatMap.Holds
  cases found : tree.objects.lookup path with
  | none =>
      have nothing : tree.exportsAt path = [] := by
        unfold ObjectTree.exportsAt exportsOf
        rw [found]
        rfl
      constructor
      · intro some
        cases some
      · rintro ⟨name, registered⟩
        cases holds : flat.registered path name with
        | none => exact absurd holds registered
        | some pair =>
            have among := (mirrors.registered path name pair.1 pair.2).mp holds
            rw [nothing] at among
            cases among
  | some entries =>
      have listed : tree.exportsAt path = entries := by
        unfold ObjectTree.exportsAt exportsOf
        rw [found]
        rfl
      refine ⟨fun _ => ?_, fun _ => rfl⟩
      cases entries with
      | nil => exact absurd found (mirrors.pruned path)
      | cons entry rest =>
          have among : entry ∈ tree.exportsAt path := by
            rw [listed]
            exact List.mem_cons_self
          refine ⟨entry.name, ?_⟩
          rw [mirrors.entry_registered.mp among]
          exact Option.some_ne_none _

private theorem filter_only {entries : List (Export Served)} {entry : Export Served}
    (among : entry ∈ entries) (distinct : (entries.map Export.id).Nodup)
    (only : ∀ other ∈ entries, other.name = entry.name → other = entry) :
    entries.filter (fun existing => existing.name == entry.name) = [entry] := by
  induction entries with
  | nil => cases among
  | cons head rest ih =>
      rw [List.map_cons, List.nodup_cons] at distinct
      by_cases same : head = entry
      · subst same
        have others : ∀ other ∈ rest, ¬ (other.name == head.name) = true := by
          intro other later equal
          have identical := only other (List.mem_cons_of_mem _ later) (beq_iff_eq.mp equal)
          exact distinct.1 (List.mem_map.mpr ⟨other, later, by rw [identical]⟩)
        rw [List.filter_cons, if_pos (beq_self_eq_true head.name),
          List.filter_eq_nil_iff.mpr others]
      · have other : ¬ (head.name == entry.name) = true :=
          fun equal => same (only head List.mem_cons_self (beq_iff_eq.mp equal))
        rcases List.mem_cons.mp among with here | later
        · exact absurd here.symm same
        · rw [List.filter_cons, if_neg other]
          exact ih later distinct.2
            (fun other within => only other (List.mem_cons_of_mem _ within))

theorem filter_name (mirrors : MirrorsMap tree flat) (path : ObjectPath)
    (name : InterfaceName) :
    ((tree.exportsAt path).filter (fun existing => existing.name == name)).map
        Export.interface = ((flat.registered path name).map Prod.snd).toList := by
  cases holds : flat.registered path name with
  | none =>
      have absent : ∀ entry ∈ tree.exportsAt path, ¬ (entry.name == name) = true := by
        intro entry among equal
        have registered := mirrors.entry_registered.mp among
        rw [beq_iff_eq.mp equal, holds] at registered
        cases registered
      rw [List.filter_eq_nil_iff.mpr absent]
      rfl
  | some pair =>
      have among := (mirrors.registered path name pair.1 pair.2).mp holds
      have alone := filter_only among (tree.distinct path)
        (fun other within equal => mirrors.same_of_name among within equal)
      exact congrArg (List.map Export.interface) alone

theorem register (mirrors : MirrorsMap tree flat) {interface : Served} {id : Nat}
    {replaced : List Served} {after : ObjectTree Served}
    (inserted : tree.insertOwned path name interface = some ((id, replaced), after)) :
    id = flat.issued + 1 ∧ replaced = ((flat.registered path name).map Prod.snd).toList ∧
      MirrorsMap after (flat.register path name interface) := by
  obtain ⟨fresh, next, left⟩ := ObjectTree.insertOwned_exportsAt inserted
  have replacing : replaced =
      ((tree.exportsAt path).filter (fun existing => existing.name == name)).map
        Export.interface ∧ after.objects =
          tree.objects.insert path (tree.replaceAt path name interface) := by
    unfold ObjectTree.insertOwned at inserted
    split at inserted
    · cases inserted
      exact ⟨rfl, rfl⟩
    · cases inserted
  refine ⟨by rw [fresh, mirrors.issued], replacing.1.trans (mirrors.filter_name path name),
    ?_⟩
  constructor
  · rw [next, fresh, mirrors.issued]
    rfl
  · intro other called otherId served
    rw [left other]
    unfold FlatMap.register
    dsimp only
    by_cases here : other = path
    · subst here
      rw [if_pos rfl, ObjectTree.mem_replaceAt, mirrors.issued]
      by_cases same : called = name
      · rw [if_pos ⟨rfl, same⟩, same]
        simp [eq_comm]
      · rw [if_neg (fun both => same both.2), mirrors.registered]
        simp [same]
    · rw [if_neg (fun both => here both.1), if_neg here, mirrors.registered]
  · intro other
    rw [replacing.2, Table.lookup_insert_eq]
    by_cases here : other = path
    · rw [if_pos here, ObjectTree.replaceAt]
      simp
    · rw [if_neg here]
      exact mirrors.pruned other

theorem leave (mirrors : MirrorsMap tree flat) {fewer : FlatMap Served}
    {left : List (Export Served)} (kept : left.Sublist (tree.exportsAt path))
    (issued : fewer.issued = flat.issued)
    (registered : ∀ other called id interface,
      fewer.registered other called = some (id, interface) ↔
        ⟨id, called, interface⟩ ∈ if other = path then left else tree.exportsAt other) :
    MirrorsMap (tree.leaveAt path left kept) fewer := by
  constructor
  · rw [issued]
    exact mirrors.issued
  · intro other called id interface
    rw [ObjectTree.leaveAt_exportsAt]
    exact registered other called id interface
  · intro other
    unfold ObjectTree.leaveAt
    dsimp only
    cases left with
    | nil =>
        rw [if_pos List.isEmpty_nil, Table.lookup_erase_eq]
        split
        · exact fun same => nomatch same
        · exact mirrors.pruned other
    | cons entry rest =>
        have some : ¬ (entry :: rest).isEmpty = true := Bool.false_ne_true
        rw [if_neg some, Table.lookup_insert_eq]
        split
        · simp
        · exact mirrors.pruned other

theorem find_owned (mirrors : MirrorsMap tree flat) (registration : ObjectRegistration)
    (interface : Served) :
    (∃ removed, (tree.exportsAt registration.path).find? (Export.isOwnedBy registration) =
        some removed ∧ removed.interface = interface) ↔
      flat.registered registration.path registration.interface =
        some (registration.id, interface) := by
  constructor
  · rintro ⟨removed, found, rfl⟩
    have owned := List.find?_some found
    unfold Export.isOwnedBy at owned
    rw [Bool.and_eq_true, beq_iff_eq, beq_iff_eq] at owned
    have registered := mirrors.entry_registered.mp (List.mem_of_find?_eq_some found)
    rwa [owned.1, owned.2] at registered
  · intro holds
    have among := (mirrors.registered _ _ _ _).mp holds
    have owned : Export.isOwnedBy registration
        ⟨registration.id, registration.interface, interface⟩ = true := by
      unfold Export.isOwnedBy
      rw [beq_self_eq_true, beq_self_eq_true]
      rfl
    cases found : (tree.exportsAt registration.path).find? (Export.isOwnedBy registration) with
    | none => exact absurd owned (List.find?_eq_none.mp found _ among)
    | some removed =>
        have mine := List.find?_some found
        unfold Export.isOwnedBy at mine
        rw [Bool.and_eq_true, beq_iff_eq, beq_iff_eq] at mine
        have same := mirrors.same_of_name among (List.mem_of_find?_eq_some found) mine.2
        exact ⟨removed, rfl, by rw [same]⟩

theorem taken_iff (mirrors : MirrorsMap tree flat) (registration : ObjectRegistration)
    (interface : Served) :
    (tree.takeIfOwned registration).1 = some interface ↔
      flat.registered registration.path registration.interface =
        some (registration.id, interface) := by
  rw [← mirrors.find_owned]
  unfold ObjectTree.takeIfOwned
  cases (tree.exportsAt registration.path).find? (Export.isOwnedBy registration) with
  | none => simp
  | some removed => simp

theorem take (mirrors : MirrorsMap tree flat) (registration : ObjectRegistration) :
    (tree.perform (.takeIfOwned registration)).1 =
        (flat.perform (.takeIfOwned registration)).1 ∧
      MirrorsMap (tree.perform (.takeIfOwned registration)).2
        (flat.perform (.takeIfOwned registration)).2 := by
  unfold ObjectTree.perform FlatMap.perform ObjectTree.takeIfOwned
  dsimp only
  cases found : (tree.exportsAt registration.path).find? (Export.isOwnedBy registration) with
  | none =>
      have absent : ∀ interface, flat.registered registration.path registration.interface ≠
          some (registration.id, interface) := by
        intro interface holds
        obtain ⟨removed, present, _⟩ := (mirrors.find_owned registration interface).mpr holds
        rw [found] at present
        cases present
      cases holds : flat.registered registration.path registration.interface with
      | none => exact ⟨rfl, mirrors⟩
      | some pair =>
          obtain ⟨id, interface⟩ := pair
          have other : ¬ id = registration.id := by
            rintro rfl
            exact absent interface holds
          dsimp only
          rw [if_neg other]
          exact ⟨rfl, mirrors⟩
  | some removed =>
      have holds := (mirrors.find_owned registration removed.interface).mp ⟨removed, found, rfl⟩
      rw [holds]
      dsimp only
      rw [if_pos rfl]
      refine ⟨rfl, mirrors.leave _ rfl ?_⟩
      intro other called id interface
      have among := (mirrors.registered _ _ _ _).mp holds
      have own : ∀ entry ∈ tree.exportsAt registration.path, entry.id = registration.id →
          entry.name = registration.interface := by
        intro entry within same
        have equal : entry = ⟨registration.id, registration.interface, removed.interface⟩ :=
          List.inj_on_of_nodup_map (tree.distinct registration.path) within among same
        rw [equal]
      have erased : (tree.exportsAt registration.path).eraseP (Export.isOwnedBy registration) =
          (tree.exportsAt registration.path).filter (fun entry => entry.id != registration.id) :=
        ObjectTree.eraseP_owned (tree.distinct registration.path) own
      rw [erased]
      unfold FlatMap.unregister
      dsimp only
      by_cases here : other = registration.path
      · subst here
        rw [if_pos rfl, List.mem_filter, bne_iff_ne, ← mirrors.registered]
        by_cases same : called = registration.interface
        · rw [if_pos ⟨rfl, same⟩, same, holds]
          constructor
          · exact fun gone => nomatch gone
          · rintro ⟨registered, other⟩
            cases registered
            exact absurd rfl other
        · rw [if_neg (fun both => same both.2)]
          constructor
          · intro registered
            refine ⟨registered, ?_⟩
            intro equal
            exact same (own _ ((mirrors.registered _ _ _ _).mp registered) equal)
          · exact fun both => both.1
      · rw [if_neg (fun both => here both.1), if_neg here, mirrors.registered]

theorem remove (mirrors : MirrorsMap tree flat) (path : ObjectPath) :
    (tree.perform (.remove path)).1 = (flat.perform (.remove path)).1 ∧
      MirrorsMap (tree.perform (.remove path)).2 (flat.perform (.remove path)).2 := by
  refine ⟨?_, mirrors.leave (List.nil_sublist _) rfl ?_⟩
  · unfold ObjectTree.perform FlatMap.perform ObjectTree.remove
    dsimp only
    exact congrArg TreeAnswer.removed (Bool.eq_iff_iff.mpr
      (mirrors.present_iff.trans (@decide_eq_true_iff _ (Classical.propDecidable _)).symm))
  · intro other called id interface
    unfold FlatMap.perform FlatMap.clear
    dsimp only
    by_cases here : other = path
    · rw [if_pos here, if_pos here]
      simp
    · rw [if_neg here, if_neg here, mirrors.registered]

theorem insertOwned (mirrors : MirrorsMap tree flat) (path : ObjectPath)
    (name : InterfaceName) (interface : Served) :
    (flat.issued + 1 < 2 ^ 64 → ∃ after, MirrorsMap after (flat.register path name interface) ∧
      tree.insertOwned path name interface = some ((flat.issued + 1,
        ((flat.registered path name).map Prod.snd).toList), after)) ∧
    (¬ flat.issued + 1 < 2 ^ 64 → tree.insertOwned path name interface = none) := by
  constructor
  · intro room
    cases inserted : tree.insertOwned path name interface with
    | none =>
        rw [← mirrors.issued] at room
        unfold ObjectTree.insertOwned at inserted
        rw [if_pos room] at inserted
        cases inserted
    | some made =>
        obtain ⟨⟨id, replaced⟩, after⟩ := made
        obtain ⟨fresh, listed, mirrorsAfter⟩ := mirrors.register inserted
        exact ⟨after, mirrorsAfter, by rw [fresh, listed]⟩
  · intro full
    rw [← mirrors.issued] at full
    unfold ObjectTree.insertOwned
    rw [if_neg full]

theorem perform (mirrors : MirrorsMap tree flat) (operation : TreeOperation Served) :
    (tree.perform operation).1 = (flat.perform operation).1 ∧
      MirrorsMap (tree.perform operation).2 (flat.perform operation).2 := by
  cases operation with
  | insert path name interface =>
      obtain ⟨made, full⟩ := mirrors.insertOwned path name interface
      unfold ObjectTree.perform FlatMap.perform ObjectTree.insert
      dsimp only
      by_cases room : flat.issued + 1 < 2 ^ 64
      · obtain ⟨after, mirrorsAfter, inserted⟩ := made room
        rw [inserted, if_pos room]
        exact ⟨rfl, mirrorsAfter⟩
      · rw [full room, if_neg room]
        exact ⟨rfl, mirrors⟩
  | insertIfAbsent path name interface =>
      obtain ⟨made, full⟩ := mirrors.insertOwned path name interface
      unfold ObjectTree.perform FlatMap.perform ObjectTree.insertIfAbsent ObjectTree.insert
      dsimp only
      by_cases present : flat.Holds path
      · rw [if_pos (mirrors.present_iff.mpr present), if_pos present]
        exact ⟨rfl, mirrors⟩
      · rw [if_neg (fun some => present (mirrors.present_iff.mp some)), if_neg present]
        by_cases room : flat.issued + 1 < 2 ^ 64
        · obtain ⟨after, mirrorsAfter, inserted⟩ := made room
          rw [inserted, if_pos room]
          exact ⟨rfl, mirrorsAfter⟩
        · rw [full room, if_neg room]
          exact ⟨rfl, mirrors⟩
  | insertOwned path name interface =>
      obtain ⟨made, full⟩ := mirrors.insertOwned path name interface
      unfold ObjectTree.perform FlatMap.perform
      dsimp only
      by_cases room : flat.issued + 1 < 2 ^ 64
      · obtain ⟨after, mirrorsAfter, inserted⟩ := made room
        rw [inserted, if_pos room]
        exact ⟨rfl, mirrorsAfter⟩
      · rw [full room, if_neg room]
        exact ⟨rfl, mirrors⟩
  | takeIfOwned registration => exact mirrors.take registration
  | remove path => exact mirrors.remove path

theorem simulates : Machine.Simulates
    (ObjectTree.machine : Machine (ObjectTree Served) (TreeOperation Served) _)
    FlatMap.machine MirrorsMap where
  start := by
    refine ⟨rfl, ?_, ?_⟩
    · intro path name id interface
      constructor
      · exact fun holds => nomatch holds
      · exact fun among => nomatch among
    · exact fun path empty => nomatch empty
  answers := fun mirrors operation => (mirrors.perform operation).1
  leaves := fun mirrors operation => (mirrors.perform operation).2

end MirrorsMap

/-! ### What is read -/

/-- The tree is read as the map. -/
structure ReadsAs (tree : ObjectTree Served) (flat : FlatMap Served) : Prop where
  found : ∀ path name interface, tree.lookup path name = .ok interface ↔
    ∃ id, flat.registered path name = some (id, interface)
  unknownObject : ∀ path name,
    tree.lookup path name = .error (.unknownObject path) ↔ ¬ flat.Holds path
  unknownInterface : ∀ path name,
    tree.lookup path name = .error (.unknownInterface path name) ↔
      flat.Holds path ∧ flat.registered path name = none
  paths : ∀ path, path ∈ tree.paths ↔ flat.Holds path
  pathsOnce : tree.paths.Nodup
  pathsSorted : tree.paths.Pairwise (fun left right => left.text ≤ right.text)
  interfaces : ∀ path name,
    name ∈ tree.interfacesAt path ↔ flat.registered path name ≠ none
  interfacesOnce : ∀ path, (tree.interfacesAt path).Nodup

namespace MirrorsMap

variable {tree : ObjectTree Served} {flat : FlatMap Served} {path : ObjectPath}
  {name : InterfaceName}

theorem lookup_eq (mirrors : MirrorsMap tree flat) (path : ObjectPath) (name : InterfaceName) :
    (¬ flat.Holds path ∧ tree.lookup path name = .error (.unknownObject path)) ∨
      flat.Holds path ∧ (flat.registered path name = none ∧
          tree.lookup path name = .error (.unknownInterface path name) ∨
        ∃ id interface, flat.registered path name = some (id, interface) ∧
          tree.lookup path name = .ok interface) := by
  unfold ObjectTree.lookup
  cases listed : tree.objects.lookup path with
  | none =>
      refine .inl ⟨fun holds => ?_, rfl⟩
      have present := mirrors.present_iff.mpr holds
      rw [listed] at present
      cases present
  | some entries =>
      have holds : flat.Holds path := mirrors.present_iff.mp (by rw [listed]; rfl)
      have exports : tree.exportsAt path = entries := by
        unfold ObjectTree.exportsAt exportsOf
        rw [listed]
        rfl
      refine .inr ⟨holds, ?_⟩
      dsimp only
      cases found : entries.find? (fun entry => entry.name == name) with
      | none =>
          refine .inl ⟨?_, rfl⟩
          cases registered : flat.registered path name with
          | none => rfl
          | some pair =>
              have among := (mirrors.registered path name pair.1 pair.2).mp registered
              rw [exports] at among
              exact absurd (beq_self_eq_true name) (List.find?_eq_none.mp found _ among)
      | some entry =>
          have among := List.mem_of_find?_eq_some found
          have matched := List.find?_some found
          have called : entry.name = name := beq_iff_eq.mp matched
          rw [← exports] at among
          have registered := mirrors.entry_registered.mp among
          rw [called] at registered
          exact .inr ⟨entry.id, entry.interface, registered, rfl⟩

theorem mem_interfacesAt (mirrors : MirrorsMap tree flat) (path : ObjectPath)
    (name : InterfaceName) :
    name ∈ tree.interfacesAt path ↔ flat.registered path name ≠ none := by
  have listed : tree.interfacesAt path = (tree.exportsAt path).map Export.name := by
    unfold ObjectTree.interfacesAt ObjectTree.exportsAt exportsOf
    cases tree.objects.lookup path <;> rfl
  rw [listed, List.mem_map]
  constructor
  · rintro ⟨entry, among, rfl⟩
    rw [mirrors.entry_registered.mp among]
    exact Option.some_ne_none _
  · intro present
    obtain ⟨pair, registered⟩ := Option.ne_none_iff_exists'.mp present
    exact ⟨_, (mirrors.registered path name pair.1 pair.2).mp registered, rfl⟩

theorem interfacesAt_nodup (mirrors : MirrorsMap tree flat) (path : ObjectPath) :
    (tree.interfacesAt path).Nodup := by
  have listed : tree.interfacesAt path = (tree.exportsAt path).map Export.name := by
    unfold ObjectTree.interfacesAt ObjectTree.exportsAt exportsOf
    cases tree.objects.lookup path <;> rfl
  rw [listed]
  refine List.Nodup.map_on ?_ ((tree.distinct path).of_map Export.id)
  intro entry among other amongOther same
  exact (mirrors.same_of_name among amongOther same.symm).symm

theorem reads (mirrors : MirrorsMap tree flat) : ReadsAs tree flat := by
  refine
    { found := ?_, unknownObject := ?_, unknownInterface := ?_, paths := ?_, pathsOnce := ?_,
      pathsSorted := ?_, interfaces := mirrors.mem_interfacesAt,
      interfacesOnce := mirrors.interfacesAt_nodup }
  · intro path name interface
    rcases mirrors.lookup_eq path name with ⟨absent, looked⟩ |
      ⟨_, ⟨absent, looked⟩ | ⟨id, served, registered, looked⟩⟩
    · rw [looked]
      constructor
      · intro found
        cases found
      · rintro ⟨id, registered⟩
        exact absurd ⟨name, by rw [registered]; exact Option.some_ne_none _⟩ absent
    · rw [looked, absent]
      simp
    · rw [looked, registered]
      simp
  · intro path name
    rcases mirrors.lookup_eq path name with ⟨absent, looked⟩ |
      ⟨holds, ⟨_, looked⟩ | ⟨_, _, _, looked⟩⟩
    · rw [looked]
      simp [absent]
    · rw [looked]
      simp [holds]
    · rw [looked]
      simp [holds]
  · intro path name
    rcases mirrors.lookup_eq path name with ⟨absent, looked⟩ |
      ⟨holds, ⟨registered, looked⟩ | ⟨_, _, registered, looked⟩⟩
    · rw [looked]
      simp [absent]
    · rw [looked]
      simp [holds, registered]
    · rw [looked]
      simp [registered]
  · intro path
    unfold ObjectTree.paths
    rw [List.mem_mergeSort, ← AList.mem_keys, ← mirrors.present_iff, AList.lookup_isSome]
  · unfold ObjectTree.paths
    exact (List.mergeSort_perm _ _).nodup_iff.mpr tree.objects.keys_nodup
  · unfold ObjectTree.paths
    have sorted := @List.pairwise_mergeSort ObjectPath
      (fun left right => decide (left.text ≤ right.text))
      (by simpa using fun left middle right : ObjectPath => String.le_trans)
      (by simpa using fun left right : ObjectPath => String.le_total _ _) tree.objects.keys
    simpa using sorted

end MirrorsMap

/-! ### Identities -/

structure Outdates (before after : FlatMap Served) : Prop where
  issued : before.issued ≤ after.issued
  older : ∀ path name id interface, after.registered path name = some (id, interface) →
    before.registered path name = some (id, interface) ∨ before.issued < id

namespace Outdates

theorem refl (flat : FlatMap Served) : Outdates flat flat :=
  ⟨Nat.le_refl _, fun _ _ _ _ registered => .inl registered⟩

theorem trans {first second third : FlatMap Served} (early : Outdates first second)
    (late : Outdates second third) : Outdates first third := by
  refine ⟨Nat.le_trans early.issued late.issued, ?_⟩
  intro path name id interface registered
  rcases late.older path name id interface registered with old | new
  · exact early.older path name id interface old
  · exact .inr (Nat.lt_of_le_of_lt early.issued new)

theorem register (flat : FlatMap Served) (path : ObjectPath) (name : InterfaceName)
    (interface : Served) : Outdates flat (flat.register path name interface) := by
  refine ⟨Nat.le_succ _, ?_⟩
  intro other called id served registered
  unfold FlatMap.register at registered
  dsimp only at registered
  split at registered
  · cases registered
    exact .inr (Nat.lt_succ_self _)
  · exact .inl registered

theorem perform (flat : FlatMap Served) (operation : TreeOperation Served) :
    Outdates flat (flat.perform operation).2 := by
  unfold FlatMap.perform
  cases operation with
  | insert path name interface =>
      dsimp only
      split
      · exact register flat path name interface
      · exact refl flat
  | insertIfAbsent path name interface =>
      dsimp only
      split
      · exact refl flat
      · split
        · exact register flat path name interface
        · exact refl flat
  | insertOwned path name interface =>
      dsimp only
      split
      · exact register flat path name interface
      · exact refl flat
  | takeIfOwned registration =>
      dsimp only
      split
      · split
        · refine ⟨Nat.le_refl _, ?_⟩
          intro path name id interface registered
          unfold FlatMap.unregister at registered
          dsimp only at registered
          split at registered
          · cases registered
          · exact .inl registered
        · exact refl flat
      · exact refl flat
  | remove path =>
      refine ⟨Nat.le_refl _, ?_⟩
      intro other name id interface registered
      unfold FlatMap.clear at registered
      dsimp only at registered
      split at registered
      · cases registered
      · exact .inl registered

theorem run (flat : FlatMap Served) (operations : List (TreeOperation Served)) :
    Outdates flat (FlatMap.machine.runFrom flat operations).2 :=
  Machine.runFrom_relates refl trans perform flat operations

end Outdates

theorem FlatMap.registered_since {flat : FlatMap Served} {path : ObjectPath}
    {name : InterfaceName} {interface served : Served} {id : Nat}
    (issued : flat.issued = id) (fresh : flat.registered path name = some (id, interface))
    (operations : List (TreeOperation Served)) :
    (FlatMap.machine.runFrom flat operations).2.registered path name = some (id, served) ↔
      served = interface ∧ ∀ seen, seen <+: operations →
        (FlatMap.machine.runFrom flat seen).2.registered path name = some (id, interface) := by
  constructor
  · intro registered
    have same : served = interface := by
      rcases (Outdates.run flat operations).older path name id served registered with old | new
      · rw [fresh] at old
        cases old
        rfl
      · exact absurd issued (Nat.ne_of_lt new)
    refine ⟨same, ?_⟩
    rintro seen ⟨rest, rfl⟩
    rw [Machine.runFrom_append, same] at registered
    have later := Outdates.run (FlatMap.machine.runFrom flat seen).2 rest
    rcases later.older path name id interface registered with old | new
    · exact old
    · have grown := (Outdates.run flat seen).issued
      omega
  · rintro ⟨rfl, throughout⟩
    exact throughout operations (List.prefix_refl operations)

/-- After any operations the tree answered each of them as the partial map from paths and
interfaces to latest registrations, and is read as the map.  A registration is taken out by
its identity exactly if it has been at its place ever since. -/
theorem ObjectTree.runs_as_map (operations : List (TreeOperation Served)) :
    let tree := (ObjectTree.machine.run operations).2
    (ObjectTree.machine.run operations).1 = (FlatMap.machine.run operations).1 ∧
      ReadsAs tree (FlatMap.machine.run operations).2 ∧
      ∀ early path name interface later id replaced,
        operations = early ++ .insertOwned path name interface :: later →
        ((ObjectTree.machine.run early).2.perform (.insertOwned path name interface)).1 =
          .owned id replaced →
        ∀ served, (tree.takeIfOwned ⟨path, name, id⟩).1 = some served ↔
          served = interface ∧ ∀ seen, seen <+: later →
            (FlatMap.machine.run
              (early ++ .insertOwned path name interface :: seen)).2.registered path name =
                some (id, interface) := by
  intro tree
  obtain ⟨answers, mirrors⟩ := MirrorsMap.simulates.run operations
  refine ⟨answers, mirrors.reads, ?_⟩
  intro early path name interface later id replaced split owned served
  have earlier := (MirrorsMap.simulates.run early).2
  rw [(earlier.perform _).1] at owned
  generalize before : (FlatMap.machine.run early).2 = flat at owned
  obtain ⟨fresh, after⟩ : id = flat.issued + 1 ∧
      flat.perform (.insertOwned path name interface) =
        (.owned id replaced, flat.register path name interface) := by
    unfold FlatMap.perform at owned ⊢
    dsimp only at owned ⊢
    split at owned
    · rename_i room
      cases owned
      exact ⟨rfl, by rw [if_pos room]⟩
    · cases owned
  have run : ∀ seen, (FlatMap.machine.run
      (early ++ .insertOwned path name interface :: seen)).2 =
        (FlatMap.machine.runFrom (flat.register path name interface) seen).2 := by
    intro seen
    unfold Machine.run
    rw [Machine.runFrom_append]
    change (FlatMap.machine.runFrom (FlatMap.machine.run early).2 _).2 = _
    rw [before, Machine.runFrom]
    change (FlatMap.machine.runFrom (flat.perform _).2 seen).2 = _
    rw [after]
  rw [mirrors.taken_iff, split, run later, FlatMap.registered_since (by rw [fresh]; rfl)
    (by rw [fresh]; exact if_pos ⟨rfl, rfl⟩) later]
  simp only [run]

private def voicePath : ObjectPath := ⟨"/voice", by rfl⟩

private def speakName : InterfaceName := ⟨"ai.tinyhumans.Speak", by rfl⟩

theorem replacedVoice_not_taken :
    let tree := (ObjectTree.machine.run
      [.insertOwned voicePath speakName 'a', .insert voicePath speakName 'b']).2
    ∀ served, (tree.takeIfOwned ⟨voicePath, speakName, 1⟩).1 = some served ↔
      served = 'a' ∧ ∀ seen, seen <+: [TreeOperation.insert voicePath speakName 'b'] →
        (FlatMap.machine.run
          ([] ++ .insertOwned voicePath speakName 'a' :: seen)).2.registered voicePath
            speakName = some (1, 'a') :=
  (ObjectTree.runs_as_map _).2.2 [] voicePath speakName 'a'
    [.insert voicePath speakName 'b'] 1 [] rfl rfl

end TinyBus
