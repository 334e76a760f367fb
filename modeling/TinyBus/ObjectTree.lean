import TinyBus.Library.Table
import TinyBus.Name

/-
What a connection exports: for each path a list of interfaces, each registered
under an identity of its own.  A later interface of the same name replaces the
earlier one, and a registration is taken out only while it is still there.
-/

namespace TinyBus

universe u

structure Export (Served : Type u) where
  id : Nat
  name : InterfaceName
  interface : Served

/-- The identity of one registration, for the owner of it. -/
structure ObjectRegistration where
  path : ObjectPath
  interface : InterfaceName
  id : Nat

variable {Served : Type u}

def Export.isOwnedBy (registration : ObjectRegistration) (entry : Export Served) : Bool :=
  entry.id == registration.id && entry.name == registration.interface

def exportsOf (objects : Table ObjectPath (List (Export Served))) (path : ObjectPath) :
    List (Export Served) :=
  (objects.lookup path).getD []

/-- No identity is given out twice, and none before its turn. -/
structure ObjectTree (Served : Type u) where
  objects : Table ObjectPath (List (Export Served))
  nextRegistration : Nat
  distinct : ∀ path, ((exportsOf objects path).map Export.id).Nodup
  issued : ∀ path, ∀ entry ∈ exportsOf objects path, entry.id ≤ nextRegistration

theorem exportsOf_insert (objects : Table ObjectPath (List (Export Served)))
    (path other : ObjectPath) (entries : List (Export Served)) :
    exportsOf (objects.insert path entries) other =
      if other = path then entries else exportsOf objects other := by
  unfold exportsOf
  rw [Table.lookup_insert_eq]
  split <;> rfl

theorem exportsOf_erase (objects : Table ObjectPath (List (Export Served)))
    (path other : ObjectPath) :
    exportsOf (objects.erase path) other =
      if other = path then [] else exportsOf objects other := by
  unfold exportsOf
  rw [Table.lookup_erase_eq]
  split <;> rfl

namespace ObjectTree

def exportsAt (tree : ObjectTree Served) (path : ObjectPath) : List (Export Served) :=
  exportsOf tree.objects path

def new : ObjectTree Served where
  objects := ∅
  nextRegistration := 0
  distinct := fun _ => List.nodup_nil
  issued := fun _ _ among => nomatch among

def replaceAt (tree : ObjectTree Served) (path : ObjectPath) (name : InterfaceName)
    (interface : Served) : List (Export Served) :=
  (tree.exportsAt path).filter (fun existing => existing.name != name) ++
    [⟨tree.nextRegistration + 1, name, interface⟩]

theorem mem_replaceAt {tree : ObjectTree Served} {path : ObjectPath} {name : InterfaceName}
    {interface : Served} {entry : Export Served} :
    entry ∈ tree.replaceAt path name interface ↔
      entry ∈ tree.exportsAt path ∧ entry.name ≠ name ∨
        entry = ⟨tree.nextRegistration + 1, name, interface⟩ := by
  unfold replaceAt
  rw [List.mem_append, List.mem_filter, List.mem_singleton, bne_iff_ne]

theorem replaceAt_nodup (tree : ObjectTree Served) (path : ObjectPath) (name : InterfaceName)
    (interface : Served) : ((tree.replaceAt path name interface).map Export.id).Nodup := by
  unfold replaceAt
  rw [List.map_append, List.nodup_append']
  refine ⟨(tree.distinct path).sublist (List.filter_sublist.map Export.id),
    List.nodup_singleton _, ?_⟩
  intro id old fresh
  obtain ⟨entry, among, same⟩ := List.mem_map.mp old
  have earlier := tree.issued path entry (List.mem_filter.mp among).1
  rw [same, List.mem_singleton.mp fresh] at earlier
  exact Nat.not_succ_le_self _ earlier

/-- `insert_owned`: the identity and what was replaced.  It panics when there is no
identity left. -/
def insertOwned (tree : ObjectTree Served) (path : ObjectPath) (name : InterfaceName)
    (interface : Served) : Option ((Nat × List Served) × ObjectTree Served) :=
  if tree.nextRegistration + 1 < 2 ^ 64 then
    some
      ((tree.nextRegistration + 1,
          ((tree.exportsAt path).filter (fun existing => existing.name == name)).map
            Export.interface),
        { objects := tree.objects.insert path (tree.replaceAt path name interface)
          nextRegistration := tree.nextRegistration + 1
          distinct := by
            intro other
            rw [exportsOf_insert]
            split
            · exact tree.replaceAt_nodup path name interface
            · exact tree.distinct other
          issued := by
            intro other entry among
            rw [exportsOf_insert] at among
            split at among
            · rcases mem_replaceAt.mp among with ⟨kept, _⟩ | rfl
              · exact Nat.le_succ_of_le (tree.issued path entry kept)
              · exact Nat.le_refl _
            · exact Nat.le_succ_of_le (tree.issued other entry among) })
  else none

def insert (tree : ObjectTree Served) (path : ObjectPath) (name : InterfaceName)
    (interface : Served) : Option (ObjectTree Served) :=
  (tree.insertOwned path name interface).map Prod.snd

def insertIfAbsent (tree : ObjectTree Served) (path : ObjectPath) (name : InterfaceName)
    (interface : Served) : Option (Bool × ObjectTree Served) :=
  if (tree.objects.lookup path).isSome then some (false, tree)
  else (tree.insert path name interface).map (fun after => (true, after))

def leaveAt (tree : ObjectTree Served) (path : ObjectPath) (left : List (Export Served))
    (fewer : left.Sublist (tree.exportsAt path)) : ObjectTree Served where
  objects := if left.isEmpty then tree.objects.erase path else tree.objects.insert path left
  nextRegistration := tree.nextRegistration
  distinct := by
    intro other
    split
    · rw [exportsOf_erase]
      split
      · exact List.nodup_nil
      · exact tree.distinct other
    · rw [exportsOf_insert]
      split
      · exact (tree.distinct path).sublist (fewer.map Export.id)
      · exact tree.distinct other
  issued := by
    intro other entry among
    split at among
    · rw [exportsOf_erase] at among
      split at among
      · cases among
      · exact tree.issued other entry among
    · rw [exportsOf_insert] at among
      split at among
      · exact tree.issued path entry (fewer.subset among)
      · exact tree.issued other entry among

theorem leaveAt_exportsAt (tree : ObjectTree Served) (path : ObjectPath)
    {left : List (Export Served)} (fewer : left.Sublist (tree.exportsAt path))
    (other : ObjectPath) :
    (tree.leaveAt path left fewer).exportsAt other =
      if other = path then left else tree.exportsAt other := by
  unfold leaveAt exportsAt
  dsimp only
  cases left with
  | nil => exact exportsOf_erase tree.objects path other
  | cons entry rest => exact exportsOf_insert tree.objects path other _

/-- `take_if_owned`: one interface, only if it is still the same registration. -/
def takeIfOwned (tree : ObjectTree Served) (registration : ObjectRegistration) :
    Option Served × ObjectTree Served :=
  match (tree.exportsAt registration.path).find? (Export.isOwnedBy registration) with
  | none => (none, tree)
  | some removed =>
      (some removed.interface,
        tree.leaveAt registration.path
          ((tree.exportsAt registration.path).eraseP (Export.isOwnedBy registration))
          List.eraseP_sublist)

/-- Everything at a path goes. -/
def remove (tree : ObjectTree Served) (path : ObjectPath) : Bool × ObjectTree Served :=
  ((tree.objects.lookup path).isSome, tree.leaveAt path [] (List.nil_sublist _))

theorem insertOwned_exportsAt {tree after : ObjectTree Served} {path : ObjectPath}
    {name : InterfaceName} {interface : Served} {id : Nat} {replaced : List Served}
    (inserted : tree.insertOwned path name interface = some ((id, replaced), after)) :
    id = tree.nextRegistration + 1 ∧ after.nextRegistration = id ∧
      ∀ other, after.exportsAt other =
        if other = path then tree.replaceAt path name interface else tree.exportsAt other := by
  unfold insertOwned at inserted
  split at inserted
  · cases inserted
    exact ⟨rfl, rfl, fun other => exportsOf_insert tree.objects path other _⟩
  · cases inserted

theorem eraseP_owned {entries : List (Export Served)} {registration : ObjectRegistration}
    (distinct : (entries.map Export.id).Nodup)
    (own : ∀ entry ∈ entries, entry.id = registration.id → entry.name = registration.interface) :
    entries.eraseP (Export.isOwnedBy registration) =
      entries.filter (fun entry => entry.id != registration.id) := by
  induction entries with
  | nil => rfl
  | cons entry rest ih =>
      rw [List.map_cons, List.nodup_cons] at distinct
      by_cases same : entry.id = registration.id
      · have owned : entry.isOwnedBy registration = true := by
          unfold Export.isOwnedBy
          rw [same, own entry List.mem_cons_self same, beq_self_eq_true, beq_self_eq_true]
          rfl
        have others : ∀ other ∈ rest, (other.id != registration.id) = true := by
          intro other among
          rw [bne_iff_ne, ← same]
          intro equal
          exact distinct.1 (List.mem_map.mpr ⟨other, among, equal⟩)
        rw [List.eraseP_cons_of_pos owned, List.filter_cons_of_neg (by simp [same]),
          List.filter_eq_self.mpr others]
      · have other : ¬ entry.isOwnedBy registration = true := by
          unfold Export.isOwnedBy
          simp [same]
        rw [List.eraseP_cons_of_neg other, List.filter_cons_of_pos (by simpa using same),
          ih distinct.2 (fun other among => own other (List.mem_cons_of_mem entry among))]

theorem takeIfOwned_exportsAt {tree : ObjectTree Served} {registration : ObjectRegistration}
    (own : ∀ path, ∀ entry ∈ tree.exportsAt path, entry.id = registration.id →
      path = registration.path ∧ entry.name = registration.interface) (path : ObjectPath) :
    (tree.takeIfOwned registration).2.exportsAt path =
      (tree.exportsAt path).filter (fun entry => entry.id != registration.id) := by
  have here : (tree.exportsAt registration.path).eraseP (Export.isOwnedBy registration) =
      (tree.exportsAt registration.path).filter (fun entry => entry.id != registration.id) :=
    eraseP_owned (tree.distinct registration.path)
      (fun entry among same => (own _ entry among same).2)
  have elsewhere (other : path ≠ registration.path) :
      (tree.exportsAt path).filter (fun entry => entry.id != registration.id) =
        tree.exportsAt path := by
    rw [List.filter_eq_self]
    intro entry among
    rw [bne_iff_ne]
    exact fun same => other (own path entry among same).1
  unfold takeIfOwned
  split
  · case _ missing =>
      by_cases same : path = registration.path
      · rw [same]
        have none : ∀ entry ∈ tree.exportsAt registration.path,
            ¬ entry.isOwnedBy registration = true := by simpa using missing
        have kept := List.eraseP_of_forall_not none
        exact kept.symm.trans here
      · exact (elsewhere same).symm
  · rw [leaveAt_exportsAt]
    split
    · case _ same =>
        rw [same]
        exact here
    · case _ other => exact (elsewhere other).symm

structure Succeeds (tree after : ObjectTree Served) : Prop where
  later : tree.nextRegistration ≤ after.nextRegistration
  old : ∀ path, ∀ entry ∈ after.exportsAt path,
    entry ∈ tree.exportsAt path ∨ tree.nextRegistration < entry.id

theorem Succeeds.refl (tree : ObjectTree Served) : Succeeds tree tree :=
  ⟨Nat.le_refl _, fun _ _ among => .inl among⟩

theorem leaveAt_succeeds (tree : ObjectTree Served) (path : ObjectPath)
    {left : List (Export Served)} (fewer : left.Sublist (tree.exportsAt path)) :
    Succeeds tree (tree.leaveAt path left fewer) := by
  refine ⟨Nat.le_refl _, ?_⟩
  intro other entry among
  rw [leaveAt_exportsAt] at among
  split at among
  · case _ same =>
      rw [same]
      exact .inl (fewer.subset among)
  · exact .inl among

theorem insertOwned_succeeds {tree after : ObjectTree Served} {path : ObjectPath}
    {name : InterfaceName} {interface : Served} {made : Nat × List Served}
    (inserted : tree.insertOwned path name interface = some (made, after)) :
    Succeeds tree after := by
  obtain ⟨id, next, left⟩ := insertOwned_exportsAt inserted
  refine ⟨by omega, ?_⟩
  intro other entry among
  rw [left other] at among
  split at among
  · case _ same =>
      rcases mem_replaceAt.mp among with ⟨kept, _⟩ | rfl
      · rw [same]
        exact .inl kept
      · exact .inr (Nat.lt_succ_self _)
  · exact .inl among

theorem insert_succeeds (tree : ObjectTree Served) (path : ObjectPath) (name : InterfaceName)
    (interface : Served) : Succeeds tree ((tree.insert path name interface).getD tree) := by
  unfold insert
  cases inserted : tree.insertOwned path name interface with
  | none => exact .refl tree
  | some made => exact insertOwned_succeeds inserted

theorem insertIfAbsent_succeeds (tree : ObjectTree Served) (path : ObjectPath)
    (name : InterfaceName) (interface : Served) :
    Succeeds tree (((tree.insertIfAbsent path name interface).map Prod.snd).getD tree) := by
  unfold insertIfAbsent
  split
  · exact .refl tree
  · rw [Option.map_map]
    have both : (Prod.snd ∘ fun after : ObjectTree Served => (true, after)) = id := rfl
    rw [both, Option.map_id]
    exact tree.insert_succeeds path name interface

theorem takeIfOwned_succeeds (tree : ObjectTree Served) (registration : ObjectRegistration) :
    Succeeds tree (tree.takeIfOwned registration).2 := by
  unfold takeIfOwned
  split
  · exact .refl tree
  · exact tree.leaveAt_succeeds registration.path List.eraseP_sublist

theorem remove_succeeds (tree : ObjectTree Served) (path : ObjectPath) :
    Succeeds tree (tree.remove path).2 :=
  tree.leaveAt_succeeds path (List.nil_sublist _)

end ObjectTree

end TinyBus
