/-
Exclusive ownership of names, and accounts of how it moved.

An account is a list of changes.  It explains a step when it mentions a name at
most once, tells the owner before and after, and is silent only about names
that kept their owner.  The accounts of a run, one after another, then tell for
each name an unbroken chain from its first owner to its last.
-/

import Mathlib.Data.List.Nodup

namespace Ownership

universe u v

structure Change (Name : Type u) (Holder : Type v) where
  name : Name
  oldOwner : Option Holder
  newOwner : Option Holder
  deriving DecidableEq

variable {Name : Type u} {Holder : Type v}

/-- The changes tell exactly how the owners of the tracked names moved. -/
structure Explains (tracked : Name → Prop) (before after : Name → Option Holder)
    (changes : List (Change Name Holder)) : Prop where
  distinct : (changes.map Change.name).Nodup
  told : ∀ change ∈ changes,
    change.oldOwner = before change.name ∧ change.newOwner = after change.name
  silent : ∀ name, tracked name → name ∉ changes.map Change.name →
    after name = before name

theorem Explains.refl (tracked : Name → Prop) (owners : Name → Option Holder) :
    Explains tracked owners owners [] where
  distinct := List.nodup_nil
  told := fun _ member => absurd member List.not_mem_nil
  silent := fun _ _ _ => rfl

/-- Each change starts from the owner that the one before it left. -/
inductive Chain : Option Holder → List (Change Name Holder) → Option Holder → Prop
  | nil {owner : Option Holder} : Chain owner [] owner
  | cons {change : Change Name Holder} {rest : List (Change Name Holder)}
      {last : Option Holder} :
      Chain change.newOwner rest last →
        Chain change.oldOwner (change :: rest) last

variable {early : List (Change Name Holder)}

theorem Chain.append {first middle last : Option Holder} {late : List (Change Name Holder)}
    (before : Chain first early middle)
    (after : Chain middle late last) : Chain first (early ++ late) last := by
  induction before with
  | nil => exact after
  | cons _ extended => exact .cons (extended after)

theorem Chain.meets {first last : Option Holder} {late : List (Change Name Holder)}
    {left right : Change Name Holder} (chain : Chain first (early ++ left :: right :: late) last) :
    right.oldOwner = left.newOwner := by
  induction early generalizing first with
  | nil =>
      cases chain with
      | cons afterLeft =>
          generalize reached : left.newOwner = owner at afterLeft
          cases afterLeft with
          | cons _ => rfl
  | cons head tail ih =>
      cases chain with
      | cons rest => exact ih rest

theorem Chain.last_eq {first last : Option Holder} {final : Change Name Holder}
    (chain : Chain first (early ++ [final]) last) : last = final.newOwner := by
  induction early generalizing first with
  | nil =>
      cases chain with
      | cons rest =>
          generalize reached : final.newOwner = owner at rest
          cases rest
          rfl
  | cons head tail ih =>
      cases chain with
      | cons rest => exact ih rest

section

variable [DecidableEq Holder]

/-- The changes that give a name another owner. -/
def effective (changes : List (Change Name Holder)) : List (Change Name Holder) :=
  changes.filter (fun change => change.oldOwner != change.newOwner)

theorem Chain.effective {first last : Option Holder}
    {changes : List (Change Name Holder)} (chain : Chain first changes last) :
    Chain first (effective changes) last := by
  induction chain with
  | nil => exact .nil
  | @cons change rest last _ extended =>
      rw [Ownership.effective, List.filter_cons]
      by_cases same : change.oldOwner = change.newOwner
      · rw [if_neg (by simp [same]), same]
        exact extended
      · rw [if_pos (by simp [same])]
        exact .cons extended

end

variable [DecidableEq Name]

/-- The changes of one name, in order. -/
def changesOf (name : Name) (changes : List (Change Name Holder)) :
    List (Change Name Holder) :=
  changes.filter (fun change => change.name = name)

theorem changesOf_append (name : Name) (early late : List (Change Name Holder)) :
    changesOf name (early ++ late) = changesOf name early ++ changesOf name late :=
  List.filter_append early late

theorem changesOf_effective [DecidableEq Holder] (name : Name)
    (changes : List (Change Name Holder)) :
    changesOf name (effective changes) = effective (changesOf name changes) := by
  rw [changesOf, changesOf, effective, effective, List.filter_filter, List.filter_filter]
  exact List.filter_congr (fun change _ => Bool.and_comm _ _)

variable {changes : List (Change Name Holder)}

private theorem changesOf_of_absent {name : Name}
    (absent : name ∉ changes.map Change.name) : changesOf name changes = [] := by
  rw [changesOf, List.filter_eq_nil_iff]
  intro change member same
  exact absent (List.mem_map.mpr ⟨change, member, of_decide_eq_true same⟩)

private theorem changesOf_of_mem (distinct : (changes.map Change.name).Nodup)
    {change : Change Name Holder}
    (member : change ∈ changes) : changesOf change.name changes = [change] := by
  induction changes with
  | nil => cases member
  | cons head tail ih =>
      rw [List.map_cons, List.nodup_cons] at distinct
      rcases List.mem_cons.mp member with rfl | inTail
      · have others : changesOf change.name tail = [] :=
          changesOf_of_absent distinct.1
        rw [changesOf, List.filter_cons, if_pos (decide_eq_true rfl)]
        exact congrArg (change :: ·) others
      · have different : head.name ≠ change.name := by
          intro same
          apply distinct.1
          rw [same]
          exact List.mem_map.mpr ⟨change, inTail, rfl⟩
        rw [changesOf, List.filter_cons, if_neg (by simp [different])]
        exact ih distinct.2 inTail

/-- What explains a step is, for each tracked name, a chain between the owner
before it and the owner after it. -/
theorem Explains.chain {tracked : Name → Prop} {before after : Name → Option Holder}
    (explains : Explains tracked before after changes) {name : Name} (watched : tracked name) :
    Chain (before name) (changesOf name changes) (after name) := by
  by_cases mentioned : name ∈ changes.map Change.name
  · obtain ⟨change, member, rfl⟩ := List.mem_map.mp mentioned
    obtain ⟨old, new⟩ := explains.told change member
    rw [changesOf_of_mem explains.distinct member, ← old, ← new]
    exact .cons .nil
  · rw [changesOf_of_absent mentioned, explains.silent name watched mentioned]
    exact .nil

end Ownership
