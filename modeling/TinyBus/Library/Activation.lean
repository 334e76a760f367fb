import Mathlib.Data.Fintype.EquivFin
import Mathlib.Data.Fintype.Sets
import Mathlib.Logic.Relation
import Mathlib.Order.WellFounded

/-!
Activation orders: lists in which every item finds what it needs free, or met by an item
before it.  And what is left where no item can go first: a finite set in which each item
waits for another has a cycle behind every item.
-/

universe u v

namespace Activation

variable {Item : Type u} {Need : Type v}

/-- Each item finds each of its needs free, or met by an item before it. -/
def Ordered (meets : Item → Need → Prop) (free : Need → Prop) (needs : Item → List Need)
    (order : List Item) : Prop :=
  ∀ early item late, order = early ++ item :: late →
    ∀ need ∈ needs item, free need ∨ ∃ earlier ∈ early, meets earlier need

theorem exists_first {Kind : Item → Prop} {items : List Item}
    (some : ∃ item ∈ items, Kind item) :
    ∃ early item late, items = early ++ item :: late ∧ Kind item ∧
      ∀ earlier ∈ early, ¬ Kind earlier := by
  induction items with
  | nil =>
      obtain ⟨item, among, _⟩ := some
      cases among
  | cons head rest ih =>
      by_cases here : Kind head
      · exact ⟨[], head, rest, rfl, here, fun earlier among => nomatch among⟩
      · obtain ⟨item, among, kind⟩ := some
        rcases List.mem_cons.mp among with rfl | later
        · exact absurd kind here
        · obtain ⟨early, first, late, split, is, before⟩ := ih ⟨item, later, kind⟩
          refine ⟨head :: early, first, late, by rw [split]; rfl, is, ?_⟩
          intro earlier within
          rcases List.mem_cons.mp within with rfl | deeper
          · exact here
          · exact before earlier deeper

theorem snoc_split {order early late : List Item} {last item : Item}
    (split : order ++ [last] = early ++ item :: late) :
    (early = order ∧ item = last) ∨ ∃ rest, order = early ++ item :: rest := by
  rcases List.eq_nil_or_concat late with rfl | ⟨front, final, rfl⟩
  · obtain ⟨rfl, same⟩ := List.append_inj' split rfl
    exact .inl ⟨rfl, (List.cons.inj same).1.symm⟩
  · rw [List.concat_eq_append] at split
    have whole : order ++ [last] = (early ++ item :: front) ++ [final] := by
      rw [List.append_assoc]
      exact split
    exact .inr ⟨front, (List.append_inj' whole rfl).1⟩

namespace Ordered

variable {meets weaker : Item → Need → Prop} {free : Need → Prop} {needs : Item → List Need}
  {order : List Item}

theorem mono (ordered : Ordered meets free needs order)
    (imply : ∀ item need, meets item need → weaker item need) :
    Ordered weaker free needs order := by
  intro early item late split need needed
  rcases ordered early item late split need needed with given | ⟨earlier, among, met⟩
  · exact .inl given
  · exact .inr ⟨earlier, among, imply earlier need met⟩

theorem snoc (ordered : Ordered meets free needs order) {item : Item}
    (due : ∀ need ∈ needs item, free need ∨ ∃ earlier ∈ order, meets earlier need) :
    Ordered meets free needs (order ++ [item]) := by
  intro early chosen late split
  rcases snoc_split split with ⟨rfl, rfl⟩ | ⟨rest, whole⟩
  · exact due
  · exact ordered early chosen rest whole

theorem of_append {late : List Item} (ordered : Ordered meets free needs (order ++ late)) :
    Ordered meets free needs order := by
  intro early item rest split
  exact ordered early item (rest ++ late) (by rw [split, List.append_assoc]; rfl)

theorem exists_nodup (ordered : Ordered meets free needs order) :
    ∃ distinct : List Item, distinct.Nodup ∧ (∀ item, item ∈ distinct ↔ item ∈ order) ∧
      Ordered meets free needs distinct := by
  induction order using List.reverseRecOn with
  | nil => exact ⟨[], .nil, fun _ => Iff.rfl, ordered⟩
  | append_singleton order last ih =>
      obtain ⟨distinct, nodup, same, possible⟩ := ih ordered.of_append
      by_cases twice : last ∈ distinct
      · refine ⟨distinct, nodup, fun item => ?_, possible⟩
        rw [List.mem_append, List.mem_singleton, ← same]
        constructor
        · exact .inl
        · rintro (among | rfl)
          · exact among
          · exact twice
      · refine ⟨distinct ++ [last], ?_, fun item => ?_, possible.snoc ?_⟩
        · exact List.nodup_append.mpr ⟨nodup, List.nodup_singleton last, by
            rintro item among _ single rfl
            rw [List.mem_singleton.mp single] at among
            exact twice among⟩
        · rw [List.mem_append, List.mem_append, same]
        · intro need needed
          rcases ordered order last [] rfl need needed with given | ⟨earlier, among, met⟩
          · exact .inl given
          · exact .inr ⟨earlier, (same earlier).mpr among, met⟩

/-- Where an order is not placed altogether, one of its items that are not could be
placed next. -/
theorem exists_next {Placed : Item → Prop} (ordered : Ordered meets free needs order)
    (left : ∃ item ∈ order, ¬ Placed item) :
    ∃ item ∈ order, ¬ Placed item ∧
      ∀ need ∈ needs item, free need ∨ ∃ earlier, Placed earlier ∧ meets earlier need := by
  obtain ⟨early, item, late, split, unplaced, before⟩ := exists_first left
  refine ⟨item, by rw [split]; simp, unplaced, ?_⟩
  intro need needed
  rcases ordered early item late split need needed with given | ⟨earlier, among, met⟩
  · exact .inl given
  · exact .inr ⟨earlier, not_not.mp (before earlier among), met⟩

end Ordered

/-- Where each of finitely many items waits for another of them, each waits, directly or
not, for one that waits for itself. -/
theorem exists_cycle {waits : Item → Item → Prop} {items : List Item}
    (closed : ∀ item ∈ items, ∃ next ∈ items, waits item next) {item : Item}
    (among : item ∈ items) :
    ∃ turn ∈ items, Relation.ReflTransGen waits item turn ∧
      Relation.TransGen waits turn turn := by
  classical
  by_contra none
  -- Without a cycle the items behind this one are well-founded, and so have a last one.
  let Behind := {other : Item // other ∈ items ∧ Relation.ReflTransGen waits item other}
  have finite : Finite Behind :=
    Finite.of_injective (fun other : Behind => (⟨other.1, other.2.1⟩ : {other // other ∈ items}))
      (fun left right same => Subtype.ext (Subtype.mk.inj same))
  let after : Behind → Behind → Prop := fun left right =>
    Relation.TransGen waits right.1 left.1
  have transitive : IsTrans Behind after := ⟨fun _ _ _ first second => second.trans first⟩
  have irreflexive : Std.Irrefl after :=
    ⟨fun other turns => none ⟨other.1, other.2.1, other.2.2, turns⟩⟩
  have founded := Finite.wellFounded_of_trans_of_irrefl after
  have inhabited : (Set.univ : Set Behind).Nonempty := ⟨⟨item, among, .refl⟩, trivial⟩
  obtain ⟨next, listed, waiting⟩ := closed _ (founded.min Set.univ inhabited).2.1
  let successor : Behind :=
    ⟨next, listed, (founded.min Set.univ inhabited).2.2.tail waiting⟩
  have earlier : after successor (founded.min Set.univ inhabited) := .single waiting
  exact founded.not_lt_min Set.univ (Set.mem_univ successor) earlier

end Activation
