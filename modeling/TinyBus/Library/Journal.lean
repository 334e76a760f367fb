/-
A journal and those who work it off.  Items are noted in the journal one after
another, and every entry is owed by somebody until it is done or lost.  A work
accounts for its journal when each entry is done, owed or lost, and only once.
It is in order, for the items of a kind, when the entries done are the first of
that kind in the journal; it stays so as long as only the oldest owed entry of
the kind is done, and none of the kind is lost.
-/

import Mathlib.Data.List.Sigma

namespace Journal

universe u

/-- An item and its place in the journal. -/
abbrev Entry (Item : Type u) := Item × Nat

structure Work (Item : Type u) where
  items : List Item
  done : List (Entry Item)
  owed : List (Entry Item)
  lost : List (Entry Item)

inductive Act (Item : Type u) where
  | pass
  | note (items : List Item)
  | finish (entry : Entry Item)
  | lose (entries : List (Entry Item))

variable {Item : Type u}

/-- What an act does to a work; who owes an entry does not matter. -/
inductive Step (before : Work Item) : Act Item → Work Item → Prop
  | pass {owed : List (Entry Item)} (places : before.owed.Perm owed) :
      Step before .pass { before with owed := owed }
  | note {items : List Item} {owed : List (Entry Item)}
      (places : owed.Perm (before.owed ++ items.zipIdx before.items.length)) :
      Step before (.note items)
        { before with items := before.items ++ items, owed := owed }
  | finish {entry : Entry Item} {owed : List (Entry Item)}
      (places : before.owed.Perm (entry :: owed)) :
      Step before (.finish entry)
        { before with done := before.done ++ [entry], owed := owed }
  | lose {entries owed : List (Entry Item)}
      (places : before.owed.Perm (entries ++ owed)) :
      Step before (.lose entries)
        { before with lost := before.lost ++ entries, owed := owed }

def Work.Accounts (work : Work Item) : Prop :=
  (work.done ++ (work.owed ++ work.lost)).Perm work.items.zipIdx

def selected (kind : Item → Bool) (entries : List (Entry Item)) : List (Entry Item) :=
  entries.filter (fun entry => kind entry.1)

/-- The entries of the kind that are done are the first in the journal, and the
others of the kind are owed. -/
def Work.InOrder (kind : Item → Bool) (work : Work Item) : Prop :=
  ∃ rest, selected kind work.done ++ rest = selected kind work.items.zipIdx ∧
    rest.Perm (selected kind work.owed)

/-- The act spares the order of the kind. -/
def Act.Orderly (kind : Item → Bool) (work : Work Item) : Act Item → Prop
  | .pass => True
  | .note _ => True
  | .finish entry => kind entry.1 = true →
      ∀ other ∈ work.owed, kind other.1 = true → entry.2 ≤ other.2
  | .lose entries => ∀ entry ∈ entries, kind entry.1 = false

variable {before after work : Work Item} {act : Act Item} {kind : Item → Bool}

theorem selected_append (kind : Item → Bool) (early late : List (Entry Item)) :
    selected kind (early ++ late) = selected kind early ++ selected kind late :=
  List.filter_append early late

theorem selected_map_fst (kind : Item → Bool) (entries : List (Entry Item)) :
    (selected kind entries).map Prod.fst = (entries.map Prod.fst).filter kind := by
  rw [List.filter_map]
  rfl

theorem selected_items (kind : Item → Bool) (items : List Item) :
    (selected kind items.zipIdx).map Prod.fst = items.filter kind := by
  rw [selected_map_fst, List.zipIdx_map_fst]

private theorem zipIdx_pairwise (items : List Item) (start : Nat) :
    (items.zipIdx start).Pairwise (fun left right => left.2 < right.2) := by
  induction items generalizing start with
  | nil => exact .nil
  | cons head tail ih =>
      rw [List.zipIdx_cons, List.pairwise_cons]
      refine ⟨?_, ih (start + 1)⟩
      intro entry member
      have later := List.le_snd_of_mem_zipIdx member
      change start < entry.2
      omega

theorem Step.items_note {items : List Item} (step : Step before (.note items) after) :
    after.items = before.items ++ items := by
  cases step
  rfl

theorem owed_set {Holder : Type} (owed : Holder → List (Entry Item))
    {holders : List Holder} {index : Nat} {holder : Holder}
    (found : holders[index]? = some holder) :
    ∃ rest, (holders.flatMap owed).Perm (owed holder ++ rest) ∧ ∀ other,
      ((holders.set index other).flatMap owed).Perm (owed other ++ rest) := by
  induction holders generalizing index with
  | nil => cases found
  | cons head tail ih =>
      cases index with
      | zero =>
          cases found
          exact ⟨tail.flatMap owed, .refl _, fun _ => .refl _⟩
      | succ index =>
          obtain ⟨rest, whole, updated⟩ := ih found
          refine ⟨owed head ++ rest, ?_, ?_⟩
          · rw [List.flatMap_cons]
            exact (whole.append_left _).trans (List.perm_append_comm_assoc _ _ _)
          · intro other
            rw [List.set_cons_succ, List.flatMap_cons]
            exact ((updated other).append_left _).trans (List.perm_append_comm_assoc _ _ _)

theorem Step.accounts (step : Step before act after) (accounts : before.Accounts) :
    after.Accounts := by
  unfold Work.Accounts at accounts ⊢
  cases step with
  | pass places =>
      exact ((places.symm.append_right _).append_left _).trans accounts
  | @note items owed places =>
      have noted : (before.items ++ items).zipIdx =
          before.items.zipIdx ++ items.zipIdx before.items.length := by
        rw [List.zipIdx_append, Nat.zero_add]
      rw [noted]
      have placed : (before.done ++ (owed ++ before.lost)).Perm
          (before.done ++
            (before.owed ++ items.zipIdx before.items.length ++ before.lost)) :=
        (places.append_right _).append_left _
      have shifted : (before.done ++
            (before.owed ++ items.zipIdx before.items.length ++ before.lost)).Perm
          (before.done ++ (before.owed ++ before.lost) ++
            items.zipIdx before.items.length) := by
        rw [List.append_assoc, List.append_assoc, List.append_assoc]
        exact (List.perm_append_comm.append_left _).append_left _
      exact (placed.trans shifted).trans (accounts.append_right _)
  | @finish entry owed places =>
      refine List.Perm.trans ?_ accounts
      rw [List.append_assoc]
      exact (places.symm.append_right before.lost).append_left before.done
  | @lose entries owed places =>
      refine List.Perm.trans ?_ accounts
      have moved : (owed ++ (before.lost ++ entries)).Perm (before.owed ++ before.lost) := by
        rw [← List.append_assoc]
        refine List.perm_append_comm.trans ?_
        rw [← List.append_assoc]
        exact places.symm.append_right before.lost
      exact moved.append_left before.done

private theorem oldest_first {items : List Item} {done rest : List (Entry Item)}
    {entry : Entry Item} (split : done ++ rest = selected kind items.zipIdx)
    (member : entry ∈ rest) (oldest : ∀ other ∈ rest, entry.2 ≤ other.2) :
    ∃ later, rest = entry :: later := by
  have increasing : (done ++ rest).Pairwise (fun left right => left.2 < right.2) := by
    rw [split]
    exact (zipIdx_pairwise items 0).filter _
  have ordered := (List.pairwise_append.mp increasing).2.1
  cases rest with
  | nil => cases member
  | cons head tail =>
      rcases List.mem_cons.mp member with rfl | inTail
      · exact ⟨tail, rfl⟩
      · have younger := (List.pairwise_cons.mp ordered).1 entry inTail
        have older := oldest head List.mem_cons_self
        omega

theorem Step.inOrder (step : Step before act after) (order : before.InOrder kind)
    (orderly : act.Orderly kind before) : after.InOrder kind := by
  obtain ⟨rest, split, left⟩ := order
  cases step with
  | pass places => exact ⟨rest, split, left.trans (places.filter _)⟩
  | @note items owed places =>
      refine ⟨rest ++ selected kind (items.zipIdx before.items.length), ?_, ?_⟩
      · change selected kind before.done ++ _ = _
        rw [← List.append_assoc, split, List.zipIdx_append, Nat.zero_add, selected_append]
      · refine (left.append_right _).trans ?_
        rw [← selected_append]
        exact (places.filter _).symm
  | @finish entry owed places =>
      have remaining := left.trans (places.filter _)
      change rest.Perm (selected kind (entry :: owed)) at remaining
      cases matched : kind entry.1 with
      | false =>
          refine ⟨rest, ?_, ?_⟩
          · change selected kind (before.done ++ [entry]) ++ rest = _
            rw [selected_append, selected, selected, List.filter_cons, matched]
            simpa [selected] using split
          · rw [selected, List.filter_cons, matched] at remaining
            exact remaining
      | true =>
          rw [selected, List.filter_cons, matched] at remaining
          have member : entry ∈ rest := remaining.mem_iff.mpr List.mem_cons_self
          have oldest : ∀ other ∈ rest, entry.2 ≤ other.2 := by
            intro other inRest
            obtain ⟨owing, same⟩ := List.mem_filter.mp (left.mem_iff.mp inRest)
            exact orderly matched other owing same
          obtain ⟨later, rfl⟩ := oldest_first split member oldest
          refine ⟨later, ?_, List.Perm.cons_inv remaining⟩
          change selected kind (before.done ++ [entry]) ++ later = _
          rw [selected_append, ← split, List.append_assoc]
          simp [selected, matched]
  | @lose entries owed places =>
      refine ⟨rest, split, left.trans ?_⟩
      refine (places.filter _).trans ?_
      have none : selected kind entries = [] := by
        rw [selected, List.filter_eq_nil_iff]
        intro entry member
        rw [orderly entry member]
        exact Bool.false_ne_true
      rw [List.filter_append]
      change (selected kind entries ++ selected kind owed).Perm _
      rw [none]
      exact .refl _

/-- What is done in order is a first part of the journal, and all of it when
nothing of the kind is owed. -/
theorem Work.InOrder.done_prefix (order : work.InOrder kind) :
    ∃ late, (selected kind work.done).map Prod.fst ++ late = work.items.filter kind ∧
      (selected kind work.owed = [] → late = []) := by
  obtain ⟨rest, split, left⟩ := order
  refine ⟨rest.map Prod.fst, ?_, ?_⟩
  · rw [← List.map_append, split, selected_items]
  · intro settled
    rw [settled, List.perm_nil] at left
    rw [left, List.map_nil]

end Journal
