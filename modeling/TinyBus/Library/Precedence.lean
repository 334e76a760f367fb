import Mathlib.Data.List.Nodup

/-!
What comes before what in a list that grows at its end.
-/

namespace Precedence

universe u

variable {Item : Type u} {items selected : List Item} {first second last : Item}

/-- The one comes before the other, which may be listed again. -/
def Before (items : List Item) (first second : Item) : Prop :=
  [first, second].Sublist items

theorem sublist_of_concat (within : selected.Sublist (items ++ [last]))
    (absent : last ∉ selected) : selected.Sublist items := by
  obtain ⟨early, late, rfl, kept, rest⟩ := List.sublist_append_iff.mp within
  rcases List.sublist_singleton.mp rest with rfl | rfl
  · rw [List.append_nil]
    exact kept
  · exact absurd (List.mem_append_right _ (List.mem_singleton_self _)) absent

theorem Before.left_mem (before : Before items first second) : first ∈ items :=
  before.mem (List.mem_cons_self ..)

theorem Before.right_mem (before : Before items first second) : second ∈ items :=
  before.mem (List.mem_cons_of_mem _ (List.mem_singleton_self _))

theorem Before.concat (before : Before items first second) :
    Before (items ++ [last]) first second :=
  before.trans (List.sublist_append_left ..)

theorem before_concat_iff :
    Before (items ++ [last]) first second ↔
      Before items first second ∨ first ∈ items ∧ second = last := by
  constructor
  · intro before
    obtain ⟨early, late, split, kept, rest⟩ := List.sublist_append_iff.mp before
    rcases List.sublist_singleton.mp rest with rfl | rfl
    · rw [List.append_nil] at split
      subst split
      exact .inl kept
    · have halves : [first] ++ [second] = early ++ [last] := split
      obtain ⟨rfl, same⟩ := List.append_inj' halves rfl
      exact .inr ⟨List.singleton_sublist.mp kept, (List.cons.inj same).1⟩
  · rintro (before | ⟨member, rfl⟩)
    · exact before.concat
    · exact (List.singleton_sublist.mpr member).append (List.Sublist.refl _)

theorem not_before_self (once : items.Nodup) : ¬ Before items first first := by
  intro before
  have two := once.sublist before
  exact (List.nodup_cons.mp two).1 (List.mem_singleton_self _)

theorem Before.asymm (once : items.Nodup) (before : Before items first second) :
    ¬ Before items second first := by
  intro after
  induction items with
  | nil => cases before
  | cons head tail ih =>
      have absent := (List.nodup_cons.mp once).1
      cases before with
      | cons _ within =>
          cases after with
          | cons _ later => exact ih (List.nodup_cons.mp once).2 within later
          | cons_cons _ later => exact absent (Before.right_mem within)
      | cons_cons _ within =>
          cases after with
          | cons _ later => exact absent (Before.right_mem later)
          | cons_cons _ later => exact absent (List.singleton_sublist.mp within)

theorem not_before_of_last (once : (items ++ [last]).Nodup) :
    ¬ Before (items ++ [last]) last second := by
  intro before
  have absent : last ∉ items := by
    intro member
    exact (List.nodup_append.mp once).2.2 last member last (List.mem_singleton_self _) rfl
  rcases before_concat_iff.mp before with earlier | ⟨member, _⟩
  · exact absent earlier.left_mem
  · exact absent member

end Precedence
