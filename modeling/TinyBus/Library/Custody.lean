/-
Custody of numbered tokens.  A token is numbered when it enters; from then on
some place holds it until it is lost.  An account forgets the places and keeps
who was numbered and what is held.  Steps shift tokens between places, take a
new one in or lose some; an account then never holds a token twice, and holds
every token whose loss was not excused.
-/

import Mathlib.Data.List.Nodup

namespace Custody

/-- `issued` tokens were numbered so far; `held` lists those in some place. -/
structure Account where
  issued : Nat
  held : List Nat

structure Account.Sound (account : Account) : Prop where
  once : account.held.Nodup
  known : ∀ token ∈ account.held, token < account.issued

/-- What one step does to an account; `gone` are the tokens it loses. -/
inductive Shift (before after : Account) (gone : List Nat) : Prop
  | moved (same : after.issued = before.issued)
      (places : before.held.Perm (gone ++ after.held))
  | entered (next : after.issued = before.issued + 1)
      (places : (before.issued :: before.held).Perm (gone ++ after.held))

/-- Every token is held or excused. -/
def Account.Complete (account : Account) (excused : Nat → Prop) : Prop :=
  ∀ token, token < account.issued → token ∈ account.held ∨ excused token

variable {before after : Account} {gone : List Nat}

theorem Account.sound_empty : Account.Sound ⟨0, []⟩ where
  once := List.nodup_nil
  known := fun _ member => absurd member List.not_mem_nil

theorem Shift.sound (shift : Shift before after gone) (sound : before.Sound) :
    after.Sound := by
  cases shift with
  | moved same places =>
      have once := places.nodup_iff.mp sound.once
      refine ⟨once.of_append_right, ?_⟩
      intro token member
      rw [same]
      exact sound.known token (places.mem_iff.mpr (List.mem_append_right _ member))
  | entered next places =>
      have fresh : before.issued ∉ before.held := by
        intro member
        have below := sound.known _ member
        omega
      have once := places.nodup_iff.mp (List.nodup_cons.mpr ⟨fresh, sound.once⟩)
      refine ⟨once.of_append_right, ?_⟩
      intro token member
      have source := places.mem_iff.mpr (List.mem_append_right _ member)
      rcases List.mem_cons.mp source with same | old
      · omega
      · have below := sound.known token old
        omega

/-- A step that loses only what is excused afterwards keeps an account complete. -/
theorem Shift.complete {excused excuses : Nat → Prop}
    (shift : Shift before after gone) (complete : before.Complete excused)
    (kept : ∀ token, token < before.issued → excused token → excuses token)
    (lost : ∀ token ∈ gone, excuses token) : after.Complete excuses := by
  have split : ∀ token, token ∈ gone ++ after.held →
      token ∈ after.held ∨ excuses token := by
    intro token member
    rcases List.mem_append.mp member with left | held
    · exact .inr (lost token left)
    · exact .inl held
  cases shift with
  | moved same places =>
      intro token below
      rw [same] at below
      rcases complete token below with held | excuse
      · exact split token (places.mem_iff.mp held)
      · exact .inr (kept token below excuse)
  | entered next places =>
      intro token below
      rw [next] at below
      by_cases newest : token = before.issued
      · rw [newest]
        exact split _ (places.mem_iff.mp (List.mem_cons_self ..))
      · have old : token < before.issued := by
          omega
        rcases complete token old with held | excuse
        · exact split token (places.mem_iff.mp (List.mem_cons_of_mem _ held))
        · exact .inr (kept token old excuse)

/-- A token that an account holds once is in one of its places, and not in two. -/
theorem Account.Sound.count_eq_one {account : Account} (sound : account.Sound)
    {token : Nat} (held : token ∈ account.held) : account.held.count token = 1 :=
  List.count_eq_one_of_mem sound.once held

end Custody
