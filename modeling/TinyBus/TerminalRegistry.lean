/-
The instances that a module image has admitted.  An instance has a slot, and a token of the
slot and its generation stands for it in foreign code; the slot is free again once nobody
owns the state of the instance any more.
-/

import TinyBus.Library.Table
import TinyBus.Library.Transition
import Mathlib.Data.Fintype.Basic
import Mathlib.Data.Fintype.Card
import Mathlib.Data.List.FinRange
import Mathlib.Logic.Function.Basic

namespace TinyBus

open TransitionSystem

namespace Terminal

def instanceLimit : Nat := 256

/-- The largest `usize`. -/
def usizeMax : Nat := 2 ^ 64 - 1

structure Slot where
  reserved : Bool
  exhausted : Bool
  generation : Nat
  anchor : Option Nat

def Slot.default : Slot := { reserved := false, exhausted := false, generation := 0, anchor := none }

abbrev Slots := Fin instanceLimit → Slot

/-- The state of an admitted instance.  `owners` counts the strong references to it beside
the anchor in its slot; `leased` says that the lease of its slot has not been dropped. -/
structure Instance where
  index : Fin instanceLimit
  token : Nat
  owners : Nat
  leased : Bool
deriving DecidableEq

/-- The slots, and every instance that was ever admitted. -/
structure Registry where
  slots : Slots
  instances : Table Nat Instance
  nextId : Nat

def packToken (generation : Nat) (index : Fin instanceLimit) : Nat :=
  generation <<< 8 ||| index.val

def tokenIndex (token : Nat) : Fin instanceLimit :=
  ⟨token &&& (instanceLimit - 1), by
    have small : instanceLimit - 1 = 2 ^ 8 - 1 := by decide
    rw [small, Nat.and_two_pow_sub_one_eq_mod]
    exact Nat.mod_lt _ (by decide)⟩

namespace Registry

def new : Registry := { slots := fun _ => .default, instances := ∅, nextId := 0 }

/-! ### The operations -/

/-- The first slot that can be given out, with its next generation.  A slot that has no
generation left is marked on the way. -/
def scan (slots : Slots) : List (Fin instanceLimit) → Option (Fin instanceLimit) × Slots
  | [] => (none, slots)
  | index :: rest =>
      let slot := slots index
      if slot.reserved || slot.exhausted then scan slots rest
      else if slot.generation + 1 ≤ usizeMax >>> 8 then
        (some index, Function.update slots index { slot with generation := slot.generation + 1 })
      else scan (Function.update slots index { slot with exhausted := true }) rest

def admitIn (registry : Registry) : Option Nat × Registry :=
  match scan registry.slots (List.finRange instanceLimit) with
  | (none, slots) => (none, { registry with slots := slots })
  | (some index, slots) =>
      let token := packToken (slots index).generation index
      let id := registry.nextId
      (some id,
        { slots := Function.update slots index
            { slots index with reserved := true, anchor := some id }
          instances := registry.instances.insert id
            { index := index, token := token, owners := 1, leased := true }
          nextId := registry.nextId + 1 })

def own (registry : Registry) (id : Nat) : Registry :=
  { registry with
    instances := registry.instances.modify id (fun entry =>
      { entry with owners := entry.owners + 1 }) }

/-- The instance that a token is found to stand for; its finder becomes an owner. -/
def lookup (registry : Registry) (token : Nat) : Option Nat :=
  let generation := token >>> 8
  if generation = 0 then none
  else
    let slot := registry.slots (tokenIndex token)
    if slot.generation ≠ generation then none
    else slot.anchor.filter (fun id =>
      (registry.instances.lookup id).any (fun entry => decide (entry.token = token)))

/-- What is in the slot of an instance is given to the caller, who drops it later. -/
def takeAnchor (registry : Registry) (entry : Instance) : Registry :=
  let slot := registry.slots entry.index
  let left := { registry with
    slots := Function.update registry.slots entry.index { slot with anchor := none } }
  match slot.anchor with
  | some anchored => left.own anchored
  | none => left

def reanchor (registry : Registry) (id : Nat) (entry : Instance) : Registry :=
  let slot := registry.slots entry.index
  if slot.generation = entry.token >>> 8 ∧ slot.anchor = none then
    { registry with
      slots := Function.update registry.slots entry.index { slot with anchor := some id } }
  else registry

def disown (registry : Registry) (id : Nat) : Registry :=
  { registry with
    instances := registry.instances.modify id (fun entry =>
      { entry with owners := entry.owners - 1 }) }

/-- The drop of a lease, with the state that held it. -/
def dropLease (registry : Registry) (id : Nat) (entry : Instance) : Registry :=
  { registry with
    slots := Function.update registry.slots entry.index
      { registry.slots entry.index with reserved := false }
    instances := registry.instances.modify id (fun entry => { entry with leased := false }) }

def Anchored (registry : Registry) (id : Nat) (entry : Instance) : Prop :=
  (registry.slots entry.index).anchor = some id

instance (registry : Registry) (id : Nat) (entry : Instance) :
    Decidable (registry.Anchored id entry) :=
  inferInstanceAs (Decidable (_ = _))

/-! ### Histories -/

inductive Event where
  | admitIn
  -- Another strong reference, from one or from a weak one.
  | clone (id : Nat)
  | lookup (token : Nat)
  | retire (id : Nat)
  | reanchor (id : Nat)
  | drop (id : Nat)
  | dropLease (id : Nat)

def onInstance (registry : Registry) (id : Nat) (act : Instance → Registry) : Registry :=
  match registry.instances.lookup id with
  | some entry => act entry
  | none => registry

def next (registry : Registry) : Event → Registry
  | .admitIn => registry.admitIn.2
  | .clone id => registry.own id
  | .lookup token =>
      match registry.lookup token with
      | some id => registry.own id
      | none => registry
  | .retire id => registry.onInstance id registry.takeAnchor
  | .reanchor id => registry.onInstance id (registry.reanchor id)
  | .drop id => registry.disown id
  | .dropLease id => registry.onInstance id (registry.dropLease id)

def Held (registry : Registry) (id : Nat) : Prop :=
  ∃ entry, registry.instances.lookup id = some entry ∧ 0 < entry.owners

/-- The state of the instance still has an owner, be it its slot. -/
def Retained (registry : Registry) (id : Nat) : Prop :=
  ∃ entry, registry.instances.lookup id = some entry ∧
    (0 < entry.owners ∨ registry.Anchored id entry)

/-- The last owner is gone, and the lease with it not yet. -/
def Dying (registry : Registry) (id : Nat) : Prop :=
  ∃ entry, registry.instances.lookup id = some entry ∧ entry.leased = true ∧
    entry.owners = 0 ∧ ¬ registry.Anchored id entry

/-- Only who holds a state can retire it, anchor it again or drop it, and its lease is
dropped after the last reference. -/
def Possible (registry : Registry) : Event → Prop
  | .admitIn | .lookup _ => True
  | .clone id => registry.Retained id
  | .retire id | .reanchor id | .drop id => registry.Held id
  | .dropLease id => registry.Dying id

instance (registry : Registry) (id : Nat) : Decidable (registry.Held id) :=
  inferInstanceAs (Decidable (∃ entry ∈ registry.instances.lookup id, 0 < entry.owners))

instance (registry : Registry) (id : Nat) : Decidable (registry.Retained id) :=
  inferInstanceAs (Decidable (∃ entry ∈ registry.instances.lookup id,
    0 < entry.owners ∨ registry.Anchored id entry))

instance (registry : Registry) (id : Nat) : Decidable (registry.Dying id) :=
  inferInstanceAs (Decidable (∃ entry ∈ registry.instances.lookup id,
    entry.leased = true ∧ entry.owners = 0 ∧ ¬ registry.Anchored id entry))

instance (registry : Registry) (event : Event) : Decidable (registry.Possible event) := by
  cases event <;> unfold Possible <;> infer_instance

def system : System Registry Event :=
  (System.ofFunction (· = new) next).restrict Possible

end Registry

/-! ### Tokens -/

theorem packToken_eq (generation : Nat) (index : Fin instanceLimit) :
    packToken generation index = generation * instanceLimit + index.val := by
  have small : index.val < 2 ^ 8 := index.isLt
  unfold packToken
  rw [← Nat.shiftLeft_add_eq_or_of_lt small, Nat.shiftLeft_eq]
  rfl

theorem packToken_generation (generation : Nat) (index : Fin instanceLimit) :
    packToken generation index >>> 8 = generation := by
  have small : index.val < 2 ^ 8 := index.isLt
  rw [packToken_eq, Nat.shiftRight_eq_div_pow]
  unfold instanceLimit at *
  omega

theorem tokenIndex_packToken (generation : Nat) (index : Fin instanceLimit) :
    tokenIndex (packToken generation index) = index := by
  have small : index.val < 256 := index.isLt
  have mask : instanceLimit - 1 = 2 ^ 8 - 1 := by decide
  apply Fin.ext
  unfold tokenIndex
  dsimp only
  rw [mask, Nat.and_two_pow_sub_one_eq_mod, packToken_eq]
  unfold instanceLimit
  omega

theorem packToken_injective {left right : Nat} {here there : Fin instanceLimit}
    (same : packToken left here = packToken right there) : left = right ∧ here = there := by
  have generations := congrArg (· >>> 8) same
  have indices := congrArg tokenIndex same
  rw [packToken_generation, packToken_generation] at generations
  rw [tokenIndex_packToken, tokenIndex_packToken] at indices
  exact ⟨generations, indices⟩

namespace Registry

/-! ### The scan -/

structure Alike (before after : Slot) : Prop where
  reserved : after.reserved = before.reserved
  generation : after.generation = before.generation
  anchor : after.anchor = before.anchor

theorem Alike.refl (slot : Slot) : Alike slot slot := ⟨rfl, rfl, rfl⟩

theorem Alike.trans {first middle last : Slot} (early : Alike first middle)
    (late : Alike middle last) : Alike first last :=
  ⟨late.reserved.trans early.reserved, late.generation.trans early.generation,
    late.anchor.trans early.anchor⟩

structure Chosen (slots after : Slots) (chosen : Fin instanceLimit) : Prop where
  vacant : (slots chosen).reserved = false
  anchor : (after chosen).anchor = (slots chosen).anchor
  grown : (after chosen).generation = (slots chosen).generation + 1
  others : ∀ index, index ≠ chosen → Alike (slots index) (after index)

def Scanned (slots : Slots) (scanned : Option (Fin instanceLimit) × Slots) : Prop :=
  match scanned.1 with
  | none => ∀ index, Alike (slots index) (scanned.2 index)
  | some chosen => Chosen slots scanned.2 chosen

theorem Scanned.after {slots passed : Slots} {scanned : Option (Fin instanceLimit) × Slots}
    (marked : ∀ index, Alike (slots index) (passed index)) (later : Scanned passed scanned) :
    Scanned slots scanned := by
  unfold Scanned at later ⊢
  split
  · rename_i nothing
    rw [nothing] at later
    exact fun index => (marked index).trans (later index)
  · rename_i chosen found
    rw [found] at later
    exact ⟨(marked chosen).reserved.symm.trans later.vacant,
      later.anchor.trans (marked chosen).anchor,
      by rw [later.grown, (marked chosen).generation],
      fun index different => (marked index).trans (later.others index different)⟩

theorem scan_scanned (slots : Slots) (indices : List (Fin instanceLimit)) :
    Scanned slots (scan slots indices) := by
  induction indices generalizing slots with
  | nil => exact fun _ => .refl _
  | cons index rest ih =>
      unfold scan
      dsimp only
      by_cases taken : ((slots index).reserved || (slots index).exhausted) = true
      · rw [if_pos taken]
        exact ih slots
      · rw [if_neg taken]
        rw [Bool.or_eq_true, not_or, Bool.not_eq_true, Bool.not_eq_true] at taken
        by_cases room : (slots index).generation + 1 ≤ usizeMax >>> 8
        · rw [if_pos room]
          refine ⟨taken.1, ?_, ?_, ?_⟩
          · dsimp only
            rw [Function.update_self]
          · dsimp only
            rw [Function.update_self]
          · intro other different
            dsimp only
            rw [Function.update_of_ne different]
            exact .refl _
        · rw [if_neg room]
          refine Scanned.after ?_ (ih _)
          -- Only the mark of the exhausted slot has changed.
          intro other
          by_cases same : other = index
          · subst same
            rw [Function.update_self]
            exact ⟨rfl, rfl, rfl⟩
          · rw [Function.update_of_ne same]
            exact .refl _

/-! ### The invariant -/

/-- Tokens are unique, an instance that has its lease is the one of the last generation of
its slot, and an anchor is in the slot of its instance. -/
structure Sound (registry : Registry) : Prop where
  numbered : ∀ id entry, registry.instances.lookup id = some entry → id < registry.nextId
  packed : ∀ id entry, registry.instances.lookup id = some entry →
    ∃ generation, entry.token = packToken generation entry.index ∧ 0 < generation ∧
      generation ≤ (registry.slots entry.index).generation
  unique : ∀ id entry other another, registry.instances.lookup id = some entry →
    registry.instances.lookup other = some another → entry.token = another.token → id = other
  current : ∀ id entry, registry.instances.lookup id = some entry → entry.leased = true →
    (registry.slots entry.index).reserved = true ∧
      entry.token = packToken (registry.slots entry.index).generation entry.index
  anchored : ∀ index id, (registry.slots index).anchor = some id →
    ∃ entry, registry.instances.lookup id = some entry ∧ entry.index = index ∧
      entry.leased = true
  owned : ∀ id entry, registry.instances.lookup id = some entry → 0 < entry.owners →
    entry.leased = true

theorem new_sound : Sound new := by
  have nobody : ∀ {id entry}, new.instances.lookup id = some entry → False := by
    intro id entry found
    rw [show new.instances.lookup id = none from Table.lookup_empty id] at found
    cases found
  refine ⟨?_, ?_, ?_, ?_, ?_, ?_⟩
  · exact fun _ _ found => (nobody found).elim
  · exact fun _ _ found => (nobody found).elim
  · exact fun _ _ _ _ found => (nobody found).elim
  · exact fun _ _ found => (nobody found).elim
  · intro index id anchored
    cases anchored
  · exact fun _ _ found => (nobody found).elim

variable {registry : Registry}

variable {id : Nat} {entry : Instance}

theorem Sound.recount (sound : Sound registry) (count : Nat → Nat)
    (holders : ∀ entry, registry.instances.lookup id = some entry → 0 < count entry.owners →
      entry.leased = true) :
    Sound { registry with
      instances := registry.instances.modify id (fun entry =>
        { entry with owners := count entry.owners }) } := by
  -- An instance is what it was, but for its owners.
  have before : ∀ {other after}, (registry.instances.modify id (fun entry =>
      { entry with owners := count entry.owners })).lookup other = some after →
      ∃ entry, registry.instances.lookup other = some entry ∧ after.index = entry.index ∧
        after.token = entry.token ∧ after.leased = entry.leased ∧
        (0 < after.owners → entry.leased = true) := by
    intro other after found
    rw [Table.lookup_modify] at found
    split at found
    · rename_i same
      obtain ⟨entry, present, rfl⟩ := Option.map_eq_some_iff.mp found
      subst same
      exact ⟨entry, present, rfl, rfl, rfl, holders entry present⟩
    · exact ⟨after, found, rfl, rfl, rfl, sound.owned other after found⟩
  refine ⟨?_, ?_, ?_, ?_, ?_, ?_⟩
  · intro other after found
    obtain ⟨entry, present, _⟩ := before found
    exact sound.numbered other entry present
  · intro other after found
    obtain ⟨entry, present, index, token, _⟩ := before found
    rw [index, token]
    exact sound.packed other entry present
  · intro left after right another found found' same
    obtain ⟨entry, present, _, token, _⟩ := before found
    obtain ⟨entry', present', _, token', _⟩ := before found'
    exact sound.unique left entry right entry' present present' (by rw [← token, same, token'])
  · intro other after found leased
    obtain ⟨entry, present, index, token, lease, _⟩ := before found
    rw [index, token]
    exact sound.current other entry present (lease.symm.trans leased)
  · intro index other anchored
    obtain ⟨entry, present, placed, leased⟩ := sound.anchored index other anchored
    by_cases same : other = id
    · subst same
      refine ⟨{ entry with owners := count entry.owners }, ?_, placed, leased⟩
      dsimp only
      rw [Table.lookup_modify_self, present]
      rfl
    · refine ⟨entry, ?_, placed, leased⟩
      dsimp only
      rw [Table.lookup_modify_of_ne _ _ same]
      exact present
  · intro other after found holds
    obtain ⟨entry, present, _, _, lease, held⟩ := before found
    rw [lease]
    exact held holds

theorem Sound.own (sound : Sound registry)
    (retained : ∀ entry, registry.instances.lookup id = some entry → entry.leased = true) :
    Sound (registry.own id) :=
  sound.recount (· + 1) (fun entry found _ => retained entry found)

theorem Sound.disown (sound : Sound registry) (id : Nat) : Sound (registry.disown id) :=
  sound.recount (· - 1) (fun entry found holds => sound.owned id entry found (by omega))

theorem Sound.anchor (sound : Sound registry) (index : Fin instanceLimit)
    (anchor : Option Nat)
    (placed : ∀ id, anchor = some id → ∃ entry, registry.instances.lookup id = some entry ∧
      entry.index = index ∧ entry.leased = true) :
    Sound { registry with
      slots := Function.update registry.slots index
        { registry.slots index with anchor := anchor } } := by
  have kept : ∀ other, (Function.update registry.slots index
      { registry.slots index with anchor := anchor } other).reserved =
        (registry.slots other).reserved ∧
      (Function.update registry.slots index
        { registry.slots index with anchor := anchor } other).generation =
          (registry.slots other).generation := by
    intro other
    by_cases same : other = index
    · subst same
      rw [Function.update_self]
      exact ⟨rfl, rfl⟩
    · rw [Function.update_of_ne same]
      exact ⟨rfl, rfl⟩
  refine ⟨sound.numbered, ?_, sound.unique, ?_, ?_, sound.owned⟩
  · intro id entry found
    obtain ⟨generation, token, positive, old⟩ := sound.packed id entry found
    refine ⟨generation, token, positive, ?_⟩
    dsimp only
    rw [(kept entry.index).2]
    exact old
  · intro id entry found leased
    dsimp only
    rw [(kept entry.index).1, (kept entry.index).2]
    exact sound.current id entry found leased
  · intro other id anchored
    dsimp only at anchored
    by_cases same : other = index
    · subst same
      rw [Function.update_self] at anchored
      exact placed id anchored
    · rw [Function.update_of_ne same] at anchored
      exact sound.anchored other id anchored

theorem Sound.retained_leased (sound : Sound registry)
    (found : registry.instances.lookup id = some entry)
    (retained : 0 < entry.owners ∨ registry.Anchored id entry) : entry.leased = true := by
  rcases retained with holds | anchored
  · exact sound.owned id entry found holds
  · obtain ⟨same, present, _, leased⟩ := sound.anchored entry.index id anchored
    obtain rfl : same = entry := Option.some.inj (present.symm.trans found)
    exact leased

theorem Sound.leased_unique (sound : Sound registry) {left right : Nat}
    {here there : Instance} (found : registry.instances.lookup left = some here)
    (found' : registry.instances.lookup right = some there) (leased : here.leased = true)
    (leased' : there.leased = true) (same : here.index = there.index) : left = right := by
  apply sound.unique left here right there found found'
  rw [(sound.current left here found leased).2, (sound.current right there found' leased').2,
    same]

theorem Sound.takeAnchor (sound : Sound registry) (entry : Instance) :
    Sound (registry.takeAnchor entry) := by
  have left := sound.anchor entry.index none nofun
  unfold Registry.takeAnchor
  dsimp only
  split
  · rename_i anchored present
    apply left.own
    intro found lookup
    obtain ⟨same, lookup', _, leased⟩ := sound.anchored entry.index anchored present
    obtain rfl : same = found := Option.some.inj (lookup'.symm.trans lookup)
    exact leased
  · exact left

theorem Sound.reanchor (sound : Sound registry) (found : registry.instances.lookup id = some entry)
    (leased : entry.leased = true) :
    Sound (registry.reanchor id entry) := by
  unfold Registry.reanchor
  dsimp only
  split
  · apply sound.anchor entry.index (some id)
    intro other same
    obtain rfl := Option.some.inj same
    exact ⟨entry, found, rfl, leased⟩
  · exact sound

theorem Sound.dropLease (sound : Sound registry) (found : registry.instances.lookup id = some entry)
    (leased : entry.leased = true) (ownerless : entry.owners = 0)
    (retired : ¬ registry.Anchored id entry) :
    Sound (registry.dropLease id entry) := by
  -- Another instance is what it was, and this one has lost its lease.
  have before : ∀ {other after}, (registry.dropLease id entry).instances.lookup other =
      some after → ∃ old, registry.instances.lookup other = some old ∧
        after.index = old.index ∧ after.token = old.token ∧ after.owners = old.owners ∧
        (after.leased = true → other ≠ id ∧ old.leased = true) := by
    intro other after lookup
    unfold Registry.dropLease at lookup
    rw [Table.lookup_modify] at lookup
    split at lookup
    · rename_i same
      rw [found] at lookup
      obtain rfl := Option.some.inj lookup
      subst same
      exact ⟨entry, found, rfl, rfl, rfl, nofun⟩
    · rename_i different
      exact ⟨after, lookup, rfl, rfl, rfl, fun lease => ⟨different, lease⟩⟩
  have freed : ∀ index, index ≠ entry.index →
      (registry.dropLease id entry).slots index = registry.slots index := by
    intro index different
    exact Function.update_of_ne different _ _
  have kept : ∀ index,
      ((registry.dropLease id entry).slots index).generation =
        (registry.slots index).generation ∧
      ((registry.dropLease id entry).slots index).anchor = (registry.slots index).anchor := by
    intro index
    by_cases same : index = entry.index
    · subst same
      unfold Registry.dropLease
      dsimp only
      rw [Function.update_self]
      exact ⟨rfl, rfl⟩
    · rw [freed index same]
      exact ⟨rfl, rfl⟩
  refine ⟨?_, ?_, ?_, ?_, ?_, ?_⟩
  · intro other after lookup
    obtain ⟨old, present, _⟩ := before lookup
    exact sound.numbered other old present
  · intro other after lookup
    obtain ⟨old, present, index, token, _⟩ := before lookup
    rw [index, token, (kept old.index).1]
    exact sound.packed other old present
  · intro left after right another lookup lookup' same
    obtain ⟨old, present, _, token, _⟩ := before lookup
    obtain ⟨old', present', _, token', _⟩ := before lookup'
    exact sound.unique left old right old' present present' (by rw [← token, same, token'])
  · intro other after lookup lease
    obtain ⟨old, present, index, token, _, lease'⟩ := before lookup
    obtain ⟨different, lease'⟩ := lease' lease
    have elsewhere : old.index ≠ entry.index := fun same =>
      different (sound.leased_unique present found lease' leased same)
    rw [index, token, freed old.index elsewhere]
    exact sound.current other old present lease'
  · intro index other anchored
    rw [(kept index).2] at anchored
    obtain ⟨old, present, placed, lease⟩ := sound.anchored index other anchored
    have different : other ≠ id := by
      rintro rfl
      obtain rfl : old = entry := Option.some.inj (present.symm.trans found)
      subst placed
      exact retired anchored
    refine ⟨old, ?_, placed, lease⟩
    unfold Registry.dropLease
    dsimp only
    rw [Table.lookup_modify_of_ne _ _ different]
    exact present
  · intro other after lookup holds
    obtain ⟨old, present, _, _, owners, _⟩ := before lookup
    rw [owners] at holds
    have different : other ≠ id := by
      rintro rfl
      obtain rfl : old = entry := Option.some.inj (present.symm.trans found)
      omega
    unfold Registry.dropLease at lookup
    rw [Table.lookup_modify_of_ne _ _ different] at lookup
    obtain rfl : old = after := Option.some.inj (present.symm.trans lookup)
    exact sound.owned other old present holds

theorem Sound.alike (sound : Sound registry) {slots : Slots}
    (marked : ∀ index, Alike (registry.slots index) (slots index)) :
    Sound { registry with slots := slots } := by
  refine ⟨sound.numbered, ?_, sound.unique, ?_, ?_, sound.owned⟩
  · intro id entry found
    dsimp only
    rw [(marked entry.index).generation]
    exact sound.packed id entry found
  · intro id entry found leased
    dsimp only
    rw [(marked entry.index).reserved, (marked entry.index).generation]
    exact sound.current id entry found leased
  · intro index id anchored
    dsimp only at anchored
    rw [(marked index).anchor] at anchored
    exact sound.anchored index id anchored

theorem Sound.vacant (sound : Sound registry) {index : Fin instanceLimit}
    (vacant : (registry.slots index).reserved = false)
    (found : registry.instances.lookup id = some entry) (leased : entry.leased = true) :
    entry.index ≠ index := by
  rintro rfl
  have reserved := (sound.current id entry found leased).1
  rw [vacant] at reserved
  cases reserved

def admitted (registry : Registry) (slots : Slots) (index : Fin instanceLimit) : Registry :=
  { slots := Function.update slots index
      { slots index with reserved := true, anchor := some registry.nextId }
    instances := registry.instances.insert registry.nextId
      { index := index, token := packToken (slots index).generation index, owners := 1,
        leased := true }
    nextId := registry.nextId + 1 }

theorem Sound.admitted (sound : Sound registry) {slots : Slots}
    {index : Fin instanceLimit} (chosen : Chosen registry.slots slots index) :
    Sound (registry.admitted slots index) := by
  let fresh : Instance :=
    { index := index, token := packToken (slots index).generation index, owners := 1,
      leased := true }
  have cases : ∀ {id entry}, (registry.admitted slots index).instances.lookup id =
      some entry → (id = registry.nextId ∧ entry = fresh) ∨
        (id ≠ registry.nextId ∧ registry.instances.lookup id = some entry) := by
    intro id entry found
    unfold Registry.admitted at found
    rw [Table.lookup_insert_eq] at found
    split at found
    · exact .inl ⟨‹_›, (Option.some.inj found).symm⟩
    · exact .inr ⟨‹_›, found⟩
  have same : (registry.admitted slots index).slots index =
      { slots index with reserved := true, anchor := some registry.nextId } :=
    Function.update_self _ _ _
  have others : ∀ {other}, other ≠ index →
      Alike (registry.slots other) ((registry.admitted slots index).slots other) := by
    intro other different
    have kept : (registry.admitted slots index).slots other = slots other :=
      Function.update_of_ne different _ _
    rw [kept]
    exact chosen.others other different
  -- The token of an older instance of the slot has an older generation.
  have older : ∀ {id entry}, registry.instances.lookup id = some entry →
      entry.token ≠ fresh.token := by
    intro id entry found equal
    obtain ⟨generation, token, _, old⟩ := sound.packed id entry found
    have unpacked := packToken_injective (token.symm.trans equal)
    rw [unpacked.2] at old
    have grown := chosen.grown
    omega
  refine ⟨?_, ?_, ?_, ?_, ?_, ?_⟩
  · intro id entry found
    change id < registry.nextId + 1
    rcases cases found with ⟨rfl, _⟩ | ⟨_, present⟩
    · exact Nat.lt_succ_self _
    · exact Nat.lt_succ_of_lt (sound.numbered id entry present)
  · intro id entry found
    rcases cases found with ⟨_, rfl⟩ | ⟨_, present⟩
    · change ∃ generation, packToken (slots index).generation index =
        packToken generation index ∧ 0 < generation ∧
          generation ≤ ((registry.admitted slots index).slots index).generation
      rw [same]
      have grown := chosen.grown
      exact ⟨(slots index).generation, rfl, by omega, Nat.le_refl _⟩
    · obtain ⟨generation, token, positive, old⟩ := sound.packed id entry present
      refine ⟨generation, token, positive, ?_⟩
      by_cases reused : entry.index = index
      · rw [reused] at old ⊢
        have grown := chosen.grown
        rw [same]
        dsimp only
        omega
      · rw [(others reused).generation]
        exact old
  · intro left entry right another found found' equal
    rcases cases found with ⟨rfl, rfl⟩ | ⟨_, present⟩ <;>
      rcases cases found' with ⟨rfl, rfl⟩ | ⟨_, present'⟩
    · rfl
    · exact (older present' equal.symm).elim
    · exact (older present equal).elim
    · exact sound.unique left entry right another present present' equal
  · intro id entry found leased
    rcases cases found with ⟨_, rfl⟩ | ⟨_, present⟩
    · change ((registry.admitted slots index).slots index).reserved = true ∧
        packToken (slots index).generation index =
          packToken ((registry.admitted slots index).slots index).generation index
      rw [same]
      exact ⟨rfl, rfl⟩
    · have elsewhere := others (sound.vacant chosen.vacant present leased)
      rw [elsewhere.reserved, elsewhere.generation]
      exact sound.current id entry present leased
  · intro other id anchored
    by_cases reused : other = index
    · subst reused
      rw [same] at anchored
      obtain rfl := Option.some.inj anchored
      refine ⟨fresh, ?_, rfl, rfl⟩
      exact AList.lookup_insert _
    · rw [(others reused).anchor] at anchored
      obtain ⟨entry, present, placed, leased⟩ := sound.anchored other id anchored
      refine ⟨entry, ?_, placed, leased⟩
      unfold Registry.admitted
      dsimp only
      rw [Table.lookup_insert_eq, if_neg (Nat.ne_of_lt (sound.numbered id entry present))]
      exact present
  · intro id entry found holds
    rcases cases found with ⟨_, rfl⟩ | ⟨_, present⟩
    · rfl
    · exact sound.owned id entry present holds

theorem admitIn_cases (registry : Registry) :
    (registry.admitIn.1 = none ∧
      (∀ index, Alike (registry.slots index) (registry.admitIn.2.slots index)) ∧
      registry.admitIn.2 = { registry with slots := registry.admitIn.2.slots }) ∨
    ∃ slots index, registry.admitIn = (some registry.nextId, registry.admitted slots index) ∧
      Chosen registry.slots slots index := by
  have scanned := scan_scanned registry.slots (List.finRange instanceLimit)
  unfold Registry.admitIn
  generalize scan registry.slots (List.finRange instanceLimit) = result at scanned
  obtain ⟨chosen, slots⟩ := result
  cases chosen with
  | none => exact .inl ⟨rfl, scanned, rfl⟩
  | some index => exact .inr ⟨slots, index, rfl, scanned⟩

theorem Sound.admitIn (sound : Sound registry) : Sound registry.admitIn.2 := by
  rcases registry.admitIn_cases with ⟨_, marked, after⟩ | ⟨slots, index, after, chosen⟩
  · rw [after]
    exact sound.alike marked
  · rw [after]
    exact sound.admitted chosen

/-- The instance was given this token. -/
def Minted (registry : Registry) (token id : Nat) : Prop :=
  ∃ entry, registry.instances.lookup id = some entry ∧ entry.token = token

theorem lookup_found {token : Nat} (found : registry.lookup token = some id) :
    ∃ entry, registry.instances.lookup id = some entry ∧ entry.token = token ∧
      (registry.slots (tokenIndex token)).anchor = some id := by
  unfold Registry.lookup at found
  dsimp only at found
  split at found
  · cases found
  · split at found
    · cases found
    · obtain ⟨anchored, passed⟩ := Option.filter_eq_some_iff.mp found
      obtain ⟨entry, present, same⟩ := (Option.any_eq_true _ _).mp passed
      exact ⟨entry, present, of_decide_eq_true same, anchored⟩

theorem onInstance_found (act : Instance → Registry)
    (found : registry.instances.lookup id = some entry) :
    registry.onInstance id act = act entry := by
  unfold onInstance
  rw [found]

theorem Sound.next (sound : Sound registry) {event : Event}
    (possible : registry.Possible event) : Sound (registry.next event) := by
  cases event with
  | admitIn => exact sound.admitIn
  | clone id =>
      obtain ⟨entry, found, retained⟩ := possible
      apply sound.own
      intro same found'
      obtain rfl : entry = same := Option.some.inj (found.symm.trans found')
      exact sound.retained_leased found retained
  | lookup token =>
      unfold Registry.next
      dsimp only
      split
      · rename_i id found
        obtain ⟨entry, present, _, anchored⟩ := lookup_found found
        apply sound.own
        intro same found'
        obtain ⟨other, lookup, _, leased⟩ := sound.anchored _ id anchored
        obtain rfl : other = same := Option.some.inj (lookup.symm.trans found')
        exact leased
      · exact sound
  | retire id =>
      obtain ⟨entry, found, _⟩ := possible
      change Sound (registry.onInstance id registry.takeAnchor)
      rw [onInstance_found _ found]
      exact sound.takeAnchor entry
  | reanchor id =>
      obtain ⟨entry, found, holds⟩ := possible
      change Sound (registry.onInstance id (registry.reanchor id))
      rw [onInstance_found _ found]
      exact sound.reanchor found (sound.owned id entry found holds)
  | drop id => exact sound.disown id
  | dropLease id =>
      obtain ⟨entry, found, leased, ownerless, retired⟩ := possible
      change Sound (registry.onInstance id (registry.dropLease id))
      rw [onInstance_found _ found]
      exact sound.dropLease found leased ownerless retired

theorem reachable_sound (reached : system.Reachable registry) : Sound registry := by
  refine reached.invariant ?_ ?_
  · rintro _ rfl
    exact new_sound
  · rintro before event _ ⟨possible, rfl⟩ sound
    exact sound.next possible

/-! ### Tokens are for good -/

def Extends (earlier later : Registry) : Prop :=
  ∀ token id, earlier.Minted token id → later.Minted token id

theorem Extends.refl (registry : Registry) : Extends registry registry := fun _ _ minted => minted

theorem Extends.trans {early middle late : Registry} (before : Extends early middle)
    (after : Extends middle late) : Extends early late :=
  fun token id minted => after token id (before token id minted)

theorem Extends.modify (slots : Slots) (id : Nat) (update : Instance → Instance)
    (kept : ∀ entry, (update entry).token = entry.token) :
    Extends registry { registry with
      slots := slots, instances := registry.instances.modify id update } := by
  rintro token other ⟨entry, found, rfl⟩
  unfold Minted
  dsimp only
  rw [Table.lookup_modify]
  by_cases same : other = id
  · subst same
    rw [if_pos rfl, found]
    exact ⟨update entry, rfl, kept entry⟩
  · rw [if_neg same]
    exact ⟨entry, found, rfl⟩

theorem Extends.own (id : Nat) : Extends registry (registry.own id) :=
  .modify registry.slots id _ (fun _ => rfl)

theorem Extends.takeAnchor (entry : Instance) : Extends registry (registry.takeAnchor entry) := by
  unfold Registry.takeAnchor
  dsimp only
  split
  · exact .modify _ _ _ (fun _ => rfl)
  · exact fun _ _ minted => minted

theorem Extends.reanchor (id : Nat) (entry : Instance) :
    Extends registry (registry.reanchor id entry) := by
  unfold Registry.reanchor
  dsimp only
  split
  · exact fun _ _ minted => minted
  · exact .refl registry

theorem Extends.admitIn (sound : Sound registry) : Extends registry registry.admitIn.2 := by
  rintro token id ⟨entry, found, same⟩
  rcases registry.admitIn_cases with ⟨_, _, after⟩ | ⟨slots, index, after, _⟩
  · rw [after]
    exact ⟨entry, found, same⟩
  · rw [after]
    refine ⟨entry, ?_, same⟩
    unfold admitted
    dsimp only
    rw [Table.lookup_insert_eq, if_neg (Nat.ne_of_lt (sound.numbered id entry found))]
    exact found

theorem Extends.next (sound : Sound registry) (event : Event) :
    Extends registry (registry.next event) := by
  have onInstance : ∀ id act, (∀ entry, Extends registry (act entry)) →
      Extends registry (registry.onInstance id act) := by
    intro id act each
    unfold Registry.onInstance
    split
    · exact each _
    · exact .refl registry
  cases event with
  | admitIn => exact .admitIn sound
  | clone id => exact .own id
  | lookup token =>
      unfold Registry.next
      dsimp only
      split
      · exact .own _
      · exact .refl registry
  | retire id => exact onInstance id _ .takeAnchor
  | reanchor id => exact onInstance id _ (.reanchor id)
  | drop id => exact .modify registry.slots id _ (fun _ => rfl)
  | dropLease id => exact onInstance id _ (fun _ => .modify _ id _ (fun _ => rfl))

theorem run_extends {first last : Registry} {events : List Event}
    (reached : system.Reachable first) (run : system.Run first events last) :
    Extends first last := by
  induction run with
  | nil => exact .refl first
  | @snoc middle _ earlier event before stepped ih =>
      obtain ⟨start, history, initial, past⟩ := reached
      have sound := reachable_sound ⟨start, history ++ earlier, initial, past.append before⟩
      have last : _ = middle.next event := stepped.2
      rw [last]
      exact ih.trans (.next sound event)

/-! ### What a registry promises -/

theorem Sound.card_le (sound : Sound registry) (ids : Finset Nat)
    (leased : ∀ id ∈ ids, ∃ entry, registry.instances.lookup id = some entry ∧
      entry.leased = true) : ids.card ≤ instanceLimit := by
  let place (id : Nat) : Option (Fin instanceLimit) :=
    (registry.instances.lookup id).map Instance.index
  have placed : ∀ id ∈ ids, ∃ entry, registry.instances.lookup id = some entry ∧
      entry.leased = true ∧ place id = some entry.index := by
    intro id member
    obtain ⟨entry, found, lease⟩ := leased id member
    refine ⟨entry, found, lease, ?_⟩
    change (registry.instances.lookup id).map Instance.index = _
    rw [found]
    rfl
  have onto : ∀ id ∈ ids, place id ∈ Finset.univ.image (some : Fin instanceLimit → _) := by
    intro id member
    obtain ⟨entry, _, _, at'⟩ := placed id member
    rw [at']
    exact Finset.mem_image_of_mem _ (Finset.mem_univ _)
  have injective : Set.InjOn place ids := by
    intro left member right member' same
    obtain ⟨here, found, lease, at'⟩ := placed left member
    obtain ⟨there, found', lease', at''⟩ := placed right member'
    rw [at', at''] at same
    exact sound.leased_unique found found' lease lease' (Option.some.inj same)
  calc
    ids.card ≤ (Finset.univ.image (some : Fin instanceLimit → _)).card :=
      Finset.card_le_card_of_injOn place onto injective
    _ ≤ (Finset.univ : Finset (Fin instanceLimit)).card := Finset.card_image_le
    _ = instanceLimit := Finset.card_fin instanceLimit

theorem Sound.leased (sound : Sound registry) (alive : registry.Retained id ∨ registry.Dying id) :
    ∃ entry, registry.instances.lookup id = some entry ∧ entry.leased = true := by
  rcases alive with ⟨entry, found, retained⟩ | ⟨entry, found, leased, _⟩
  · exact ⟨entry, found, sound.retained_leased found retained⟩
  · exact ⟨entry, found, leased⟩

theorem Sound.slot_free (sound : Sound registry) {later : Registry}
    (given : registry.admitIn = (some id, later)) (found : later.instances.lookup id = some entry)
    {other : Nat} {old : Instance} (present : registry.instances.lookup other = some old)
    (same : old.index = entry.index) :
    ¬ (registry.Retained other ∨ registry.Dying other) := by
  intro alive
  obtain ⟨again, present', leased⟩ := sound.leased alive
  obtain rfl : old = again := Option.some.inj (present.symm.trans present')
  rcases registry.admitIn_cases with ⟨refused, _⟩ | ⟨slots, index, after, chosen⟩
  · rw [given] at refused
    cases refused
  · rw [given] at after
    cases after
    have fresh : (registry.admitted slots index).instances.lookup registry.nextId = some _ :=
      AList.lookup_insert _
    obtain rfl := Option.some.inj (fresh.symm.trans found)
    exact sound.vacant chosen.vacant present leased same

theorem Sound.lookup_minted (sound : Sound registry) {token found : Nat}
    (answer : registry.lookup token = some found) :
    registry.Retained found ∧ ∀ id, registry.Minted token id ↔ id = found := by
  obtain ⟨entry, present, same, anchored⟩ := lookup_found answer
  obtain ⟨again, present', placed, _⟩ := sound.anchored _ found anchored
  obtain rfl : entry = again := Option.some.inj (present.symm.trans present')
  rw [← placed] at anchored
  refine ⟨⟨entry, present, .inr anchored⟩, fun id => ⟨?_, ?_⟩⟩
  · rintro ⟨other, lookup, token'⟩
    exact sound.unique id other found entry lookup present (token'.trans same.symm)
  · rintro rfl
    exact ⟨entry, present, same⟩

/-- No more instances than there are slots are alive, a slot is given out when the last owner
of the instance before is gone, and a token never stands for another instance than its own. -/
theorem tokens_never_stale (reached : system.Reachable registry) :
    (∀ ids : Finset Nat, (∀ id ∈ ids, registry.Retained id ∨ registry.Dying id) →
      ids.card ≤ instanceLimit) ∧
    (∀ id later, registry.admitIn = (some id, later) →
      ∀ entry, later.instances.lookup id = some entry →
        ∀ other old, registry.instances.lookup other = some old → old.index = entry.index →
          ¬ (registry.Retained other ∨ registry.Dying other)) ∧
    ∀ events later token found, system.Run registry events later →
      later.lookup token = some found →
        later.Minted token found ∧ later.Retained found ∧
          ∀ id, registry.Minted token id → id = found := by
  have sound := reachable_sound reached
  refine ⟨?_, ?_, ?_⟩
  · exact fun ids alive => sound.card_le ids (fun id member => sound.leased (alive id member))
  · exact fun id later given entry found other old present same =>
      sound.slot_free given found present same
  · intro events later token found run answer
    obtain ⟨first, history, initial, past⟩ := reached
    have later_sound := reachable_sound ⟨first, history ++ events, initial, past.append run⟩
    obtain ⟨retained, only⟩ := later_sound.lookup_minted answer
    exact ⟨(only found).mpr rfl, retained, fun id minted =>
      (only id).mp (run_extends ⟨first, history, initial, past⟩ run token id minted)⟩

def reuse : List Event :=
  [.admitIn, .retire 0, .drop 0, .drop 0, .dropLease 0, .admitIn]

def reused : Registry := reuse.foldl next new

theorem reused_tokens_never_stale :
    reused.lookup 512 = some 1 ∧ reused.lookup 256 ≠ some 1 := by
  have run : system.Run new reuse reused :=
    have decided (registry : Registry) (event : Event)
        (possible : decide (registry.Possible event) = true) : registry.Possible event :=
      of_decide_eq_true possible
    .of_checked decided (by decide +kernel)
  have answer : reused.lookup 512 = some 1 := by decide +kernel
  refine ⟨answer, fun stale => ?_⟩
  have promised := (tokens_never_stale ⟨new, reuse, rfl, run⟩).2.2
  have minted : reused.Minted 256 0 :=
    ⟨{ index := ⟨0, by decide⟩, token := 256, owners := 0, leased := false }, by
      decide +kernel, rfl⟩
  have same := (promised [] reused 256 1 .nil stale).2.2 0 minted
  cases same

end Registry

end Terminal

end TinyBus
