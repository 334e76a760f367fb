/-
Which entries a release archive may have together.  The tree accepts an entry exactly if
it is compatible with each one that was accepted before; so it accepts a whole archive
exactly if its entries are pairwise compatible, in whatever order they come.
-/

import Mathlib.Data.List.Induction
import TinyBus.ZipPaths

namespace TinyBus

namespace Zip

theorem Steps.split_of_prefix {steps : Steps} {path : List String}
    (above : path <+: steps.keys) (part : path ≠ steps.keys) :
    ∃ early step late, steps = early ++ step :: late ∧ Steps.keys early = path := by
  obtain ⟨more, whole⟩ := above
  obtain ⟨early, rest, rfl, rfl, below⟩ := List.map_eq_append_iff.mp whole.symm
  cases rest with
  | nil =>
      refine absurd ?_ part
      rw [List.append_nil]
      rfl
  | cons step late => exact ⟨early, step, late, rfl, rfl⟩

theorem Steps.shared_of_names {first second : Steps}
    (alike : ∀ early step late other name rest, first = early ++ step :: late →
      second = other ++ name :: rest → Steps.keys early = Steps.keys other →
      step.1 = name.1 → step.2 = name.2) :
    ∀ front other : Steps, front <+: first → other <+: second →
      front.keys = other.keys → front = other := by
  intro front
  induction front using List.reverseRecOn with
  | nil =>
      intro other _ _ same
      exact (List.map_eq_nil_iff.mp same.symm).symm
  | append_singleton early step ih =>
      intro other within withinOther same
      obtain ⟨late, whole⟩ := within
      rw [Steps.keys_append] at same
      obtain ⟨start, last, rfl, keys, ends⟩ := List.map_eq_append_iff.mp same.symm
      obtain ⟨name, rest, rfl, sameName, none⟩ := List.map_eq_cons_iff.mp ends
      obtain rfl := List.map_eq_nil_iff.mp none
      obtain ⟨more, wholeOther⟩ := withinOther
      rw [List.append_assoc] at whole wholeOther
      have spelled := alike early step late start name more whole.symm wholeOther.symm
        keys.symm sameName.symm
      have before := ih start ⟨_, whole⟩ ⟨_, wholeOther⟩ keys.symm
      rw [before, Prod.ext sameName.symm spelled]

namespace PathNode

variable {node : PathNode} {isDir : Bool} {steps : Steps} {entries : List Entry}

theorem admits_iff : node.Admits isDir steps ↔
    (∀ early step late, steps = early ++ step :: late →
      node.mark (Steps.keys early) ≠ some false ∧
      ∀ spelling, node.spelled (Steps.keys early) step.1 = some spelling → spelling = step.2) ∧
    node.mark steps.keys = none ∧
    (isDir = true ∨ ∀ name, node.spelled steps.keys name = none) := by
  induction steps generalizing node with
  | nil =>
      have childless : node.children = [] ↔ ∀ name, node.spelled (Steps.keys []) name = none := by
        rw [children_nil_iff]
        exact forall_congr' fun name => Option.map_eq_none_iff.symm
      unfold Admits Vacant
      rw [childless]
      constructor
      · intro vacant
        refine ⟨?_, vacant⟩
        intro early step late split
        exact absurd split.symm (by simp)
      · exact fun room => room.2
  | cons step rest ih =>
      unfold Admits
      rw [ih, Steps.keys_cons, mark_cons step.2]
      simp only [spelled_cons step.2]
      constructor
      · rintro ⟨opened, own, below, free⟩
        refine ⟨?_, free⟩
        intro early other late split
        cases early with
        | nil =>
            obtain ⟨rfl, _⟩ := List.cons.inj split
            refine ⟨opened, ?_⟩
            intro spelling spelt
            obtain ⟨child, found, rfl⟩ := Option.map_eq_some_iff.mp spelt
            unfold childOr at own
            rw [found] at own
            exact own
        | cons first early =>
            obtain ⟨rfl, inside⟩ := List.cons.inj split
            rw [Steps.keys_cons, mark_cons step.2]
            simp only [spelled_cons step.2]
            exact below early other late inside
      · rintro ⟨above, free⟩
        refine ⟨(above [] step rest rfl).1, ?_, ?_, free⟩
        · unfold childOr
          cases found : node.child step.1 with
          | none => rfl
          | some child =>
              refine (above [] step rest rfl).2 child.spelling ?_
              change (node.child step.1).map PathChild.spelling = _
              rw [found]
              rfl
        · intro early other late split
          have whole := above (step :: early) other late (by rw [split]; rfl)
          rw [Steps.keys_cons, mark_cons step.2] at whole
          simp only [spelled_cons step.2] at whole
          exact whole

structure Holds (node : PathNode) (entries : List Entry) : Prop where
  marked : ∀ path kind, node.mark path = some kind ↔
    ∃ entry ∈ entries, entry.steps.keys = path ∧ entry.isDir = kind
  written : ∀ entry ∈ entries, ∀ early step late, entry.steps = early ++ step :: late →
    node.spelled (Steps.keys early) step.1 = some step.2

def Exact (node : PathNode) (entries : List Entry) : Prop :=
  ∀ path name spelling, node.spelled path name = some spelling →
    ∃ entry ∈ entries, ∃ early late, entry.steps = early ++ (name, spelling) :: late ∧
      path = Steps.keys early

theorem Holds.empty : Holds .empty [] where
  marked := by
    intro path kind
    rw [mark_empty]
    constructor
    · exact nofun
    · rintro ⟨entry, among, _⟩
      cases among
  written := fun entry among => nomatch among

theorem Exact.empty : Exact .empty [] := by
  intro path name spelling spelt
  rw [spelled_empty] at spelt
  cases spelt

theorem Holds.compatible (holds : Holds node entries) (admits : node.Admits isDir steps)
    {entry : Entry} (among : entry ∈ entries) : Compatible entry ⟨steps, isDir⟩ := by
  obtain ⟨above, free, below⟩ := admits_iff.mp admits
  have marked : node.mark entry.steps.keys = some entry.isDir :=
    (holds.marked _ _).mpr ⟨entry, among, rfl, rfl⟩
  have distinct : entry.steps.keys ≠ steps.keys := by
    intro same
    rw [same, free] at marked
    cases marked
  refine ⟨distinct, ?_, ?_, ?_⟩
  · refine Steps.shared_of_names ?_
    intro early step late other name rest split splitOther keys named
    refine (above other name rest splitOther).2 step.2 ?_
    rw [← keys, ← named]
    exact holds.written entry among early step late split
  · intro file within
    obtain ⟨early, step, late, split, keys⟩ := Steps.split_of_prefix within distinct
    rw [file, ← keys] at marked
    exact (above early step late split).1 marked
  · intro file within
    obtain ⟨early, step, late, split, keys⟩ := Steps.split_of_prefix within distinct.symm
    rcases below with dir | none
    · rw [dir] at file
      cases file
    · have written := holds.written entry among early step late split
      rw [keys, none] at written
      cases written

theorem Holds.admits (holds : Holds node entries) (complete : Exact node entries)
    (compatible : ∀ entry ∈ entries, Compatible entry ⟨steps, isDir⟩) :
    node.Admits isDir steps := by
  refine admits_iff.mpr ⟨?_, ?_, ?_⟩
  · intro early step late split
    refine ⟨?_, ?_⟩
    · intro marked
      obtain ⟨entry, among, keys, file⟩ := (holds.marked _ _).mp marked
      refine (compatible entry among).file file ?_
      rw [keys, split, Steps.keys_append]
      exact List.prefix_append _ _
    · intro spelling spelt
      obtain ⟨entry, among, front, rest, whole, keys⟩ := complete _ _ _ spelt
      have same := (compatible entry among).spelled (front ++ [(step.1, spelling)])
        (early ++ [step]) ⟨rest, by rw [whole, List.append_assoc]; rfl⟩
        ⟨late, by rw [split, List.append_assoc]; rfl⟩
        (by rw [Steps.keys_append, Steps.keys_append, keys]; rfl)
      have last := (List.append_inj' same rfl).2
      exact congrArg Prod.snd (List.singleton_inj.mp last)
  · cases marked : node.mark steps.keys with
    | none => rfl
    | some kind =>
        obtain ⟨entry, among, keys, _⟩ := (holds.marked _ _).mp marked
        exact absurd keys (compatible entry among).distinct
  · cases isDir with
    | true => exact .inl rfl
    | false =>
        refine .inr ?_
        intro name
        cases spelt : node.spelled steps.keys name with
        | none => rfl
        | some spelling =>
            obtain ⟨entry, among, front, rest, whole, keys⟩ := complete _ _ _ spelt
            refine absurd ?_ ((compatible entry among).fileOther rfl)
            rw [keys, whole, Steps.keys_append]
            exact List.prefix_append _ _

section Insert

variable {folding : Folding} {maxBytes bytes : Nat} {components : List Component}

theorem Holds.rejected (holds : Holds node entries)
    (rejected : (node.insert folding isDir maxBytes components bytes).outcome ≠ .ok true) :
    Holds (node.insert folding isDir maxBytes components bytes).node entries where
  marked := by
    intro path kind
    rw [insert_keeps_mark rejected]
    exact holds.marked path kind
  written := fun entry among early step late split =>
    insert_keeps_spelled (holds.written entry among early step late split)

theorem Holds.accepted (holds : Holds node entries)
    (accepts : Accepts isDir maxBytes node bytes steps
      (node.insert folding isDir maxBytes components bytes)) :
    Holds (node.insert folding isDir maxBytes components bytes).node
      (⟨steps, isDir⟩ :: entries) where
  marked := by
    intro path kind
    rw [accepts.marked]
    by_cases here : path = steps.keys
    · rw [if_pos here]
      constructor
      · intro same
        cases same
        exact ⟨_, List.mem_cons_self, here.symm, rfl⟩
      · rintro ⟨entry, among, keys, same⟩
        rcases List.mem_cons.mp among with rfl | before
        · rw [← same]
        · exact absurd (keys.trans here) (holds.compatible accepts.admits before).distinct
    · rw [if_neg here, holds.marked]
      constructor
      · rintro ⟨entry, among, keys, same⟩
        exact ⟨entry, List.mem_cons_of_mem _ among, keys, same⟩
      · rintro ⟨entry, among, keys, same⟩
        rcases List.mem_cons.mp among with rfl | before
        · exact absurd keys.symm here
        · exact ⟨entry, before, keys, same⟩
  written := by
    intro entry among early step late split
    rcases List.mem_cons.mp among with rfl | before
    · exact accepts.written early step late split
    · exact insert_keeps_spelled (holds.written entry before early step late split)

theorem Exact.accepted (complete : Exact node entries)
    (accepts : Accepts isDir maxBytes node bytes steps
      (node.insert folding isDir maxBytes components bytes)) :
    Exact (node.insert folding isDir maxBytes components bytes).node
      (⟨steps, isDir⟩ :: entries) := by
  intro path name spelling spelt
  rcases accepts.only path name spelling spelt with before | ⟨early, late, split, keys⟩
  · obtain ⟨entry, among, found⟩ := complete path name spelling before
    exact ⟨entry, List.mem_cons_of_mem _ among, found⟩
  · exact ⟨_, List.mem_cons_self, early, late, split, keys⟩

end Insert

end PathNode

namespace PathTree

variable {folding : Folding} {maxBytes : Nat} {tree : PathTree} {offer : Offer}
  {entries : List Entry}

def cost (folding : Folding) (offer : Offer) : Nat :=
  offer.nameBytes + ((folding.entry offer).map (fun entry => entry.steps.bytes)).getD 0

theorem offer_rejected (holds : tree.node.Holds entries)
    (rejected : (tree.offer folding maxBytes offer).2 ≠ .ok true) :
    (tree.offer folding maxBytes offer).1.node.Holds entries := by
  unfold PathTree.offer at rejected ⊢
  split
  · exact holds
  · rename_i bytes counted
    rw [counted] at rejected
    dsimp only at rejected ⊢
    split
    · exact holds
    · rename_i within
      rw [if_neg within] at rejected
      exact holds.rejected rejected

structure Takes (folding : Folding) (maxBytes : Nat) (tree : PathTree) (offer : Offer)
    (entries : List Entry) (entry : Entry) : Prop where
  resolves : folding.entry offer = some entry
  compatible : ∀ earlier ∈ entries, Compatible earlier entry
  holds : (tree.offer folding maxBytes offer).1.node.Holds (entry :: entries)
  complete : tree.node.Exact entries →
    (tree.offer folding maxBytes offer).1.node.Exact (entry :: entries)
  total : (tree.offer folding maxBytes offer).1.bytes = tree.bytes + cost folding offer
  counted : Counted maxBytes (tree.bytes + cost folding offer)

theorem offer_accepted (holds : tree.node.Holds entries)
    (accepted : (tree.offer folding maxBytes offer).2 = .ok true) :
    ∃ entry, Takes folding maxBytes tree offer entries entry := by
  have named : Counted maxBytes (tree.bytes + offer.nameBytes) ∧
      tree.offer folding maxBytes offer =
        let inserted := tree.node.insert folding offer.isDir maxBytes offer.path
          (tree.bytes + offer.nameBytes)
        (⟨inserted.node, inserted.bytes⟩, inserted.outcome) := by
    unfold PathTree.offer checkedAdd at accepted ⊢
    by_cases fits : tree.bytes + offer.nameBytes < 2 ^ 64
    · rw [if_pos fits] at accepted ⊢
      dsimp only at accepted ⊢
      by_cases concluded : maxBytes < tree.bytes + offer.nameBytes
      · rw [if_pos concluded] at accepted
        cases accepted
      · rw [if_neg concluded]
        exact ⟨⟨fits, Nat.not_lt.mp concluded⟩, rfl⟩
    · rw [if_neg fits] at accepted
      cases accepted
  obtain ⟨counted, same⟩ := named
  rw [same] at accepted
  obtain ⟨steps, resolved, accepts⟩ := PathNode.insert_accepts accepted
  have entry : folding.entry offer = some ⟨steps, offer.isDir⟩ := by
    unfold Folding.entry
    rw [resolved]
    rfl
  have total : tree.bytes + cost folding offer =
      tree.bytes + offer.nameBytes + steps.bytes := by
    unfold cost
    rw [entry, Nat.add_assoc]
    rfl
  refine ⟨⟨steps, offer.isDir⟩, entry, ?_, ?_, ?_, ?_, ?_⟩
  · exact fun earlier among => holds.compatible accepts.admits among
  · rw [same]
    exact holds.accepted accepts
  · rw [same]
    exact fun complete => complete.accepted accepts
  · rw [same, total]
    exact accepts.total
  · rw [total]
    exact accepts.counted counted

theorem offer_of_compatible {entry : Entry} (holds : tree.node.Holds entries)
    (complete : tree.node.Exact entries) (resolved : folding.entry offer = some entry)
    (compatible : ∀ earlier ∈ entries, Compatible earlier entry)
    (counted : Counted maxBytes (tree.bytes + cost folding offer)) :
    (tree.offer folding maxBytes offer).2 = .ok true := by
  obtain ⟨steps, stepped, rfl⟩ := Option.map_eq_some_iff.mp resolved
  have total : tree.bytes + cost folding offer =
      tree.bytes + offer.nameBytes + steps.bytes := by
    unfold cost
    rw [resolved, Nat.add_assoc]
    rfl
  rw [total] at counted
  have fits : tree.bytes + offer.nameBytes < 2 ^ 64 :=
    Nat.lt_of_le_of_lt (Nat.le_add_right _ _) counted.1
  have within : ¬ maxBytes < tree.bytes + offer.nameBytes :=
    Nat.not_lt.mpr (Nat.le_trans (Nat.le_add_right _ _) counted.2)
  unfold PathTree.offer checkedAdd
  rw [if_pos fits]
  dsimp only
  rw [if_neg within]
  exact PathNode.insert_of_admits stepped (holds.admits complete compatible) counted

/-- Entries that resolve to folded paths, and are pairwise compatible. -/
def Apart (folding : Folding) (offers : List Offer) : Prop :=
  (∀ offer ∈ offers, (folding.entry offer).isSome) ∧
    (offers.filterMap folding.entry).Pairwise Compatible

def Beside (folding : Folding) (entries : List Entry) (offers : List Offer) : Prop :=
  ∀ earlier ∈ entries, ∀ entry ∈ offers.filterMap folding.entry, Compatible earlier entry

theorem apart_cons_iff {entry : Entry} {rest : List Offer}
    (resolved : folding.entry offer = some entry) :
    Apart folding (offer :: rest) ∧ Beside folding entries (offer :: rest) ↔
      (∀ earlier ∈ entries, Compatible earlier entry) ∧
        Apart folding rest ∧ Beside folding (entry :: entries) rest := by
  unfold Apart Beside
  rw [List.filterMap_cons_some resolved, List.forall_mem_cons, List.pairwise_cons, resolved]
  simp only [List.forall_mem_cons]
  constructor
  · rintro ⟨⟨⟨_, some⟩, first, pairs⟩, beside⟩
    exact ⟨fun earlier among => (beside earlier among).1, ⟨some, pairs⟩, first,
      fun earlier among => (beside earlier among).2⟩
  · rintro ⟨here, ⟨some, pairs⟩, first, beside⟩
    exact ⟨⟨⟨rfl, some⟩, first, pairs⟩,
      fun earlier among => ⟨here earlier among, beside earlier among⟩⟩

theorem accepted_taken {next : Offer} {rest : List Offer}
    (taken : (tree.offer folding maxBytes next).2 = .ok true) :
    tree.accepted folding maxBytes (next :: rest) =
      next :: (tree.offer folding maxBytes next).1.accepted folding maxBytes rest := by
  rw [accepted]
  generalize tree.offer folding maxBytes next = offered at taken
  obtain ⟨after, outcome⟩ := offered
  cases taken
  rfl

theorem accepted_refused {next : Offer} {rest : List Offer}
    (refused : (tree.offer folding maxBytes next).2 ≠ .ok true) :
    tree.accepted folding maxBytes (next :: rest) =
      (tree.offer folding maxBytes next).1.accepted folding maxBytes rest := by
  rw [accepted]
  generalize tree.offer folding maxBytes next = offered at refused
  obtain ⟨after, outcome⟩ := offered
  split
  · rename_i same
    cases same
    exact absurd rfl refused
  · rename_i same
    cases same
    rfl

theorem accepted_apart (offers : List Offer) (holds : tree.node.Holds entries) :
    Apart folding (tree.accepted folding maxBytes offers) ∧
      Beside folding entries (tree.accepted folding maxBytes offers) := by
  induction offers generalizing tree entries with
  | nil => exact ⟨⟨nofun, .nil⟩, fun _ _ => nofun⟩
  | cons next rest ih =>
      by_cases taken : (tree.offer folding maxBytes next).2 = .ok true
      · obtain ⟨entry, takes⟩ := offer_accepted holds taken
        rw [accepted_taken taken]
        exact (apart_cons_iff takes.resolves).mpr ⟨takes.compatible, ih takes.holds⟩
      · rw [accepted_refused taken]
        exact ih (offer_rejected holds taken)

theorem accepted_length (offers : List Offer) :
    (tree.accepted folding maxBytes offers).length ≤ offers.length := by
  induction offers generalizing tree with
  | nil => exact Nat.le_refl 0
  | cons next rest ih =>
      unfold accepted
      split
      · exact Nat.succ_le_succ ih
      · exact Nat.le_succ_of_le ih

theorem accepted_all_iff (offers : List Offer) (holds : tree.node.Holds entries)
    (complete : tree.node.Exact entries) (counted : Counted maxBytes tree.bytes) :
    tree.accepted folding maxBytes offers = offers ↔
      (Apart folding offers ∧ Beside folding entries offers) ∧
        Counted maxBytes (tree.bytes + (offers.map (cost folding)).sum) := by
  induction offers generalizing tree entries with
  | nil =>
      constructor
      · exact fun _ => ⟨⟨⟨nofun, .nil⟩, fun _ _ => nofun⟩, counted⟩
      · exact fun _ => rfl
  | cons next rest ih =>
      rw [List.map_cons, List.sum_cons, ← Nat.add_assoc]
      by_cases taken : (tree.offer folding maxBytes next).2 = .ok true
      · obtain ⟨entry, takes⟩ := offer_accepted holds taken
        rw [accepted_taken taken, List.cons.injEq, ih takes.holds (takes.complete complete)
          (by rw [takes.total]; exact takes.counted), takes.total, apart_cons_iff takes.resolves]
        constructor
        · exact fun ⟨_, apart, whole⟩ => ⟨⟨takes.compatible, apart⟩, whole⟩
        · exact fun ⟨⟨_, apart⟩, whole⟩ => ⟨rfl, apart, whole⟩
      · constructor
        · intro all
          have short := @accepted_length folding maxBytes
            (tree.offer folding maxBytes next).1 rest
          rw [← accepted_refused taken, all] at short
          exact absurd short (Nat.not_succ_le_self _)
        · rintro ⟨both, whole⟩
          obtain ⟨entry, resolved⟩ := Option.isSome_iff_exists.mp (both.1.1 next List.mem_cons_self)
          refine absurd (offer_of_compatible holds complete resolved
            ((apart_cons_iff resolved).mp both).1 ?_) taken
          exact ⟨Nat.lt_of_le_of_lt (Nat.le_add_right _ _) whole.1,
            Nat.le_trans (Nat.le_add_right _ _) whole.2⟩

theorem Apart.of_perm {offers shuffled : List Offer} (same : offers.Perm shuffled)
    (apart : Apart folding offers) : Apart folding shuffled := by
  refine ⟨fun offer among => apart.1 offer (same.mem_iff.mpr among), ?_⟩
  exact ((same.filterMap folding.entry).pairwise_iff fun together => together.symm).mp apart.2

theorem accepted_all_perm {offers shuffled : List Offer} (same : offers.Perm shuffled)
    (all : empty.accepted folding maxBytes offers = offers) :
    empty.accepted folding maxBytes shuffled = shuffled := by
  have start : Counted maxBytes empty.bytes := ⟨by decide, Nat.zero_le _⟩
  obtain ⟨⟨apart, _⟩, counted⟩ := (accepted_all_iff offers .empty .empty start).mp all
  refine (accepted_all_iff shuffled .empty .empty start).mpr
    ⟨⟨apart.of_perm same, fun _ among => nomatch among⟩, ?_⟩
  rw [← (same.map (cost folding)).sum_nat]
  exact counted

/-- Of whatever entries are offered, those that are accepted are pairwise compatible; and
a whole archive is accepted in any order, or in none. -/
theorem accepted_entries_compatible (folding : Folding) (maxBytes : Nat) (offers : List Offer) :
    Apart folding (empty.accepted folding maxBytes offers) ∧
    ∀ shuffled, offers.Perm shuffled →
      (empty.accepted folding maxBytes offers = offers ↔
        empty.accepted folding maxBytes shuffled = shuffled) :=
  ⟨(accepted_apart offers .empty).1, fun _ same =>
    ⟨accepted_all_perm same, accepted_all_perm same.symm⟩⟩

/-- Folding that knows two spellings of one directory. -/
def libraryFolding : Folding :=
  { nfc := fun name => name
    foldString := fun name => if name = "Lib" then "lib" else name }

def libraryOffer (directory name : String) : Offer :=
  { nameBytes := 5, path := [.normal (some directory), .normal (some name)], isDir := false }

theorem library_in_any_order :
    empty.accepted libraryFolding 100 [libraryOffer "lib" "a", libraryOffer "lib" "b"] =
        [libraryOffer "lib" "a", libraryOffer "lib" "b"] ↔
      empty.accepted libraryFolding 100 [libraryOffer "lib" "b", libraryOffer "lib" "a"] =
        [libraryOffer "lib" "b", libraryOffer "lib" "a"] :=
  (accepted_entries_compatible libraryFolding 100 _).2 _ (.swap _ _ _)

/-- A directory keeps the spelling that came first. -/
example : empty.accepted libraryFolding 100
    [libraryOffer "lib" "a", libraryOffer "Lib" "b", libraryOffer "lib" "b"] =
      [libraryOffer "lib" "a", libraryOffer "lib" "b"] := by decide

end PathTree

end Zip

end TinyBus
