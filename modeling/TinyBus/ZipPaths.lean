/-
The paths of a release archive.  Each entry is inserted in a tree of folded names, where
two spellings of one name meet.  What the tree accepts is characterized entry against
entry, and that says why the order of the entries does not matter.
-/

import Mathlib.Algebra.GroupWithZero.Nat
import TinyBus.Error

namespace TinyBus

namespace Zip

/-- `module::refused`. -/
def refused (reason : String) : Error := .moduleRefused "github-release" reason

/-- `checked_add` on 64 bits. -/
def checkedAdd (left right : Nat) : Option Nat :=
  if left + right < 2 ^ 64 then some (left + right) else none

def MAX_NAME_BYTES : Nat := 4096
def MAX_PATH_KEY_COMPONENT_BYTES : Nat := MAX_NAME_BYTES * 16

/-- A component of a path; a name that is no UTF-8 has no text. -/
inductive Component where
  | drive
  | root
  | current
  | parent
  | normal (name : Option String)
  deriving DecidableEq

/-- Unicode normalization and full case folding. -/
structure Folding where
  nfc : String → String
  foldString : String → String

def Folding.collisionKeyComponent (folding : Folding) (component : String) :
    Except Error String :=
  let normalized := folding.nfc component
  let folded := folding.foldString normalized
  let key := folding.nfc folded
  if key.isEmpty || decide (MAX_PATH_KEY_COMPONENT_BYTES < key.utf8ByteSize) then
    .error (refused "release archive path key exceeds its limit")
  else .ok key

mutual
structure PathNode where
  children : List (String × PathChild)
  explicitEntry : Option Bool

structure PathChild where
  spelling : String
  node : PathNode
end

def metadataExceeded : Error := refused "release archive path metadata exceeds its limit"

inductive Entered where
  | rejected (bytes : Nat) (error : Option Error)
  | below (bytes : Nat) (folded : String) (child : PathChild)

/-- Where an insertion ends: the tree, the metadata that is counted, and what is returned. -/
structure Insertion where
  node : PathNode
  bytes : Nat
  outcome : Except Error Bool

namespace PathNode

def empty : PathNode := { children := [], explicitEntry := none }

def child (node : PathNode) (folded : String) : Option PathChild :=
  (node.children.find? (fun entry => entry.1 == folded)).map Prod.snd

def setChild (node : PathNode) (folded : String) (child : PathChild) : PathNode :=
  { node with
    children := (folded, child) :: node.children.filter (fun entry => entry.1 != folded) }

def childOr (node : PathNode) (folded spelling : String) : PathChild :=
  (node.child folded).getD ⟨spelling, empty⟩

/-- One component of the loop: it ends the insertion, or leads to a child. -/
def enter (folding : Folding) (maxBytes : Nat) (node : PathNode) (component : Component)
    (bytes : Nat) : Entered :=
  if node.explicitEntry = some false then .rejected bytes none
  else
    match component with
    | .normal none =>
        .rejected bytes (some (refused "release archive contains an unsafe path"))
    | .normal (some spelling) =>
        match folding.collisionKeyComponent spelling with
        | .error error => .rejected bytes (some error)
        | .ok folded =>
            match checkedAdd bytes folded.utf8ByteSize with
            | none => .rejected bytes (some metadataExceeded)
            | some bytes =>
                if maxBytes < bytes then .rejected bytes (some metadataExceeded)
                else if (node.childOr folded spelling).spelling ≠ spelling then
                  .rejected bytes none
                else .below bytes folded (node.childOr folded spelling)
    | _ => .rejected bytes none

def insert (folding : Folding) (isDir : Bool) (maxBytes : Nat) (node : PathNode) :
    List Component → Nat → Insertion
  | [], bytes =>
      if node.explicitEntry.isSome || (!isDir && !node.children.isEmpty) then
        ⟨node, bytes, .ok false⟩
      else ⟨{ node with explicitEntry := some isDir }, bytes, .ok true⟩
  | component :: rest, bytes =>
      match node.enter folding maxBytes component bytes with
      | .rejected bytes none => ⟨node, bytes, .ok false⟩
      | .rejected bytes (some error) => ⟨node, bytes, .error error⟩
      | .below bytes folded child =>
          let inner := insert folding isDir maxBytes child.node rest bytes
          ⟨node.setChild folded ⟨child.spelling, inner.node⟩, inner.bytes, inner.outcome⟩

end PathNode

/-- An entry that is offered to the tree: the bytes of its name, its path and its kind. -/
structure Offer where
  nameBytes : Nat
  path : List Component
  isDir : Bool
  deriving DecidableEq

structure PathTree where
  node : PathNode
  bytes : Nat

def Counted (maxBytes total : Nat) : Prop := total < 2 ^ 64 ∧ total ≤ maxBytes

namespace PathTree

def empty : PathTree := { node := .empty, bytes := 0 }

def offer (folding : Folding) (maxBytes : Nat) (tree : PathTree) (offer : Offer) :
    PathTree × Except Error Bool :=
  match checkedAdd tree.bytes offer.nameBytes with
  | none => (tree, .error metadataExceeded)
  | some bytes =>
      if maxBytes < bytes then ({ tree with bytes := bytes }, .error metadataExceeded)
      else
        let inserted := tree.node.insert folding offer.isDir maxBytes offer.path bytes
        (⟨inserted.node, inserted.bytes⟩, inserted.outcome)

/-- The entries that are accepted, of those that are offered one after another. -/
def accepted (folding : Folding) (maxBytes : Nat) (tree : PathTree) : List Offer → List Offer
  | [] => []
  | next :: rest =>
      match tree.offer folding maxBytes next with
      | (after, .ok true) => next :: after.accepted folding maxBytes rest
      | (after, _) => after.accepted folding maxBytes rest

end PathTree

abbrev Steps := List (String × String)

def Steps.keys (steps : Steps) : List String := steps.map Prod.fst

@[simp] theorem Steps.keys_cons (step : String × String) (steps : Steps) :
    Steps.keys (step :: steps) = step.1 :: Steps.keys steps := rfl

@[simp] theorem Steps.keys_append (early late : Steps) :
    Steps.keys (early ++ late) = Steps.keys early ++ Steps.keys late := List.map_append

/-- The bytes that the folded names of a path count for. -/
def Steps.bytes (steps : Steps) : Nat := (steps.map (fun step => step.1.utf8ByteSize)).sum

def Folding.steps (folding : Folding) : List Component → Option Steps
  | [] => some []
  | .normal (some spelling) :: rest =>
      match folding.collisionKeyComponent spelling with
      | .ok folded => (folding.steps rest).map (fun steps => (folded, spelling) :: steps)
      | .error _ => none
  | _ :: _ => none

structure Entry where
  steps : Steps
  isDir : Bool

def Folding.entry (folding : Folding) (offer : Offer) : Option Entry :=
  (folding.steps offer.path).map (fun steps => ⟨steps, offer.isDir⟩)

/-- Two entries that can be extracted side by side: their folded paths differ, a folded
directory that they share is spelled alike, and neither is a file above the other. -/
structure Compatible (first second : Entry) : Prop where
  distinct : first.steps.keys ≠ second.steps.keys
  spelled : ∀ front other : Steps, front <+: first.steps → other <+: second.steps →
    front.keys = other.keys → front = other
  file : first.isDir = false → ¬ first.steps.keys <+: second.steps.keys
  fileOther : second.isDir = false → ¬ second.steps.keys <+: first.steps.keys

theorem Compatible.symm {first second : Entry} (compatible : Compatible first second) :
    Compatible second first where
  distinct := compatible.distinct.symm
  spelled := fun front other within withinOther same =>
    (compatible.spelled other front withinOther within same.symm).symm
  file := compatible.fileOther
  fileOther := compatible.file

namespace PathNode

def mark : PathNode → List String → Option Bool
  | node, [] => node.explicitEntry
  | node, key :: rest =>
      match node.child key with
      | none => none
      | some child => child.node.mark rest

def spelled : PathNode → List String → String → Option String
  | node, [], name => (node.child name).map PathChild.spelling
  | node, key :: rest, name =>
      match node.child key with
      | none => none
      | some child => child.node.spelled rest name

variable {node : PathNode} {key other name spelling : String} {path : List String}

theorem child_setChild (child : PathChild) :
    (node.setChild key child).child other = if other = key then some child else node.child other := by
  unfold setChild PathNode.child
  dsimp only
  by_cases same : other = key
  · rw [if_pos same, same, List.find?_cons_of_pos (by simp)]
    rfl
  · rw [if_neg same, List.find?_cons_of_neg (by simpa using fun equal => same equal.symm),
      List.find?_filter]
    congr 2
    funext entry
    by_cases here : entry.1 = other
    · simp [here, same]
    · simp [here]

theorem children_nil_iff : node.children = [] ↔ ∀ key, node.child key = none := by
  constructor
  · intro none key
    unfold PathNode.child
    rw [none]
    rfl
  · intro absent
    cases entries : node.children with
    | nil => rfl
    | cons entry rest =>
        have found := absent entry.1
        unfold PathNode.child at found
        rw [entries, List.find?_cons_of_pos (by simp)] at found
        cases found

theorem mark_empty (path : List String) : PathNode.empty.mark path = none := by
  cases path with
  | nil => rfl
  | cons key rest => rfl

theorem spelled_empty (path : List String) (name : String) :
    PathNode.empty.spelled path name = none := by
  cases path with
  | nil => rfl
  | cons key rest => rfl

theorem mark_cons (spelling : String) :
    node.mark (key :: path) = (node.childOr key spelling).node.mark path := by
  unfold childOr
  change (match node.child key with
    | none => none
    | some child => child.node.mark path) = _
  cases node.child key with
  | none => exact (mark_empty path).symm
  | some child => rfl

theorem spelled_cons (spelling : String) :
    node.spelled (key :: path) name = (node.childOr key spelling).node.spelled path name := by
  unfold childOr
  change (match node.child key with
    | none => none
    | some child => child.node.spelled path name) = _
  cases node.child key with
  | none => exact (spelled_empty path name).symm
  | some child => rfl

theorem mark_setChild (child : PathChild) :
    (node.setChild key child).mark (other :: path) =
      if other = key then child.node.mark path else node.mark (other :: path) := by
  change (match (node.setChild key child).child other with
    | none => none
    | some child => child.node.mark path) = _
  rw [child_setChild]
  by_cases same : other = key
  · rw [if_pos same, if_pos same]
  · rw [if_neg same, if_neg same]
    rfl

theorem spelled_setChild (child : PathChild) :
    (node.setChild key child).spelled (other :: path) name =
      if other = key then child.node.spelled path name else node.spelled (other :: path) name := by
  change (match (node.setChild key child).child other with
    | none => none
    | some child => child.node.spelled path name) = _
  rw [child_setChild]
  by_cases same : other = key
  · rw [if_pos same, if_pos same]
  · rw [if_neg same, if_neg same]
    rfl

section Insert

variable {folding : Folding} {isDir : Bool} {maxBytes bytes : Nat} {rest : List Component}

/-- A name is stepped over if no file is in the way, its folded name is counted, and no
other spelling of it is there. -/
structure Passes (folding : Folding) (maxBytes : Nat) (node : PathNode) (bytes : Nat)
    (spelling folded : String) : Prop where
  folds : folding.collisionKeyComponent spelling = .ok folded
  unblocked : node.explicitEntry ≠ some false
  counted : Counted maxBytes (bytes + folded.utf8ByteSize)
  same : (node.childOr folded spelling).spelling = spelling

theorem enter_passes {spelling folded : String}
    (passes : Passes folding maxBytes node bytes spelling folded) :
    node.enter folding maxBytes (.normal (some spelling)) bytes =
      .below (bytes + folded.utf8ByteSize) folded (node.childOr folded spelling) := by
  have added : checkedAdd bytes folded.utf8ByteSize = some (bytes + folded.utf8ByteSize) :=
    if_pos passes.counted.1
  unfold enter
  rw [if_neg passes.unblocked]
  dsimp only
  rw [passes.folds]
  dsimp only
  rw [added]
  dsimp only
  rw [if_neg (Nat.not_lt.mpr passes.counted.2), if_neg (fun other => other passes.same)]

theorem enter_cases (component : Component) :
    (∃ after error, node.enter folding maxBytes component bytes = .rejected after error) ∨
    ∃ spelling folded, component = .normal (some spelling) ∧
      Passes folding maxBytes node bytes spelling folded := by
  unfold enter
  by_cases blocked : node.explicitEntry = some false
  · exact .inl ⟨_, _, if_pos blocked⟩
  rw [if_neg blocked]
  split
  · exact .inl ⟨_, _, rfl⟩
  · rename_i spelling
    cases folds : folding.collisionKeyComponent spelling with
    | error error => exact .inl ⟨_, _, rfl⟩
    | ok folded =>
        dsimp only
        unfold checkedAdd
        by_cases fits : bytes + folded.utf8ByteSize < 2 ^ 64
        · rw [if_pos fits]
          dsimp only
          by_cases concluded : maxBytes < bytes + folded.utf8ByteSize
          · exact .inl ⟨_, _, if_pos concluded⟩
          · rw [if_neg concluded]
            by_cases same : (node.childOr folded spelling).spelling = spelling
            · exact .inr ⟨spelling, folded, rfl, folds, blocked,
                ⟨fits, Nat.not_lt.mp concluded⟩, same⟩
            · exact .inl ⟨_, _, if_pos same⟩
        · rw [if_neg fits]
          exact .inl ⟨_, _, rfl⟩
  · exact .inl ⟨_, _, rfl⟩

theorem insert_passes {spelling folded : String}
    (passes : Passes folding maxBytes node bytes spelling folded) :
    node.insert folding isDir maxBytes (.normal (some spelling) :: rest) bytes =
      let inner := (node.childOr folded spelling).node.insert folding isDir maxBytes rest
        (bytes + folded.utf8ByteSize)
      ⟨node.setChild folded ⟨spelling, inner.node⟩, inner.bytes, inner.outcome⟩ := by
  rw [insert, enter_passes passes]
  dsimp only
  rw [passes.same]

theorem insert_cons_cases (component : Component) :
    ((node.insert folding isDir maxBytes (component :: rest) bytes).node = node ∧
      (node.insert folding isDir maxBytes (component :: rest) bytes).outcome ≠ .ok true) ∨
    ∃ spelling folded, component = .normal (some spelling) ∧
      Passes folding maxBytes node bytes spelling folded := by
  rcases @enter_cases node folding maxBytes bytes component with
    ⟨after, error, rejected⟩ | passes
  · refine .inl ?_
    rw [insert, rejected]
    cases error with
    | none => exact ⟨rfl, nofun⟩
    | some error => exact ⟨rfl, nofun⟩
  · exact .inr passes

def Vacant (node : PathNode) (isDir : Bool) : Prop :=
  node.explicitEntry = none ∧ (isDir = true ∨ node.children = [])

theorem insert_vacant (vacant : node.Vacant isDir) :
    node.insert folding isDir maxBytes [] bytes =
      ⟨{ node with explicitEntry := some isDir }, bytes, .ok true⟩ := by
  obtain ⟨free, below⟩ := vacant
  unfold insert
  rw [if_neg]
  rw [free]
  rcases below with dir | none
  · simp [dir]
  · simp [none]

theorem insert_taken (taken : ¬ node.Vacant isDir) :
    node.insert folding isDir maxBytes [] bytes = ⟨node, bytes, .ok false⟩ := by
  unfold insert
  rw [if_pos]
  cases marked : node.explicitEntry with
  | some kind => rfl
  | none =>
      cases isDir with
      | true => exact absurd ⟨marked, .inl rfl⟩ taken
      | false =>
          cases entries : node.children with
          | nil => exact absurd ⟨marked, .inr entries⟩ taken
          | cons entry rest => rfl

theorem spelled_mark (path : List String) (name : String) (explicit : Option Bool) :
    PathNode.spelled { node with explicitEntry := explicit } path name =
      node.spelled path name := by
  cases path with
  | nil => rfl
  | cons key rest => rfl

variable {components : List Component}

theorem insert_keeps_spelled (spelt : node.spelled path name = some spelling) :
    (node.insert folding isDir maxBytes components bytes).node.spelled path name =
      some spelling := by
  induction components generalizing node bytes path with
  | nil =>
      by_cases vacant : node.Vacant isDir
      · rw [insert_vacant vacant, spelled_mark]
        exact spelt
      · rw [insert_taken vacant]
        exact spelt
  | cons component rest ih =>
      rcases insert_cons_cases component with ⟨same, _⟩ | ⟨own, folded, rfl, passes⟩
      · rw [same]
        exact spelt
      · rw [insert_passes passes]
        cases path with
        | nil =>
            change ((PathNode.setChild node folded _).child name).map PathChild.spelling = _
            rw [child_setChild]
            by_cases here : name = folded
            · rw [if_pos here]
              obtain ⟨child, found, written⟩ := Option.map_eq_some_iff.mp spelt
              have same := passes.same
              unfold childOr at same
              rw [← here, found] at same
              rw [← written, ← same]
              rfl
            · rw [if_neg here]
              exact spelt
        | cons key below =>
            rw [spelled_setChild]
            by_cases here : key = folded
            · rw [if_pos here]
              rw [here, spelled_cons own] at spelt
              exact ih spelt
            · rw [if_neg here]
              exact spelt

theorem insert_keeps_mark
    (rejected : (node.insert folding isDir maxBytes components bytes).outcome ≠ .ok true) :
    (node.insert folding isDir maxBytes components bytes).node.mark path = node.mark path := by
  induction components generalizing node bytes path with
  | nil =>
      by_cases vacant : node.Vacant isDir
      · rw [insert_vacant vacant] at rejected
        exact absurd rfl rejected
      · rw [insert_taken vacant]
  | cons component rest ih =>
      rcases insert_cons_cases component with ⟨same, _⟩ | ⟨own, folded, rfl, passes⟩
      · rw [same]
      · rw [insert_passes passes] at rejected ⊢
        cases path with
        | nil => rfl
        | cons key below =>
            rw [mark_setChild]
            by_cases here : key = folded
            · rw [if_pos here, here, mark_cons own]
              exact ih rejected
            · rw [if_neg here]

/-- A path that the tree has room for: no file above it, every name in its spelling, and
its own place free. -/
def Admits (node : PathNode) (isDir : Bool) : Steps → Prop
  | [] => node.Vacant isDir
  | step :: rest =>
      node.explicitEntry ≠ some false ∧
        (node.childOr step.1 step.2).spelling = step.2 ∧
          (node.childOr step.1 step.2).node.Admits isDir rest

theorem steps_cons {folding : Folding} {spelling folded : String} {rest : List Component}
    (folds : folding.collisionKeyComponent spelling = .ok folded) :
    folding.steps (.normal (some spelling) :: rest) =
      (folding.steps rest).map (fun steps => (folded, spelling) :: steps) := by
  rw [Folding.steps, folds]

/-- What an accepted path comes to: the tree had room for it, it is marked, its names are
spelled as it spells them, and nothing else changes. -/
structure Accepts (isDir : Bool) (maxBytes : Nat) (node : PathNode) (bytes : Nat)
    (steps : Steps) (inserted : Insertion) : Prop where
  admits : node.Admits isDir steps
  total : inserted.bytes = bytes + steps.bytes
  counted : Counted maxBytes bytes → Counted maxBytes (bytes + steps.bytes)
  marked : ∀ path, inserted.node.mark path =
    if path = steps.keys then some isDir else node.mark path
  written : ∀ early step late, steps = early ++ step :: late →
    inserted.node.spelled (Steps.keys early) step.1 = some step.2
  only : ∀ path name spelling, inserted.node.spelled path name = some spelling →
    node.spelled path name = some spelling ∨
      ∃ early late, steps = early ++ (name, spelling) :: late ∧ path = Steps.keys early

theorem Accepts.nil (vacant : node.Vacant isDir) :
    Accepts isDir maxBytes node bytes []
      ⟨{ node with explicitEntry := some isDir }, bytes, .ok true⟩ where
  admits := vacant
  total := rfl
  counted := fun counted => counted
  marked := by
    intro path
    cases path with
    | nil => rfl
    | cons key below => rfl
  written := fun early step late split => by cases early <;> cases split
  only := by
    intro path name spelling spelt
    rw [spelled_mark] at spelt
    exact .inl spelt

theorem Accepts.cons {spelling folded : String} {steps : Steps} {inner : Insertion}
    (passes : Passes folding maxBytes node bytes spelling folded)
    (accepts : Accepts isDir maxBytes (node.childOr folded spelling).node
      (bytes + folded.utf8ByteSize) steps inner) :
    Accepts isDir maxBytes node bytes ((folded, spelling) :: steps)
      ⟨node.setChild folded ⟨spelling, inner.node⟩, inner.bytes, inner.outcome⟩ where
  admits := ⟨passes.unblocked, passes.same, accepts.admits⟩
  total := by
    rw [accepts.total]
    unfold Steps.bytes
    rw [List.map_cons, List.sum_cons, Nat.add_assoc]
  counted := by
    intro _
    have counted := accepts.counted passes.counted
    unfold Steps.bytes at counted ⊢
    rw [List.map_cons, List.sum_cons, ← Nat.add_assoc]
    exact counted
  marked := by
    intro path
    cases path with
    | nil => rfl
    | cons key below =>
        rw [mark_setChild, Steps.keys_cons]
        by_cases here : key = folded
        · rw [if_pos here, accepts.marked, here, ← mark_cons]
          by_cases same : below = steps.keys
          · rw [if_pos same, if_pos (by rw [same])]
          · rw [if_neg same, if_neg (fun equal => same (List.cons.inj equal).2)]
        · rw [if_neg here, if_neg (fun equal => here (List.cons.inj equal).1)]
  written := by
    intro early step late split
    cases early with
    | nil =>
        obtain ⟨rfl, _⟩ := List.cons.inj split
        change ((PathNode.setChild node folded _).child folded).map PathChild.spelling = _
        rw [child_setChild, if_pos rfl]
        rfl
    | cons first early =>
        obtain ⟨rfl, rest⟩ := List.cons.inj split
        change PathNode.spelled _ (folded :: Steps.keys early) step.1 = _
        rw [spelled_setChild, if_pos rfl]
        exact accepts.written early step late rest
  only := by
    intro path name other spelt
    cases path with
    | nil =>
        change ((PathNode.setChild node folded _).child name).map PathChild.spelling = _ at spelt
        rw [child_setChild] at spelt
        by_cases here : name = folded
        · rw [if_pos here] at spelt
          obtain rfl : spelling = other := Option.some.inj spelt
          exact .inr ⟨[], steps, by rw [here]; rfl, rfl⟩
        · rw [if_neg here] at spelt
          exact .inl spelt
    | cons key below =>
        rw [spelled_setChild] at spelt
        by_cases here : key = folded
        · rw [if_pos here] at spelt
          rw [here, spelled_cons spelling]
          rcases accepts.only below name other spelt with old | ⟨early, late, split, same⟩
          · exact .inl old
          · exact .inr ⟨(folded, spelling) :: early, late, by rw [split]; rfl,
              by rw [same]; rfl⟩
        · rw [if_neg here] at spelt
          exact .inl spelt

theorem insert_accepts
    (accepted : (node.insert folding isDir maxBytes components bytes).outcome = .ok true) :
    ∃ steps, folding.steps components = some steps ∧
      Accepts isDir maxBytes node bytes steps
        (node.insert folding isDir maxBytes components bytes) := by
  induction components generalizing node bytes with
  | nil =>
      by_cases vacant : node.Vacant isDir
      · rw [insert_vacant vacant]
        exact ⟨[], rfl, .nil vacant⟩
      · rw [insert_taken vacant] at accepted
        cases accepted
  | cons component rest ih =>
      rcases insert_cons_cases component with ⟨_, rejected⟩ | ⟨own, folded, rfl, passes⟩
      · exact absurd accepted rejected
      · rw [insert_passes passes] at accepted ⊢
        obtain ⟨steps, resolved, accepts⟩ := ih accepted
        refine ⟨(folded, own) :: steps, ?_, accepts.cons passes⟩
        rw [steps_cons passes.folds, resolved]
        rfl

theorem insert_of_admits {steps : Steps} (resolved : folding.steps components = some steps)
    (admits : node.Admits isDir steps) (counted : Counted maxBytes (bytes + steps.bytes)) :
    (node.insert folding isDir maxBytes components bytes).outcome = .ok true := by
  induction components generalizing node bytes steps with
  | nil =>
      cases resolved
      rw [insert_vacant admits]
  | cons component rest ih =>
      unfold Folding.steps at resolved
      split at resolved
      · cases ‹component :: rest = []›
      · rename_i spelling tail same
        obtain ⟨rfl, rfl⟩ := List.cons.inj same
        split at resolved
        · rename_i folded folds
          obtain ⟨below, resolvedBelow, rfl⟩ := Option.map_eq_some_iff.mp resolved
          obtain ⟨opened, written, admitsBelow⟩ := admits
          unfold Steps.bytes at counted
          rw [List.map_cons, List.sum_cons, ← Nat.add_assoc] at counted
          have passes : Passes folding maxBytes node bytes spelling folded :=
            ⟨folds, opened, ⟨Nat.lt_of_le_of_lt (Nat.le_add_right _ _) counted.1,
              Nat.le_trans (Nat.le_add_right _ _) counted.2⟩, written⟩
          rw [insert_passes passes]
          exact ih resolvedBelow admitsBelow counted
        · cases resolved
      · cases resolved

end Insert

end PathNode

end Zip

end TinyBus
