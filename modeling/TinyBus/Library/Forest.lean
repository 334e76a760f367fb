import Mathlib.Data.List.Nodup
import Mathlib.Data.List.Perm.Subperm
import Mathlib.Logic.Relation

/-!
The walk of a forest by a stack.

A forest is given by the children of each node.  The walk takes a node off the
stack, notes it and pushes its children, and a count bounds its turns.  Every
node of a forest has one parent and a larger rank than its parent, so that no
node is met twice, and as many turns as there are nodes reach every descendant.
-/

namespace Forest

universe u

variable {Node : Type u}

def walk (children : Node → List Node) : Nat → List Node → List Node → List Node
  | 0, _, found => found
  | _ + 1, [], found => found
  | turns + 1, node :: stack, found =>
      walk children turns ((children node).reverse ++ stack) (found ++ [node])

/-- The node is below the ancestor. -/
def Descends (children : Node → List Node) : Node → Node → Prop :=
  Relation.TransGen (fun parent child => child ∈ children parent)

structure Shape (children : Node → List Node) (nodes : List Node)
    (rank : Node → Nat) : Prop where
  listed : ∀ parent, ∀ child ∈ children parent, child ∈ nodes
  distinct : ∀ parent, (children parent).Nodup
  single : ∀ child left right, child ∈ children left → child ∈ children right →
    left = right
  ranked : ∀ parent, ∀ child ∈ children parent, rank parent < rank child

/-- What holds before every turn of a walk from a root. -/
structure Walking (children : Node → List Node) (rank : Node → Nat) (root : Node)
    (stack found : List Node) : Prop where
  distinct : (stack ++ found).Nodup
  origin : ∀ node ∈ stack ++ found, ∃ parent, node ∈ children parent ∧
    (parent = root ∨ parent ∈ found)
  below : ∀ node ∈ stack ++ found, rank root < rank node
  closed : ∀ parent, parent = root ∨ parent ∈ found →
    ∀ child ∈ children parent, child ∈ stack ++ found

variable {children : Node → List Node} {nodes : List Node} {rank : Node → Nat}
  {root : Node}

theorem Shape.start (shape : Shape children nodes rank) :
    Walking children rank root (children root).reverse [] where
  distinct := by
    rw [List.append_nil, List.nodup_reverse]
    exact shape.distinct root
  origin := by
    intro node member
    rw [List.append_nil, List.mem_reverse] at member
    exact ⟨root, member, .inl rfl⟩
  below := by
    intro node member
    rw [List.append_nil, List.mem_reverse] at member
    exact shape.ranked root node member
  closed := by
    rintro parent (rfl | impossible) child member
    · rw [List.append_nil, List.mem_reverse]
      exact member
    · cases impossible

theorem Walking.turn (shape : Shape children nodes rank) {node : Node}
    {stack found : List Node} (walking : Walking children rank root (node :: stack) found) :
    Walking children rank root ((children node).reverse ++ stack) (found ++ [node]) := by
  have regroup : ∀ other, other ∈ (children node).reverse ++ stack ++ (found ++ [node]) ↔
      other ∈ children node ∨ other ∈ node :: stack ++ found := by
    intro other
    simp only [List.mem_append, List.mem_reverse, List.mem_cons, List.not_mem_nil, or_false]
    tauto
  have lower : rank root < rank node := walking.below node (List.mem_cons_self ..)
  have unmet : node ∉ found := by
    intro met
    exact List.disjoint_of_nodup_append walking.distinct (List.mem_cons_self ..) met
  -- A child of the node that was met before would have the node as its parent already.
  have fresh : ∀ child ∈ children node, child ∉ node :: stack ++ found := by
    intro child member met
    obtain ⟨parent, listed, source⟩ := walking.origin child met
    have same := shape.single child node parent member listed
    subst same
    rcases source with atRoot | earlier
    · rw [atRoot] at lower
      exact Nat.lt_irrefl _ lower
    · exact unmet earlier
  constructor
  · have perm : ((children node).reverse ++ stack ++ (found ++ [node])).Perm
        ((children node).reverse ++ (node :: stack ++ found)) := by
      rw [List.append_assoc]
      refine List.Perm.append_left _ ?_
      rw [← List.append_assoc]
      exact List.perm_append_singleton _ _
    rw [perm.nodup_iff, List.nodup_append']
    refine ⟨List.nodup_reverse.mpr (shape.distinct node), walking.distinct, ?_⟩
    intro child member met
    exact fresh child (List.mem_reverse.mp member) met
  · intro other member
    rcases (regroup other).mp member with child | earlier
    · exact ⟨node, child, .inr (List.mem_append_right _ (List.mem_singleton_self _))⟩
    · obtain ⟨parent, listed, source⟩ := walking.origin other earlier
      exact ⟨parent, listed, source.imp_right (List.mem_append_left _)⟩
  · intro other member
    rcases (regroup other).mp member with child | earlier
    · exact Nat.lt_trans lower (shape.ranked node other child)
    · exact walking.below other earlier
  · intro parent source child member
    rw [regroup]
    rcases source with atRoot | met
    · exact .inr (walking.closed parent (.inl atRoot) child member)
    · rcases List.mem_append.mp met with earlier | last
      · exact .inr (walking.closed parent (.inr earlier) child member)
      · rw [List.mem_singleton] at last
        subst last
        exact .inl member

theorem Walking.bounded (shape : Shape children nodes rank) {stack found : List Node}
    (walking : Walking children rank root stack found) :
    stack.length + found.length ≤ nodes.length := by
  have listed : stack ++ found ⊆ nodes := by
    intro node member
    obtain ⟨parent, child, _⟩ := walking.origin node member
    exact shape.listed parent node child
  have bound := (List.subperm_of_subset walking.distinct listed).length_le
  rw [List.length_append] at bound
  exact bound

theorem Walking.complete (shape : Shape children nodes rank) {turns : Nat} :
    ∀ {stack found : List Node}, Walking children rank root stack found →
      nodes.length ≤ turns + found.length →
      Walking children rank root [] (walk children turns stack found) := by
  induction turns with
  | zero =>
      intro stack found walking enough
      have bound := walking.bounded shape
      have empty : stack = [] := List.eq_nil_of_length_eq_zero (by omega)
      subst empty
      exact walking
  | succ turns ih =>
      intro stack found walking enough
      cases stack with
      | nil => exact walking
      | cons node stack =>
          refine ih (walking.turn shape) ?_
          rw [List.length_append, List.length_singleton]
          omega

theorem walk_closed (shape : Shape children nodes rank) {turns : Nat}
    (enough : nodes.length ≤ turns) {parent child : Node}
    (met : parent = root ∨ parent ∈ walk children turns (children root).reverse [])
    (member : child ∈ children parent) :
    child ∈ walk children turns (children root).reverse [] := by
  have start : Walking children rank root (children root).reverse [] := shape.start
  exact (start.complete shape enough).closed parent met child member

theorem mem_walk (shape : Shape children nodes rank) {turns : Nat}
    (enough : nodes.length ≤ turns) {node : Node} (below : Descends children root node) :
    node ∈ walk children turns (children root).reverse [] := by
  induction below with
  | single member => exact walk_closed shape enough (.inl rfl) member
  | tail _ member ih => exact walk_closed shape enough (.inr ih) member

theorem descends_of_mem_walk {children : Node → List Node} {root : Node} (turns : Nat) :
    ∀ {stack found : List Node}, (∀ node ∈ stack, Descends children root node) →
      (∀ node ∈ found, Descends children root node) →
        ∀ node ∈ walk children turns stack found, Descends children root node := by
  induction turns with
  | zero => exact fun _ before => before
  | succ turns ih =>
      intro stack found pending before
      cases stack with
      | nil => exact before
      | cons first stack =>
          have below := pending first (List.mem_cons_self ..)
          refine ih ?_ ?_
          · intro node member
            rcases List.mem_append.mp member with child | later
            · exact below.tail (List.mem_reverse.mp child)
            · exact pending node (List.mem_cons_of_mem first later)
          · intro node member
            rcases List.mem_append.mp member with earlier | last
            · exact before node earlier
            · exact List.mem_singleton.mp last ▸ below

end Forest
