import Mathlib.Algebra.BigOperators.Group.List.Basic
import Mathlib.Algebra.Order.BigOperators.Group.List
import Mathlib.Algebra.Order.Monoid.OrderDual
import TinyBus.Library.Tasks

/-!
Weights of tasks that run at once.

What is shared weighs something, and so does each task.  Where no step makes its
task and what is shared heavier together, the whole never grows; where each step
keeps that sum, the whole stays what was started.  A thing of which there is one is
a weight of one: whoever has it, nobody else does.
-/

open TransitionSystem

universe u v w x y z

namespace Tasks

variable {Shared : Type u} {Task : Type v} {Call : Type w} {Choice : Type x}
  {Outside : Type y} {M : Type z}

section

variable [AddCommMonoid M] (own : Nat → Task → M)

/-- What the tasks weigh together. -/
def weight (tasks : Table Nat Task) : M :=
  (tasks.entries.map (fun entry => own entry.1 entry.2)).sum

theorem weight_insert (tasks : Table Nat Task) (id : Nat) (task : Task) :
    weight own (tasks.insert id task) = own id task + weight own (tasks.erase id) := by
  unfold weight
  rw [AList.entries_insert, List.map_cons, List.sum_cons]
  rfl

theorem weight_erase {tasks : Table Nat Task} {id : Nat} {task : Task}
    (present : tasks.lookup id = some task) :
    weight own tasks = own id task + weight own (tasks.erase id) := by
  have listed : id ∈ tasks.entries.keys :=
    List.mem_keys_of_mem (Table.mem_entries_iff_lookup.mpr present)
  obtain ⟨held, early, late, _, split, erased⟩ := List.exists_of_kerase listed
  have same : held = task := by
    have found : tasks.lookup id = some held := by
      rw [← Table.mem_entries_iff_lookup, split]
      exact List.mem_append_right early (List.mem_cons_self ..)
    exact Option.some.inj (found.symm.trans present)
  have others : (tasks.erase id).entries = early ++ late := erased
  unfold weight
  rw [others, split, same, List.map_append, List.map_cons, List.sum_append, List.sum_cons,
    List.map_append, List.sum_append, add_left_comm]

theorem weight_insert_vacant {tasks : Table Nat Task} {id : Nat}
    (vacant : tasks.lookup id = none) (task : Task) :
    weight own (tasks.insert id task) = own id task + weight own tasks := by
  unfold weight
  rw [AList.entries_insert_of_notMem (AList.lookup_eq_none.mp vacant), List.map_cons,
    List.sum_cons]

theorem weight_add (other : Nat → Task → M) (tasks : Table Nat Task) :
    weight (fun id task => own id task + other id task) tasks =
      weight own tasks + weight other tasks := by
  unfold weight
  exact List.sum_map_add

theorem weight_map {N : Type*} [AddCommMonoid N] (measure : M →+ N) (tasks : Table Nat Task) :
    weight (fun id task => measure (own id task)) tasks = measure (weight own tasks) := by
  unfold weight
  rw [map_list_sum, List.map_map]
  rfl

end

section

variable [AddCommMonoid M] [PartialOrder M] [IsOrderedCancelAddMonoid M]

/-- No step that a guard admits, and nothing around the tasks, makes the whole
heavier. -/
structure Lightens (kind : Kind Shared Task Call Choice Outside)
    (guard : Tasks Shared Task → Event Call Choice Outside → Prop)
    (common : Shared → M) (own : Nat → Task → M) : Prop where
  start : ∀ id call, own id (kind.start call) = 0
  step : ∀ state id choice task after stepped, guard state (.advance id choice) →
    state.tasks.lookup id = some task →
      kind.step id choice state.shared task = some (after, stepped) →
        common after + own id stepped ≤ common state.shared + own id task
  outside : ∀ event state, common (kind.outside event state) ≤ common state.shared

variable {kind : Kind Shared Task Call Choice Outside}
  {guard known : Tasks Shared Task → Event Call Choice Outside → Prop}
  {common : Shared → M} {own : Nat → Task → M}

theorem Lightens.next (lightens : Lightens kind guard common own) {state : Tasks Shared Task}
    {event : Event Call Choice Outside} (admitted : guard state event) :
    common (next kind state event).shared + weight own (next kind state event).tasks ≤
      common state.shared + weight own state.tasks := by
  have moved := next_moved kind state event
  generalize Tasks.next kind state event = after at moved
  cases moved with
  | still => exact le_refl _
  | started vacant =>
      dsimp only
      rw [weight_insert_vacant own vacant, lightens.start, zero_add]
  | @stepped id choice task stepped shared present taken =>
      dsimp only
      rw [weight_insert, weight_erase own present, ← add_assoc, ← add_assoc]
      exact add_le_add_left
        (lightens.step state id choice task shared stepped admitted present taken) _
  | @around event => exact add_le_add_left (lightens.outside event state) _

/-- The whole stays within its bound, where the guard holds of every step of the
system. -/
theorem total_le {bound : M} {initial : Shared → Prop}
    (lightens : Lightens kind guard common own)
    (holds : ∀ state event, ((system kind initial).restrict known).Reachable state →
      known state event → guard state event)
    (begins : ∀ shared, initial shared → common shared ≤ bound)
    {state : Tasks Shared Task}
    (reached : ((system kind initial).restrict known).Reachable state) :
    common state.shared + weight own state.tasks ≤ bound := by
  obtain ⟨first, events, ⟨starts, empty⟩, run⟩ := reached
  induction run with
  | nil =>
      rw [empty]
      exact (add_zero _).trans_le (begins _ starts)
  | snoc earlier stepped bounded =>
      obtain ⟨admitted, rfl⟩ := stepped
      have reached : ((system kind initial).restrict known).Reachable _ :=
        ⟨first, _, ⟨starts, empty⟩, earlier⟩
      exact (lightens.next (holds _ _ reached admitted)).trans bounded

theorem total_le_of_unguarded {bound : M} {initial : Shared → Prop}
    (lightens : Lightens kind (fun _ _ => True) common own)
    (begins : ∀ shared, initial shared → common shared ≤ bound)
    {state : Tasks Shared Task} (reached : (system kind initial).Reachable state) :
    common state.shared + weight own state.tasks ≤ bound := by
  have admitted : ((system kind initial).restrict (fun _ _ => True)).Reachable state :=
    reached.of_guard (fun _ _ => trivial)
  exact total_le lightens (fun _ _ _ _ => trivial) begins admitted

/-- Where no step makes the whole lighter either, the bound is one from below: in the
dual order the same is said of it. -/
theorem le_total {bound : M} {initial : Shared → Prop}
    (steadies : Lightens (M := Mᵒᵈ) kind guard common own)
    (holds : ∀ state event, ((system kind initial).restrict known).Reachable state →
      known state event → guard state event)
    (begins : ∀ shared, initial shared → bound ≤ common shared)
    {state : Tasks Shared Task}
    (reached : ((system kind initial).restrict known).Reachable state) :
    bound ≤ common state.shared + weight own state.tasks :=
  total_le (M := Mᵒᵈ) steadies holds begins reached

end

section

variable [AddCommMonoid M] [PartialOrder M] [IsOrderedAddMonoid M] {own : Nat → Task → M}

theorem weight_nonneg (nonneg : ∀ id task, 0 ≤ own id task) (tasks : Table Nat Task) :
    0 ≤ weight own tasks := by
  unfold weight
  refine List.sum_nonneg ?_
  intro value member
  obtain ⟨entry, _, rfl⟩ := List.mem_map.mp member
  exact nonneg entry.1 entry.2

theorem own_le_weight (nonneg : ∀ id task, 0 ≤ own id task) {tasks : Table Nat Task}
    {id : Nat} {task : Task} (present : tasks.lookup id = some task) :
    own id task ≤ weight own tasks := by
  rw [weight_erase own present]
  exact le_add_of_nonneg_right (weight_nonneg nonneg _)

theorem weight_eq_own {M : Type z} [AddCommMonoid M] {own : Nat → Task → M}
    {tasks : Table Nat Task} {id : Nat} {task : Task}
    (present : tasks.lookup id = some task)
    (nothing : ∀ other bystander, other ≠ id → own other bystander = 0) :
    weight own tasks = own id task := by
  rw [weight_erase own present]
  unfold weight
  rw [List.sum_eq_zero, add_zero]
  intro value member
  obtain ⟨entry, listed, rfl⟩ := List.mem_map.mp member
  refine nothing entry.1 entry.2 ?_
  rintro rfl
  have erased : (tasks.erase entry.1).lookup entry.1 = some entry.2 :=
    Table.mem_entries_iff_lookup.mp listed
  rw [AList.lookup_erase] at erased
  cases erased

theorem weight_eq_zero {M : Type z} [AddCommMonoid M] {own : Nat → Task → M}
    {tasks : Table Nat Task}
    (nothing : ∀ id task, tasks.lookup id = some task → own id task = 0) :
    weight own tasks = 0 := by
  unfold weight
  refine List.sum_eq_zero ?_
  intro value member
  obtain ⟨entry, listed, rfl⟩ := List.mem_map.mp member
  exact nothing entry.1 entry.2 (Table.mem_entries_iff_lookup.mp listed)

theorem own_add_own_le_weight (nonneg : ∀ id task, 0 ≤ own id task) {tasks : Table Nat Task}
    {id other : Nat} {task bystander : Task} (present : tasks.lookup id = some task)
    (beside : tasks.lookup other = some bystander) (different : other ≠ id) :
    own id task + own other bystander ≤ weight own tasks := by
  have others : (tasks.erase id).lookup other = some bystander := by
    rw [Table.lookup_erase_eq, if_neg different]
    exact beside
  rw [weight_erase own present, add_comm (own id task), add_comm (own id task)]
  exact add_le_add_left (own_le_weight nonneg others) _

end

end Tasks
