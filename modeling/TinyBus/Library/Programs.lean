import Mathlib.Algebra.Order.Ring.Nat
import TinyBus.Library.Weights

/-!
Tasks that have a list of actions to take.

The first action is taken, and what it gives goes in front of what was still to do.  So
a fact about a task is one about its actions: what each of them weighs, or what each of
them knows of what is shared.
-/

open TransitionSystem

universe u v w x z

namespace Programs

variable {Shared : Type u} {Action : Type v} {Call : Type w} {Choice : Type x}

abbrev Act (Shared : Type u) (Action : Type v) (Choice : Type x) :=
  Nat → Choice → Shared → Action → Option (Shared × List Action)

def step (act : Act Shared Action Choice) (self : Nat) (choice : Choice) (shared : Shared) :
    List Action → Option (Shared × List Action)
  | [] => none
  | action :: rest => (act self choice shared action).map (fun done => (done.1, done.2 ++ rest))

def kind (program : Call → List Action) (act : Act Shared Action Choice) :
    Tasks.Kind Shared (List Action) Call Choice Empty where
  start := program
  step := step act
  outside := fun event _ => event.elim

def system (program : Call → List Action) (act : Act Shared Action Choice)
    (initial : Shared → Prop) :
    System (Tasks Shared (List Action)) (Tasks.Event Call Choice Empty) :=
  Tasks.system (kind program act) initial

variable {program : Call → List Action} {act : Act Shared Action Choice}
  {initial : Shared → Prop}

theorem step_acts {self : Nat} {choice : Choice} {shared after : Shared}
    {task stepped : List Action} (done : step act self choice shared task = some (after, stepped)) :
    ∃ action rest more, task = action :: rest ∧ stepped = more ++ rest ∧
      act self choice shared action = some (after, more) := by
  cases task with
  | nil => cases done
  | cons action rest =>
      obtain ⟨⟨later, more⟩, acted, same⟩ := Option.map_eq_some_iff.mp done
      cases same
      exact ⟨action, rest, more, rfl, rfl, acted⟩

section

variable {M : Type z} [AddCommMonoid M]

/-- What the actions of a task weigh together. -/
def weigh (measure : Action → M) (task : List Action) : M := (task.map measure).sum

@[simp]
theorem weigh_nil (measure : Action → M) : weigh measure [] = 0 := rfl

@[simp]
theorem weigh_cons (measure : Action → M) (action : Action) (rest : List Action) :
    weigh measure (action :: rest) = measure action + weigh measure rest := by
  unfold weigh
  rw [List.map_cons, List.sum_cons]

@[simp]
theorem weigh_append (measure : Action → M) (early late : List Action) :
    weigh measure (early ++ late) = weigh measure early + weigh measure late := by
  unfold weigh
  rw [List.map_append, List.sum_append]

variable [PartialOrder M] [IsOrderedCancelAddMonoid M]

theorem lightens_of_acts {common : Shared → M} {measure : Action → M}
    {guard : Tasks Shared (List Action) → Tasks.Event Call Choice Empty → Prop}
    (start : ∀ call, weigh measure (program call) = 0)
    (acts : ∀ self choice shared action after more,
      act self choice shared action = some (after, more) →
        common after + weigh measure more ≤ common shared + measure action) :
    Tasks.Lightens (kind program act) guard common (fun _ => weigh measure) where
  start := fun _ call => start call
  step := by
    intro state id choice task after stepped _ _ done
    obtain ⟨action, rest, more, rfl, rfl, acted⟩ := step_acts done
    rw [weigh_cons, weigh_append, ← add_assoc, ← add_assoc]
    exact add_le_add_left (acts id choice state.shared action after more acted) _
  outside := fun event _ => event.elim

end

theorem le_weigh_of_mem {measure : Action → Nat} {task : List Action} {action : Action}
    (member : action ∈ task) : measure action ≤ weigh measure task :=
  List.le_sum_of_mem (List.mem_map_of_mem member)

/-- An action that is not the one that a task takes next: it comes later in that task, or
another task has it. -/
def Beside (state : Tasks Shared (List Action)) (id : Nat) (rest : List Action)
    (beside : Action) : Prop :=
  beside ∈ rest ∨ ∃ other task, other ≠ id ∧ state.tasks.lookup other = some task ∧ beside ∈ task

section

variable {measure : Action → Nat} {state : Tasks Shared (List Action)} {id : Nat}

theorem mem_le_weight {task : List Action} {action : Action}
    (present : state.tasks.lookup id = some task) (member : action ∈ task) :
    measure action ≤ Tasks.weight (fun _ => weigh measure) state.tasks := by
  have nonneg (_ : Nat) (task : List Action) : 0 ≤ weigh measure task := Nat.zero_le _
  exact Nat.le_trans (le_weigh_of_mem member) (Tasks.own_le_weight nonneg present)

/-- The next action of a task and one beside it weigh no more than all of them. -/
theorem beside_le_weight {action beside : Action} {rest : List Action}
    (present : state.tasks.lookup id = some (action :: rest)) (apart : Beside state id rest beside) :
    measure action + measure beside ≤ Tasks.weight (fun _ => weigh measure) state.tasks := by
  have nonneg (_ : Nat) (task : List Action) : 0 ≤ weigh measure task := Nat.zero_le _
  rcases apart with later | ⟨other, task, different, found, member⟩
  · have own := Tasks.own_le_weight nonneg present
    have theirs : measure beside ≤ weigh measure rest := le_weigh_of_mem later
    rw [weigh_cons] at own
    omega
  · have both := Tasks.own_add_own_le_weight nonneg present found different
    have theirs : measure beside ≤ weigh measure task := le_weigh_of_mem member
    rw [weigh_cons] at both
    omega

end

/-- A fact about what is shared, and what every action that is still to be taken knows
of it. -/
structure Informed (common : Shared → Prop) (knows : Shared → Action → Prop)
    (state : Tasks Shared (List Action)) : Prop where
  common : common state.shared
  knows : ∀ id task, state.tasks.lookup id = some task →
    ∀ action ∈ task, knows state.shared action

/-- What an action brings about: the fact, what the new actions know, and what the
actions beside it still know. -/
structure Informs (common : Shared → Prop) (knows : Shared → Action → Prop)
    (state : Tasks Shared (List Action)) (id : Nat) (rest : List Action) (after : Shared)
    (more : List Action) : Prop where
  common : common after
  more : ∀ action ∈ more, knows after action
  others : ∀ beside, Beside state id rest beside → knows state.shared beside →
    knows after beside

theorem informed_of_acts {common : Shared → Prop} {knows : Shared → Action → Prop}
    (begins : ∀ shared, initial shared → common shared)
    (start : ∀ call shared, ∀ action ∈ program call, knows shared action)
    (acts : ∀ state id choice action rest after more,
      (system program act initial).Reachable state → Informed common knows state →
        state.tasks.lookup id = some (action :: rest) →
          act id choice state.shared action = some (after, more) →
            Informs common knows state id rest after more)
    {state : Tasks Shared (List Action)}
    (reached : (system program act initial).Reachable state) : Informed common knows state := by
  apply reached.invariant_with (fun _ reached => reached)
  · rintro first ⟨starts, empty⟩
    refine ⟨begins first.shared starts, ?_⟩
    intro id task found
    rw [empty] at found
    cases found
  · rintro before event after reached rfl informed
    have moved := Tasks.next_moved (kind program act) before event
    generalize Tasks.next (kind program act) before event = next at moved
    cases moved with
    | still => exact informed
    | @around event => exact event.elim
    | @started id call vacant =>
        refine ⟨informed.common, ?_⟩
        intro other task found
        dsimp only at found ⊢
        rw [Table.lookup_insert_eq] at found
        split at found
        · cases found
          exact start call before.shared
        · exact informed.knows other task found
    | @stepped id choice task stepped shared present taken =>
        obtain ⟨action, rest, more, rfl, rfl, acted⟩ := step_acts taken
        have brings := acts before id choice action rest shared more reached informed present acted
        refine ⟨brings.common, ?_⟩
        intro other task found next member
        dsimp only at found ⊢
        rw [Table.lookup_insert_eq] at found
        split at found
        · cases found
          rcases List.mem_append.mp member with new | old
          · exact brings.more next new
          · refine brings.others next (.inl old) ?_
            exact informed.knows id _ present next (List.mem_cons_of_mem action old)
        · rename_i different
          refine brings.others next (.inr ⟨other, task, different, found, member⟩) ?_
          exact informed.knows other task found next member

end Programs
