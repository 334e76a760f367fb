import TinyBus.Library.Table
import TinyBus.Library.Transition

/-!
Tasks that run at once over what they share.

A task takes one step at a time, and so does its surroundings; a step that cannot
be taken yet changes nothing.  An invariant has a part about what is shared and a
part about each task.  To prove it, one task is looked at while it steps, and the
part about another task has to bear what the step did to what is shared.
-/

open TransitionSystem

universe u v w x y

/-- What tasks share, and the tasks that were started, by number. -/
structure Tasks (Shared : Type u) (Task : Type v) where
  shared : Shared
  tasks : Table Nat Task

namespace Tasks

inductive Event (Call : Type w) (Choice : Type x) (Outside : Type y) where
  | start (id : Nat) (call : Call)
  | advance (id : Nat) (choice : Choice)
  | outside (event : Outside)

/-- How tasks of a kind start and step, and what happens around them. -/
structure Kind (Shared : Type u) (Task : Type v) (Call : Type w) (Choice : Type x)
    (Outside : Type y) where
  start : Call → Task
  step : Nat → Choice → Shared → Task → Option (Shared × Task)
  outside : Outside → Tasks Shared Task → Shared

variable {Shared : Type u} {Task : Type v} {Call : Type w} {Choice : Type x}
  {Outside : Type y}

/-- A task starts under a number that no other task has. -/
def next (kind : Kind Shared Task Call Choice Outside) (state : Tasks Shared Task) :
    Event Call Choice Outside → Tasks Shared Task
  | .start id call =>
      match state.tasks.lookup id with
      | some _ => state
      | none => { state with tasks := state.tasks.insert id (kind.start call) }
  | .advance id choice =>
      match state.tasks.lookup id with
      | none => state
      | some task =>
          match kind.step id choice state.shared task with
          | none => state
          | some (shared, stepped) =>
              { shared := shared, tasks := state.tasks.insert id stepped }
  | .outside event => { state with shared := kind.outside event state }

def system (kind : Kind Shared Task Call Choice Outside) (initial : Shared → Prop) :
    System (Tasks Shared Task) (Event Call Choice Outside) :=
  System.ofFunction (fun state => initial state.shared ∧ state.tasks = ∅) (next kind)

/-- The inversion of `next`. -/
inductive Moved (kind : Kind Shared Task Call Choice Outside) (state : Tasks Shared Task) :
    Event Call Choice Outside → Tasks Shared Task → Prop
  | still {event : Event Call Choice Outside} : Moved kind state event state
  | started {id : Nat} {call : Call} (vacant : state.tasks.lookup id = none) :
      Moved kind state (.start id call)
        { state with tasks := state.tasks.insert id (kind.start call) }
  | stepped {id : Nat} {choice : Choice} {task stepped : Task} {shared : Shared}
      (present : state.tasks.lookup id = some task)
      (taken : kind.step id choice state.shared task = some (shared, stepped)) :
      Moved kind state (.advance id choice)
        { shared := shared, tasks := state.tasks.insert id stepped }
  | around {event : Outside} :
      Moved kind state (.outside event) { state with shared := kind.outside event state }

theorem next_moved (kind : Kind Shared Task Call Choice Outside)
    (state : Tasks Shared Task) (event : Event Call Choice Outside) :
    Moved kind state event (next kind state event) := by
  cases event with
  | start id call =>
      unfold next
      dsimp only
      split
      · exact .still
      · rename_i vacant
        exact .started vacant
  | advance id choice =>
      unfold next
      dsimp only
      split
      · exact .still
      · rename_i task present
        split
        · exact .still
        · rename_i shared stepped taken
          exact .stepped present taken
  | outside event => exact .around

variable {state : Tasks Shared Task}

theorem next_advance (kind : Kind Shared Task Call Choice Outside) {id : Nat} {choice : Choice}
    {task stepped : Task} {shared : Shared} (present : state.tasks.lookup id = some task)
    (taken : kind.step id choice state.shared task = some (shared, stepped)) :
    next kind state (.advance id choice) =
      { shared := shared, tasks := state.tasks.insert id stepped } := by
  unfold next
  simp only [present, taken]

/-- A fact about the whole and a fact about each task beside what is shared. -/
structure Sound (common : Tasks Shared Task → Prop) (own : Nat → Shared → Task → Prop)
    (state : Tasks Shared Task) : Prop where
  common : common state
  own : ∀ id task, state.tasks.lookup id = some task → own id state.shared task

/-- What it takes for an invariant to be kept by the steps that a guard admits. -/
structure Keeps (kind : Kind Shared Task Call Choice Outside)
    (common : Tasks Shared Task → Prop) (own : Nat → Shared → Task → Prop)
    (guard : Tasks Shared Task → Event Call Choice Outside → Prop) : Prop where
  start : ∀ state id call, Sound common own state → guard state (.start id call) →
    state.tasks.lookup id = none →
    common { state with tasks := state.tasks.insert id (kind.start call) } ∧
      own id state.shared (kind.start call)
  step : ∀ state id choice task shared stepped, Sound common own state →
    guard state (.advance id choice) → state.tasks.lookup id = some task →
      kind.step id choice state.shared task = some (shared, stepped) →
        common { shared := shared, tasks := state.tasks.insert id stepped } ∧
          own id shared stepped
  other : ∀ state id choice task shared stepped other bystander, Sound common own state →
    guard state (.advance id choice) → state.tasks.lookup id = some task →
      kind.step id choice state.shared task = some (shared, stepped) →
        other ≠ id → state.tasks.lookup other = some bystander →
          own other shared bystander
  outside : ∀ state event, Sound common own state → guard state (.outside event) →
    Sound common own { state with shared := kind.outside event state }

variable {kind : Kind Shared Task Call Choice Outside} {common : Tasks Shared Task → Prop}
  {own : Nat → Shared → Task → Prop}
  {guard : Tasks Shared Task → Event Call Choice Outside → Prop}

theorem Sound.next (keeps : Keeps kind common own guard) (sound : Sound common own state)
    {event : Event Call Choice Outside}
    (admitted : guard state event) : Sound common own (next kind state event) := by
  have moved := next_moved kind state event
  generalize Tasks.next kind state event = after at moved
  cases moved with
  | still => exact sound
  | @started id call vacant =>
      obtain ⟨commonly, owned⟩ := keeps.start state id call sound admitted vacant
      refine ⟨commonly, ?_⟩
      intro other task found
      dsimp only at found ⊢
      rw [Table.lookup_insert_eq] at found
      split at found
      · rename_i same
        cases found
        rw [same]
        exact owned
      · exact sound.own other task found
  | @stepped id choice task stepped shared present taken =>
      obtain ⟨commonly, owned⟩ :=
        keeps.step state id choice task shared stepped sound admitted present taken
      refine ⟨commonly, ?_⟩
      intro other bystander found
      dsimp only at found ⊢
      rw [Table.lookup_insert_eq] at found
      split at found
      · rename_i same
        cases found
        rw [same]
        exact owned
      · rename_i different
        exact keeps.other state id choice task shared stepped other bystander sound
          admitted present taken different found
  | @around event => exact keeps.outside state event sound admitted

theorem sound_of_keeps {initial : Shared → Prop} (keeps : Keeps kind common own guard)
    (begins : ∀ state : Tasks Shared Task, initial state.shared → state.tasks = ∅ →
      common state) (reached : ((system kind initial).restrict guard).Reachable state) :
    Sound common own state := by
  apply reached.invariant
  · rintro first ⟨starts, empty⟩
    refine ⟨begins first starts empty, ?_⟩
    intro id task found
    rw [empty] at found
    cases found
  · rintro before event after ⟨admitted, rfl⟩ sound
    exact sound.next keeps admitted

end Tasks
