import TinyBus.Library.Tasks

/-!
Runs of tasks beside one another.  A run is mirrored by one that leaves out some of its
events, where every step is either taken on both sides or leaves the image as it is.
-/

open TransitionSystem

universe u v w x y

namespace Tasks

variable {Shared : Type u} {Task : Type v} {Call : Type w} {Choice : Type x}
  {Outside : Type y}

/-- What is shared is alike, and each task has its image. -/
structure Beside (alike : Shared → Shared → Prop) (image : Nat → Shared → Task → Task → Prop)
    (state other : Tasks Shared Task) : Prop where
  shared : alike state.shared other.shared
  tasks : ∀ id, Option.Rel (image id state.shared) (state.tasks.lookup id) (other.tasks.lookup id)

/-- What it takes for the steps that a guard admits to be mirrored by admitted steps. -/
structure Mirrors (kind : Kind Shared Task Call Choice Outside)
    (alike : Shared → Shared → Prop) (image : Nat → Shared → Task → Task → Prop)
    (guard allowed : Tasks Shared Task → Event Call Choice Outside → Prop) : Prop where
  start : ∀ other id call, allowed other (.start id call)
  started : ∀ shared id call, image id shared (kind.start call) (kind.start call)
  step : ∀ state other id choice task mirrored shared stepped, Beside alike image state other →
    guard state (.advance id choice) → state.tasks.lookup id = some task →
      other.tasks.lookup id = some mirrored →
      kind.step id choice state.shared task = some (shared, stepped) →
        (alike shared other.shared ∧ image id shared stepped mirrored) ∨
        ∃ shared' stepped', allowed other (.advance id choice) ∧
          kind.step id choice other.shared mirrored = some (shared', stepped') ∧
          alike shared shared' ∧ image id shared stepped stepped'
  bystander : ∀ state id choice task shared stepped other bystander mirrored,
    kind.step id choice state task = some (shared, stepped) →
      image other state bystander mirrored → image other shared bystander mirrored
  outside : ∀ state other event, Beside alike image state other →
    allowed other (.outside event) ∧
      Beside alike image { state with shared := kind.outside event state }
        { other with shared := kind.outside event other }

variable {kind : Kind Shared Task Call Choice Outside} {alike : Shared → Shared → Prop}
  {image : Nat → Shared → Task → Task → Prop}
  {guard allowed : Tasks Shared Task → Event Call Choice Outside → Prop}

theorem image_insert {tasks tasks' : Table Nat Task} {id : Nat} {shared : Shared}
    {task task' : Task} (own : image id shared task task')
    (others : ∀ other, other ≠ id →
      Option.Rel (image other shared) (tasks.lookup other) (tasks'.lookup other)) (other : Nat) :
    Option.Rel (image other shared) ((tasks.insert id task).lookup other)
      ((tasks'.insert id task').lookup other) := by
  rw [Table.lookup_insert_eq, Table.lookup_insert_eq]
  by_cases same : other = id
  · rw [if_pos same, if_pos same, same]
    exact .some own
  · rw [if_neg same, if_neg same]
    exact others other same

theorem image_insert_left {tasks tasks' : Table Nat Task} {id : Nat} {shared : Shared}
    {task task' : Task} (present : tasks'.lookup id = some task')
    (own : image id shared task task')
    (others : ∀ other, other ≠ id →
      Option.Rel (image other shared) (tasks.lookup other) (tasks'.lookup other)) (other : Nat) :
    Option.Rel (image other shared) ((tasks.insert id task).lookup other)
      (tasks'.lookup other) := by
  rw [Table.lookup_insert_eq]
  by_cases same : other = id
  · rw [if_pos same, same, present]
    exact .some own
  · rw [if_neg same]
    exact others other same

variable {other state : Tasks Shared Task}

theorem Beside.image_some (beside : Beside alike image state other) {id : Nat} {task : Task}
    (present : state.tasks.lookup id = some task) :
    ∃ mirrored, other.tasks.lookup id = some mirrored ∧ image id state.shared task mirrored := by
  have related := beside.tasks id
  rw [present] at related
  cases found : other.tasks.lookup id with
  | none =>
      rw [found] at related
      cases related
  | some mirrored =>
      rw [found] at related
      cases related with
      | some own => exact ⟨mirrored, rfl, own⟩

theorem Beside.image_none (beside : Beside alike image state other) {id : Nat}
    (vacant : state.tasks.lookup id = none) : other.tasks.lookup id = none := by
  have related := beside.tasks id
  rw [vacant] at related
  cases found : other.tasks.lookup id with
  | none => rfl
  | some mirrored =>
      rw [found] at related
      cases related

theorem Beside.next (mirrors : Mirrors kind alike image guard allowed)
    (beside : Beside alike image state other) {event : Event Call Choice Outside}
    (admitted : guard state event) :
    Beside alike image (next kind state event) other ∨
      allowed other event ∧
        Beside alike image (next kind state event) (next kind other event) := by
  have moved := next_moved kind state event
  generalize Tasks.next kind state event = after at moved
  cases moved with
  | still => exact .inl beside
  | @started id call vacant =>
      have absent := beside.image_none vacant
      have started : Tasks.next kind other (.start id call) =
          { other with tasks := other.tasks.insert id (kind.start call) } := by
        unfold Tasks.next
        simp only [absent]
      refine .inr ⟨mirrors.start other id call, ?_⟩
      rw [started]
      exact ⟨beside.shared, image_insert (mirrors.started _ id call)
        (fun bystander _ => beside.tasks bystander)⟩
  | @stepped id choice task stepped shared present steps =>
      obtain ⟨mirrored, found, own⟩ := beside.image_some present
      have others : ∀ bystander, bystander ≠ id → Option.Rel (image bystander shared)
          (state.tasks.lookup bystander) (other.tasks.lookup bystander) := by
        intro bystander _
        have related := beside.tasks bystander
        generalize state.tasks.lookup bystander = left at related ⊢
        generalize other.tasks.lookup bystander = right at related ⊢
        cases related with
        | none => exact .none
        | some held =>
            exact .some (mirrors.bystander _ _ _ _ _ _ _ _ _ steps held)
      rcases mirrors.step state other id choice task mirrored shared stepped beside admitted
        present found steps with ⟨still, kept⟩ | ⟨shared', stepped', follows, taken, both, kept⟩
      · exact .inl ⟨still, image_insert_left found kept others⟩
      · refine .inr ⟨follows, ?_⟩
        rw [next_advance kind found taken]
        exact ⟨both, image_insert kept others⟩
  | @around event =>
      obtain ⟨follows, around⟩ := mirrors.outside state other event beside
      exact .inr ⟨follows, around⟩

theorem mirrored (mirrors : Mirrors kind alike image guard allowed)
    (same : ∀ shared, alike shared shared) {initial : Shared → Prop}
    {first last : Tasks Shared Task} {events : List (Event Call Choice Outside)}
    (starts : (system kind initial).initial first)
    (run : ((system kind initial).restrict guard).Run first events last) :
    ∃ kept other, kept.Sublist events ∧
      ((system kind initial).restrict allowed).Run first kept other ∧
      Beside alike image last other := by
  induction run with
  | nil =>
      refine ⟨[], first, .slnil, .nil, same _, ?_⟩
      intro id
      rw [starts.2]
      exact .none
  | @snoc middle last events event _ stepped ih =>
      obtain ⟨kept, other, within, mirror, beside⟩ := ih
      obtain ⟨admitted, rfl⟩ := stepped
      rcases beside.next mirrors admitted with waits | ⟨follows, both⟩
      · exact ⟨kept, other, within.trans (List.sublist_append_left _ _), mirror, waits⟩
      · exact ⟨kept ++ [event], next kind other event, within.append (List.Sublist.refl _),
          .snoc mirror ⟨follows, rfl⟩, both⟩

end Tasks
