/-!
Labelled transition systems, their finite runs and the rules by which facts
about runs are proved.

A run extends at its end, so that an induction over a run meets the last step
with everything before it already done.  A system restricted by a guard takes
the same steps, but only where the guard admits them; facts about guarded runs
are facts about the restricted system.
-/

namespace TransitionSystem

universe u v

structure System (State : Type u) (Event : Type v) where
  initial : State → Prop
  step : State → Event → State → Prop

variable {State : Type u} {Event : Type v}

inductive System.Run (system : System State Event) (first : State) :
    List Event → State → Prop
  | nil : system.Run first [] first
  | snoc {middle last : State} {events : List Event} {event : Event} :
      system.Run first events middle → system.step middle event last →
        system.Run first (events ++ [event]) last

def System.Reachable (system : System State Event) (state : State) : Prop :=
  ∃ first events, system.initial first ∧ system.Run first events state

/-- A system whose events act as functions on the state. -/
def System.ofFunction (initial : State → Prop)
    (next : State → Event → State) : System State Event :=
  { initial := initial
    step := fun before event after => after = next before event }

/-- The steps of a system that a guard on the state before the step admits. -/
def System.restrict (system : System State Event)
    (guard : State → Event → Prop) : System State Event :=
  { initial := system.initial
    step := fun before event after =>
      guard before event ∧ system.step before event after }

variable {first state : State} {system : System State Event} {events : List Event}
  {guard kind : State → Event → Prop} {property initial : State → Prop}
  {next : State → Event → State}

theorem System.Run.append {middle last : State} {early late : List Event}
    (before : system.Run first early middle) (after : system.Run middle late last) :
    system.Run first (early ++ late) last := by
  induction after with
  | nil =>
      rw [List.append_nil]
      exact before
  | snoc _ stepped extended =>
      rw [← List.append_assoc]
      exact .snoc extended stepped

theorem System.Run.single {before after : State} {event : Event}
    (stepped : system.step before event after) :
    system.Run before [event] after := by
  have run : system.Run before ([] ++ [event]) after := .snoc .nil stepped
  rw [List.nil_append] at run
  exact run

theorem System.Run.mono {other : System State Event} {last : State}
    (run : system.Run first events last)
    (steps : ∀ before event after, system.step before event after →
      other.step before event after) : other.Run first events last := by
  induction run with
  | nil => exact .nil
  | snoc _ stepped extended => exact .snoc extended (steps _ _ _ stepped)

theorem System.Run.of_restrict {last : State}
    (run : (system.restrict guard).Run first events last) :
    system.Run first events last :=
  run.mono (fun _ _ _ stepped => stepped.2)

theorem System.Reachable.step {before after : State} {event : Event}
    (reached : system.Reachable before) (stepped : system.step before event after) :
    system.Reachable after := by
  obtain ⟨first, events, initial, run⟩ := reached
  exact ⟨first, events ++ [event], initial, .snoc run stepped⟩

theorem System.Reachable.of_restrict (reached : (system.restrict guard).Reachable state) :
    system.Reachable state := by
  obtain ⟨first, events, initial, run⟩ := reached
  exact ⟨first, events, initial, run.of_restrict⟩

theorem System.Reachable.of_guard (reached : system.Reachable state)
    (admits : ∀ state event, guard state event) :
    (system.restrict guard).Reachable state := by
  obtain ⟨first, events, initial, run⟩ := reached
  exact ⟨first, events, initial, run.mono (fun _ _ _ stepped => ⟨admits _ _, stepped⟩)⟩

theorem System.Reachable.weaken {weaker : State → Event → Prop}
    (reached : (system.restrict guard).Reachable state)
    (admits : ∀ state event, guard state event → weaker state event) :
    (system.restrict weaker).Reachable state := by
  obtain ⟨first, events, initial, run⟩ := reached
  refine ⟨first, events, initial, run.mono ?_⟩
  exact fun _ _ _ stepped => ⟨admits _ _ stepped.1, stepped.2⟩

theorem System.Run.preserves (preserved : ∀ before event after, system.step before event after →
      property before → property after) {last : State} (run : system.Run first events last)
    (start : property first) :
    property last := by
  induction run with
  | nil => exact start
  | snoc _ stepped held => exact preserved _ _ _ stepped held

theorem System.Run.length_le {measure : State → Nat}
    (lowers : ∀ before event after, system.step before event after →
      measure after < measure before) {last : State} (run : system.Run first events last) :
    events.length + measure last ≤ measure first := by
  induction run with
  | nil => exact Nat.le_of_eq (Nat.zero_add _)
  | @snoc middle last events event _ stepped bounded =>
      have lower := lowers middle event last stepped
      rw [List.length_append, List.length_singleton]
      omega

theorem System.Reachable.invariant (start : ∀ state, system.initial state → property state)
    (preserved : ∀ before event after, system.step before event after →
      property before → property after) (reached : system.Reachable state) : property state := by
  obtain ⟨first, events, initial, run⟩ := reached
  exact run.preserves preserved (start first initial)

/-- The invariant rule with the help of facts known of every reachable state. -/
theorem System.Reachable.invariant_with {known : State → Prop}
    (holds : ∀ state, system.Reachable state → known state)
    (start : ∀ state, system.initial state → property state)
    (preserved : ∀ before event after, known before → system.step before event after →
      property before → property after) (reached : system.Reachable state) : property state := by
  obtain ⟨first, events, initial, run⟩ := reached
  induction run with
  | nil => exact start first initial
  | @snoc middle last events event earlier stepped held =>
      exact preserved middle event last (holds middle ⟨first, events, initial, earlier⟩)
        stepped held

/-- A reflexive and transitive relation that contains every step taken from a
state of an invariant contains every run from such a state. -/
theorem System.Run.relation (relation : State → State → Prop) (refl : ∀ state, relation state state)
    (trans : ∀ first middle last,
      relation first middle → relation middle last → relation first last)
    (preserved : ∀ before event after, system.step before event after →
      property before → property after)
    (contained : ∀ before event after, system.step before event after →
      property before → relation before after) {last : State} (run : system.Run first events last)
    (start : property first) :
    relation first last := by
  induction run with
  | nil => exact refl _
  | snoc earlier stepped held =>
      have middle := earlier.preserves preserved start
      exact trans _ _ _ held (contained _ _ _ stepped middle)

/-- A property that a run has at its start and not at its end is lost by one
of its steps. -/
theorem System.Run.exists_losing_step (property : State → Prop) {last : State}
    (run : system.Run first events last) (start : property first) (lost : ¬ property last) :
    ∃ early event late before after,
      events = early ++ event :: late ∧
        system.Run first early before ∧ system.step before event after ∧
        system.Run after late last ∧ property before ∧ ¬ property after := by
  induction run with
  | nil => exact absurd start lost
  | @snoc middle last events event earlier stepped found =>
      by_cases held : property middle
      · exact ⟨events, event, [], middle, last, rfl, earlier, stepped,
          .nil, held, lost⟩
      · obtain ⟨early, losing, late, before, after, split, toBefore, loses,
          fromAfter, had, lacks⟩ := found held
        refine ⟨early, losing, late ++ [event], before, after, ?_, toBefore,
          loses, .snoc fromAfter stepped, had, lacks⟩
        rw [split, List.append_assoc, List.cons_append]

/-- Take the events that a test admits one after another. -/
def replay (next : State → Event → State) (admits : State → Event → Bool) :
    State → List Event → Option State
  | state, [] => some state
  | state, event :: rest =>
      if admits state event then replay next admits (next state event) rest else none

theorem System.Run.of_replay {admits : State → Event → Bool}
    (sound : ∀ state event, admits state event = true →
      system.step state event (next state event)) {last : State}
    (replayed : replay next admits first events = some last) :
    system.Run first events last := by
  induction events generalizing first with
  | nil =>
      cases replayed
      exact .nil
  | cons event rest ih =>
      unfold replay at replayed
      split at replayed
      · rename_i admitted
        exact (System.Run.single (sound first event admitted)).append (ih replayed)
      · cases replayed

theorem System.Run.of_foldl (events : List Event) :
    (System.ofFunction initial next).Run state events (events.foldl next state) := by
  induction events generalizing state with
  | nil => exact .nil
  | cons event rest ih =>
      have one : (System.ofFunction initial next).Run state [event] (next state event) :=
        .single rfl
      exact one.append ih

theorem System.Reachable.of_foldl (starts : initial first) (events : List Event) :
    (System.ofFunction initial next).Reachable (events.foldl next first) :=
  ⟨first, events, starts, .of_foldl events⟩

/-- Whether every event passes a test in the state that it is taken from. -/
def checked (next : State → Event → State) (check : State → Event → Bool) :
    State → List Event → Bool
  | _, [] => true
  | state, event :: rest => check state event && checked next check (next state event) rest

theorem System.Run.of_checked {check : State → Event → Bool}
    (admits : ∀ state event, check state event = true → guard state event)
    (passes : checked next check state events = true) :
    ((System.ofFunction initial next).restrict guard).Run state events
      (events.foldl next state) := by
  induction events generalizing state with
  | nil => exact .nil
  | cons event rest ih =>
      unfold checked at passes
      rw [Bool.and_eq_true] at passes
      have one : ((System.ofFunction initial next).restrict guard).Run state [event]
          (next state event) := .single ⟨admits state event passes.1, rfl⟩
      exact one.append (ih passes.2)

/-- Some event of the run was of a kind, in the state it was taken from. -/
def System.Occurred (system : System State Event) (first : State)
    (events : List Event) (kind : State → Event → Prop) : Prop :=
  ∃ early event late before, events = early ++ event :: late ∧
    system.Run first early before ∧ kind before event

theorem System.Occurred.snoc (occurred : system.Occurred first events kind) (next : Event) :
    system.Occurred first (events ++ [next]) kind := by
  obtain ⟨early, event, late, before, split, run, held⟩ := occurred
  refine ⟨early, event, late ++ [next], before, ?_, run, held⟩
  rw [split, List.append_assoc, List.cons_append]

theorem System.Occurred.last {before : State} {event : Event} (run : system.Run first events before)
    (held : kind before event) :
    system.Occurred first (events ++ [event]) kind :=
  ⟨events, event, [], before, rfl, run, held⟩

theorem System.Occurred.append {early : List Event} (occurred : system.Occurred first early kind)
    (late : List Event) :
    system.Occurred first (early ++ late) kind := by
  obtain ⟨before, event, after, state, split, run, held⟩ := occurred
  refine ⟨before, event, after ++ late, state, ?_, run, held⟩
  rw [split, List.append_assoc, List.cons_append]

/-- A run in which nothing happened that a guard forbids is a run under the guard. -/
theorem System.Run.guarded {last : State} (run : system.Run first events last)
    (never : ¬ system.Occurred first events (fun state event => ¬ guard state event)) :
    (system.restrict guard).Run first events last := by
  induction run with
  | nil => exact .nil
  | @snoc middle last events event earlier stepped ih =>
      have admitted : guard middle event :=
        Classical.byContradiction (fun forbidden => never (.last earlier forbidden))
      exact .snoc (ih (fun occurred => never (occurred.snoc event))) ⟨admitted, stepped⟩

end TransitionSystem
