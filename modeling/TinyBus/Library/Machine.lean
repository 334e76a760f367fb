/-!
Machines that answer every operation, their runs, and simulation between two of them.

A run collects the answers; an abstract machine simulates a concrete one if from related
states every operation is answered alike and leaves related states.
-/

universe u v w x

/-- A state, and what every operation answers and leaves. -/
structure Machine (State : Type u) (Operation : Type v) (Answer : Type w) where
  start : State
  perform : State → Operation → Answer × State

namespace Machine

variable {State : Type u} {Abstract : Type x} {Operation : Type v} {Answer : Type w}

/-- The answers to a list of operations, and the state they leave. -/
def runFrom (machine : Machine State Operation Answer) (state : State) :
    List Operation → List Answer × State
  | [] => ([], state)
  | operation :: later =>
      let performed := machine.perform state operation
      let rest := machine.runFrom performed.2 later
      (performed.1 :: rest.1, rest.2)

def run (machine : Machine State Operation Answer) (operations : List Operation) :
    List Answer × State := machine.runFrom machine.start operations

variable {machine : Machine State Operation Answer} {abstract : Machine Abstract Operation Answer}

theorem runFrom_append (state : State) (early late : List Operation) :
    machine.runFrom state (early ++ late) =
      ((machine.runFrom state early).1 ++
          (machine.runFrom (machine.runFrom state early).2 late).1,
        (machine.runFrom (machine.runFrom state early).2 late).2) := by
  induction early generalizing state with
  | nil => rfl
  | cons operation rest ih =>
      rw [List.cons_append, runFrom, ih]
      rfl

/-- What holds between the states around one operation, whatever it is, holds between
the states around a run of them. -/
theorem runFrom_relates {Related : State → State → Prop} (refl : ∀ state, Related state state)
    (trans : ∀ {first second third}, Related first second → Related second third →
      Related first third)
    (step : ∀ state operation, Related state (machine.perform state operation).2)
    (state : State) (operations : List Operation) :
    Related state (machine.runFrom state operations).2 := by
  induction operations generalizing state with
  | nil => exact refl state
  | cons operation rest ih => exact trans (step state operation) (ih _)

/-- From related states every operation is answered alike, and leaves related states. -/
structure Simulates (machine : Machine State Operation Answer)
    (abstract : Machine Abstract Operation Answer) (Related : State → Abstract → Prop) :
    Prop where
  start : Related machine.start abstract.start
  answers : ∀ {state mirror}, Related state mirror → ∀ operation,
    (machine.perform state operation).1 = (abstract.perform mirror operation).1
  leaves : ∀ {state mirror}, Related state mirror → ∀ operation,
    Related (machine.perform state operation).2 (abstract.perform mirror operation).2

variable {Related : State → Abstract → Prop}

theorem Simulates.runFrom (simulates : Simulates machine abstract Related) {state : State}
    {mirror : Abstract} (related : Related state mirror) (operations : List Operation) :
    (machine.runFrom state operations).1 = (abstract.runFrom mirror operations).1 ∧
      Related (machine.runFrom state operations).2 (abstract.runFrom mirror operations).2 := by
  induction operations generalizing state mirror with
  | nil => exact ⟨rfl, related⟩
  | cons operation rest ih =>
      obtain ⟨answers, left⟩ := ih (simulates.leaves related operation)
      refine ⟨?_, left⟩
      unfold Machine.runFrom
      dsimp only
      rw [simulates.answers related operation, answers]

theorem Simulates.run (simulates : Simulates machine abstract Related)
    (operations : List Operation) :
    (machine.run operations).1 = (abstract.run operations).1 ∧
      Related (machine.run operations).2 (abstract.run operations).2 :=
  simulates.runFrom simulates.start operations

end Machine
