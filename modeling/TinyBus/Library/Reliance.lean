/-!
What the actions of a program rely on.

An action may rely on facts that the actions before it bring, or that hold already
and that nobody takes back.  A program is covered where each of its actions finds
what it relies on; it stays covered while others only add to the facts.
-/

universe u v

/-- The facts that an action relies on, and those that it brings for the ones after it. -/
structure Reliance (Action : Type u) (Fact : Type v) where
  relies : Action → List Fact
  brings : Action → List Fact

namespace Reliance

variable {Action : Type u} {Fact : Type v} (reliance : Reliance Action Fact)

def Covers (holds : Fact → Prop) : List Action → Prop
  | [] => True
  | action :: rest =>
      (∀ fact ∈ reliance.relies action, holds fact) ∧
        Covers (fun fact => holds fact ∨ fact ∈ reliance.brings action) rest

variable {reliance} {holds later : Fact → Prop} {action : Action} {rest more : List Action}

theorem Covers.mono {program : List Action} (covers : reliance.Covers holds program)
    (stays : ∀ action ∈ program, ∀ fact ∈ reliance.relies action, holds fact → later fact) :
    reliance.Covers later program := by
  induction program generalizing holds later with
  | nil => trivial
  | cons action rest ih =>
      refine ⟨?_, ih covers.2 ?_⟩
      · intro fact relied
        exact stays action List.mem_cons_self fact relied (covers.1 fact relied)
      · intro next among fact relied holding
        rcases holding with held | brought
        · exact .inl (stays next (List.mem_cons_of_mem _ among) fact relied held)
        · exact .inr brought

theorem Covers.append {front back : List Action} (first : reliance.Covers holds front)
    (second : reliance.Covers holds back) : reliance.Covers holds (front ++ back) := by
  induction front generalizing holds with
  | nil => exact second
  | cons action rest ih =>
      refine ⟨first.1, ih first.2 ?_⟩
      exact second.mono (fun _ _ _ _ held => .inl held)

/-- An action is gone, and what comes in its place is covered by what there is then. -/
theorem Covers.step (covers : reliance.Covers holds (action :: rest))
    (stays : ∀ next ∈ rest, ∀ fact ∈ reliance.relies next, holds fact → later fact)
    (brings : ∀ fact ∈ reliance.brings action, later fact)
    (front : reliance.Covers later more) : reliance.Covers later (more ++ rest) := by
  refine front.append (covers.2.mono ?_)
  intro next among fact relied holding
  rcases holding with held | brought
  · exact stays next among fact relied held
  · exact brings fact brought

end Reliance
