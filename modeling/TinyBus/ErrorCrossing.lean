/-
Errors across the wire.  An error travels as its name beside its prose, and is built
again from these; only a module that is still initializing comes back as what it was.
-/

import TinyBus.Message

namespace TinyBus

def Error.stillInitializing : Error :=
  .moduleUnavailable "module" "initializing" "module initialization is still in progress"

/-- The error that an error message carries; a body that is no string is rendered as
JSON text. -/
def Message.intoError (render : Value → String) (message : Message) : Error :=
  let name := message.header.errorName.getD Error.FAILED
  if message.header.kind = .error ∧ name = Error.MODULE_UNAVAILABLE ∧
      message.header.moduleLifecycle = some .initializing then
    .stillInitializing
  else
    match message.body with
    | .string text => .methodFailed name text
    | other => .methodFailed name (render other)

/-- One crossing: the call that is replied to, and the name the broker stamps. -/
structure Hop where
  call : Header
  sender : BusName

namespace Error

variable {render : Value → String} {hop : Hop} {error : Error}

def cross (render : Value → String) (error : Error) (hop : Hop) : Error :=
  ((Message.errorReply hop.call error).stamp hop.sender).intoError render

inductive Rebuilt : Error → Prop
  | initializing : Rebuilt stillInitializing
  | named (name message : String) : Rebuilt (.methodFailed name message)

theorem wireName_of_lifecycle {lifecycle : ModuleLifecycle}
    (reported : Message.lifecycleOf error = some lifecycle) :
    error.wireName = MODULE_UNAVAILABLE := by
  cases error with
  | moduleUnavailable module state detail => rfl
  | _ => cases reported

theorem cross_eq (render : Value → String) (error : Error) (hop : Hop) :
    error.cross render hop =
      if Message.lifecycleOf error = some .initializing then stillInitializing
      else .methodFailed error.wireName error.wireMessage := by
  unfold cross Message.intoError
  by_cases reported : Message.lifecycleOf error = some .initializing
  · rw [if_pos reported, if_pos]
    exact ⟨rfl, wireName_of_lifecycle reported, reported⟩
  · rw [if_neg reported, if_neg]
    · rfl
    · rintro ⟨_, _, lifecycle⟩
      exact reported lifecycle

theorem cross_wireName (render : Value → String) (error : Error) (hop : Hop) :
    (error.cross render hop).wireName = error.wireName := by
  rw [cross_eq]
  by_cases reported : Message.lifecycleOf error = some .initializing
  · rw [if_pos reported]
    exact (wireName_of_lifecycle reported).symm
  · rw [if_neg reported]
    rfl

theorem cross_rebuilt (render : Value → String) (error : Error) (hop : Hop) :
    Rebuilt (error.cross render hop) := by
  rw [cross_eq]
  by_cases reported : Message.lifecycleOf error = some .initializing
  · rw [if_pos reported]
    exact .initializing
  · rw [if_neg reported]
    exact .named _ _

theorem Rebuilt.cross (rebuilt : Rebuilt error) : error.cross render hop = error := by
  rw [cross_eq]
  cases rebuilt with
  | initializing =>
      have reported : Message.lifecycleOf stillInitializing = some .initializing := by
        decide +kernel
      rw [if_pos reported]
  | named name message =>
      have silent : Message.lifecycleOf (.methodFailed name message) ≠ some .initializing := by
        intro reported
        cases reported
      rw [if_neg silent]
      rfl

theorem Rebuilt.cross_all (rebuilt : Rebuilt error) (hops : List Hop) :
    hops.foldl (Error.cross render) error = error := by
  induction hops with
  | nil => rfl
  | cons hop later ih => rw [List.foldl_cons, rebuilt.cross, ih]

/-- A crossing keeps the name of an error, and after the first one nothing changes: the
error, and with it the name, the prose and the lifecycle of its message, is what the first
crossing left, however many follow. -/
theorem crossing_settles (render : Value → String) (error : Error) (first : Hop)
    (later : List Hop) :
    let crossed := error.cross render first
    let again := later.foldl (Error.cross render) crossed
    crossed.wireName = error.wireName ∧ again.wireName = crossed.wireName ∧
      again.wireMessage = crossed.wireMessage ∧
      Message.lifecycleOf again = Message.lifecycleOf crossed := by
  intro crossed again
  have same : again = crossed := (cross_rebuilt render error first).cross_all later
  rw [same]
  exact ⟨cross_wireName render error first, rfl, rfl, rfl⟩

end Error

end TinyBus
