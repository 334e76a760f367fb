/-
Restricted module control.  Selecting the controller takes three lock sections:
the reservation, the attachment and the publication.  Bus calls are admitted,
pass the gate and reach the module host in sections of their own.  All of them
interleave freely with each other, with every routing-table operation and with
whatever the module host does by itself.
-/

import TinyBus.BusControl

namespace TinyBus

open TransitionSystem

/-- One `attach_module_controller` that reserved the selection. -/
inductive Selection where
  | reserved
  | attached (unique : BusName)
  deriving DecidableEq

structure ControlCall where
  caller : BusName
  member : MemberName
  body : Value
  operation : Broker.ModuleMember

/-- `effects` records the mutating calls that reached the module host, and
`controllers` the names minted for selected transports. -/
structure ControlState (Host : Type) where
  broker : Broker Host
  selections : List Selection
  admitted : List ControlCall
  permitted : List ControlCall
  effects : List ControlCall
  controllers : List BusName

inductive ControlEvent (Host : Type) where
  | reserve
  | attachController (outbox : Outbox)
  | publish (unique : BusName)
  | table (op : RouterOp)
  | receive (source : PeerId) (message : Message)
  | deny (call : ControlCall)
  | permit (call : ControlCall)
  | operate (call : ControlCall)
  | hostMoves (modules : Option Host)

namespace ControlState

variable {Host : Type}

def binding (state : ControlState Host) : Option ModuleControllerBinding :=
  state.broker.moduleController

def withRouter (state : ControlState Host) (router : Router) : ControlState Host :=
  { state with broker := { state.broker with router := router } }

def withBinding (state : ControlState Host) (binding : ModuleControllerBinding) :
    ControlState Host :=
  { state with broker := { state.broker with moduleController := some binding } }

def withModules (state : ControlState Host) (modules : Option Host) :
    ControlState Host :=
  { state with broker := { state.broker with modules := modules } }

def operated (control : ModuleControl Host) (state : ControlState Host)
    (call : ControlCall) : Option Host :=
  state.broker.modules.map (fun host =>
    (Broker.moduleOperation control host call.member call.body call.operation).2)

def recorded (state : ControlState Host) (call : ControlCall) : List ControlCall :=
  if call.operation.readOnly then state.effects else call :: state.effects

structure Admits (control : ModuleControl Host) (state : ControlState Host)
    (source : PeerId) (message : Message) (call : ControlCall) : Prop where
  routed : Broker.route state.broker.router (state.broker.unavailable control) source
    (BusName.unique source) message = .ok (.bus (message.stamp (BusName.unique source)))
  attached : state.broker.router.isAttached source (BusName.unique source) = true
  caller : (message.stamp (BusName.unique source)).header.sender = some call.caller
  member : message.header.member = some call.member
  body : call.body = message.body
  operation : Broker.moduleMember call.member = some call.operation

inductive Step (control : ModuleControl Host) :
    ControlState Host → ControlEvent Host → ControlState Host → Prop
  | reserve {state : ControlState Host} (free : state.binding = some .unselected) :
      Step control state .reserve
        { state.withBinding .attaching with
          selections := .reserved :: state.selections }
  | refuse {state : ControlState Host} (taken : state.binding ≠ some .unselected) :
      Step control state .reserve state
  | attachController {state : ControlState Host} {early late : List Selection}
      (outbox : Outbox) (pending : state.selections = early ++ .reserved :: late) :
      Step control state (.attachController outbox)
        { state.withRouter (state.broker.router.attach outbox).2 with
          selections :=
            early ++ .attached (state.broker.router.attach outbox).1.2 :: late
          controllers := (state.broker.router.attach outbox).1.2 :: state.controllers }
  | publish {state : ControlState Host} {early late : List Selection}
      {unique : BusName} (pending : state.selections = early ++ .attached unique :: late) :
      Step control state (.publish unique)
        { state.withBinding (.selected unique) with selections := early ++ late }
  | table {state : ControlState Host} (op : RouterOp) :
      Step control state (.table op)
        (state.withRouter (state.broker.router.perform op).2)
  | receive {state : ControlState Host} {source : PeerId} {message : Message}
      {call : ControlCall} (admits : state.Admits control source message call) :
      Step control state (.receive source message)
        { state with admitted := call :: state.admitted }
  | deny {state : ControlState Host} {early late : List ControlCall}
      {call : ControlCall} (pending : state.admitted = early ++ call :: late)
      (denied : Broker.denied state.binding call.caller call.operation = true) :
      Step control state (.deny call) { state with admitted := early ++ late }
  | permit {state : ControlState Host} {early late : List ControlCall}
      {call : ControlCall} (pending : state.admitted = early ++ call :: late)
      (passed : Broker.denied state.binding call.caller call.operation = false) :
      Step control state (.permit call)
        { state with admitted := early ++ late, permitted := call :: state.permitted }
  | operate {state : ControlState Host} {early late : List ControlCall}
      {call : ControlCall} (pending : state.permitted = early ++ call :: late) :
      Step control state (.operate call)
        { state.withModules (state.operated control call) with
          permitted := early ++ late, effects := state.recorded call }
  | hostMoves {state : ControlState Host} (modules : Option Host) :
      Step control state (.hostMoves modules) (state.withModules modules)

/-- A broker with restricted module control, before anything is attached. -/
def Restricted (state : ControlState Host) : Prop :=
  state.broker.router = Router.empty ∧ state.binding = some .unselected ∧
    state.selections = [] ∧ state.admitted = [] ∧ state.permitted = [] ∧
    state.effects = [] ∧ state.controllers = []

def system (control : ModuleControl Host) :
    System (ControlState Host) (ControlEvent Host) :=
  { initial := Restricted, step := Step control }

theorem denied_false_iff {binding : Option ModuleControllerBinding} {caller : BusName}
    {operation : Broker.ModuleMember} (restricted : binding.isSome = true)
    (mutating : operation.readOnly = false) :
    Broker.denied binding caller operation = false ↔ binding = some (.selected caller) := by
  cases binding with
  | none => cases restricted
  | some current =>
      simp [Broker.denied, mutating]

theorem moduleOperation_readOnly (control : ModuleControl Host) (host : Host)
    (member : MemberName) (body : Value) {operation : Broker.ModuleMember}
    (readOnly : operation.readOnly = true) :
    (Broker.moduleOperation control host member body operation).2 = host := by
  cases operation with
  | list => rfl
  | get =>
      cases parsed : parseArgs (Decoder.one Decoder.string) member body <;>
        simp only [Broker.moduleOperation, parsed]
  | getManifest =>
      cases parsed : parseArgs (Decoder.one Decoder.string) member body <;>
        simp only [Broker.moduleOperation, parsed]
  | _ => cases readOnly

/-- The reservations under way and the controllers minted, for each phase of
the binding. -/
def Phase : Option ModuleControllerBinding → List Selection → List BusName → Prop
  | none, _, _ => False
  | some .unselected, selections, controllers => selections = [] ∧ controllers = []
  | some .attaching, selections, controllers =>
      (selections = [.reserved] ∧ controllers = []) ∨
        ∃ unique, selections = [.attached unique] ∧ controllers = [unique]
  | some (.selected unique), selections, controllers =>
      selections = [] ∧ controllers = [unique]

structure Guarded (state : ControlState Host) : Prop where
  phase : Phase state.binding state.selections state.controllers
  permitted : ∀ call ∈ state.permitted, call.operation.readOnly = false →
    state.binding = some (.selected call.caller)
  effects : ∀ call ∈ state.effects, state.binding = some (.selected call.caller)

def Forward : Option ModuleControllerBinding → Option ModuleControllerBinding → Prop
  | some .unselected, some _ => True
  | some .attaching, some .attaching => True
  | some .attaching, some (.selected _) => True
  | some (.selected peer), some (.selected other) => other = peer
  | _, _ => False

variable {state after : ControlState Host} {control : ModuleControl Host}
  {event : ControlEvent Host}

theorem restricted_guarded (start : state.Restricted) :
    state.Guarded := by
  obtain ⟨_, unselected, selections, _, permitted, effects, controllers⟩ := start
  refine ⟨?_, ?_, ?_⟩
  · rw [unselected, selections, controllers]
    exact ⟨rfl, rfl⟩
  · rw [permitted]
    intro call member
    cases member
  · rw [effects]
    intro call member
    cases member

theorem Guarded.isSome (guarded : state.Guarded) :
    state.binding.isSome = true := by
  have phase := guarded.phase
  cases bound : state.binding with
  | none =>
      rw [bound] at phase
      cases phase
  | some _ => rfl

private theorem singleton_split {α : Type} {only item : α} {early late : List α}
    (split : [only] = early ++ item :: late) :
    early = [] ∧ late = [] ∧ item = only := by
  cases early with
  | nil =>
      rw [List.nil_append, List.cons.injEq] at split
      exact ⟨rfl, split.2.symm, split.1.symm⟩
  | cons head tail =>
      rw [List.cons_append, List.cons.injEq] at split
      exact absurd split.2 (by simp)

theorem Guarded.reserved (guarded : state.Guarded) {early late : List Selection}
    (pending : state.selections = early ++ .reserved :: late) :
    state.binding = some .attaching ∧ early = [] ∧ late = [] ∧ state.controllers = [] := by
  have phase := guarded.phase
  rw [pending] at phase
  cases bound : state.binding with
  | none =>
      rw [bound] at phase
      cases phase
  | some binding =>
      rw [bound] at phase
      cases binding with
      | unselected => exact absurd phase.1 (by simp)
      | selected peer => exact absurd phase.1 (by simp)
      | attaching =>
          rcases phase with ⟨only, controllers⟩ | ⟨unique, only, _⟩
          · obtain ⟨front, back, _⟩ := singleton_split only.symm
            exact ⟨rfl, front, back, controllers⟩
          · obtain ⟨_, _, impossible⟩ := singleton_split only.symm
            cases impossible

theorem Guarded.attached (guarded : state.Guarded) {early late : List Selection} {unique : BusName}
    (pending : state.selections = early ++ .attached unique :: late) :
    state.binding = some .attaching ∧ early = [] ∧ late = [] ∧
      state.controllers = [unique] := by
  have phase := guarded.phase
  rw [pending] at phase
  cases bound : state.binding with
  | none =>
      rw [bound] at phase
      cases phase
  | some binding =>
      rw [bound] at phase
      cases binding with
      | unselected => exact absurd phase.1 (by simp)
      | selected peer => exact absurd phase.1 (by simp)
      | attaching =>
          rcases phase with ⟨only, _⟩ | ⟨minted, only, controllers⟩
          · obtain ⟨_, _, impossible⟩ := singleton_split only.symm
            cases impossible
          · obtain ⟨front, back, same⟩ := singleton_split only.symm
            cases same
            exact ⟨rfl, front, back, controllers⟩

private theorem Guarded.none_selected (guarded : state.Guarded)
    (unselected : ∀ peer, state.binding ≠ some (.selected peer)) :
    (∀ call ∈ state.permitted, call.operation.readOnly ≠ false) ∧ state.effects = [] := by
  constructor
  · intro call member mutating
    exact unselected _ (guarded.permitted call member mutating)
  · rw [List.eq_nil_iff_forall_not_mem]
    intro call member
    exact unselected _ (guarded.effects call member)

theorem step_guarded {before : ControlState Host} (stepped : Step control before event after)
    (guarded : before.Guarded) : after.Guarded := by
  cases stepped with
  | reserve free =>
      have phase := guarded.phase
      rw [free] at phase
      obtain ⟨mutating, none⟩ := guarded.none_selected (by
        intro peer selected
        rw [free] at selected
        cases selected)
      refine ⟨?_, ?_, ?_⟩
      · exact .inl ⟨by rw [phase.1], phase.2⟩
      · intro call member readOnly
        exact absurd readOnly (mutating call member)
      · intro call member
        change call ∈ before.effects at member
        rw [none] at member
        cases member
  | refuse taken => exact guarded
  | @attachController early late outbox pending =>
      obtain ⟨attaching, rfl, rfl, controllers⟩ := guarded.reserved pending
      refine ⟨?_, guarded.permitted, guarded.effects⟩
      change Phase before.binding _ _
      rw [attaching, controllers]
      exact .inr ⟨_, rfl, rfl⟩
  | @publish early late unique pending =>
      obtain ⟨attaching, rfl, rfl, controllers⟩ := guarded.attached pending
      obtain ⟨mutating, none⟩ := guarded.none_selected (by
        intro peer selected
        rw [attaching] at selected
        cases selected)
      refine ⟨⟨rfl, controllers⟩, ?_, ?_⟩
      · intro call member readOnly
        exact absurd readOnly (mutating call member)
      · intro call member
        change call ∈ before.effects at member
        rw [none] at member
        cases member
  | table op => exact ⟨guarded.phase, guarded.permitted, guarded.effects⟩
  | receive admits => exact ⟨guarded.phase, guarded.permitted, guarded.effects⟩
  | deny pending denied => exact ⟨guarded.phase, guarded.permitted, guarded.effects⟩
  | @permit early late call pending passed =>
      refine ⟨guarded.phase, ?_, guarded.effects⟩
      intro other member mutating
      rcases List.mem_cons.mp member with rfl | earlier
      · exact (denied_false_iff guarded.isSome mutating).mp passed
      · exact guarded.permitted other earlier mutating
  | @operate early late call pending =>
      refine ⟨guarded.phase, ?_, ?_⟩
      · intro other member mutating
        apply guarded.permitted other _ mutating
        rw [pending]
        rcases List.mem_append.mp member with front | back
        · exact List.mem_append_left _ front
        · exact List.mem_append_right _ (List.mem_cons_of_mem _ back)
      · intro other member
        change other ∈ before.recorded call at member
        unfold recorded at member
        split at member
        · exact guarded.effects other member
        · rename_i mutating
          rcases List.mem_cons.mp member with rfl | earlier
          · apply guarded.permitted other
            · rw [pending]
              exact List.mem_append_right _ List.mem_cons_self
            · exact Bool.not_eq_true _ ▸ mutating
          · exact guarded.effects other earlier
  | hostMoves modules => exact ⟨guarded.phase, guarded.permitted, guarded.effects⟩

theorem Forward.refl_of_isSome {binding : Option ModuleControllerBinding}
    (bound : binding.isSome = true) : Forward binding binding := by
  cases binding with
  | none => cases bound
  | some current => cases current <;> simp [Forward]

theorem Forward.trans {first middle last : Option ModuleControllerBinding}
    (early : Forward first middle) (late : Forward middle last) : Forward first last := by
  unfold Forward at early late ⊢
  split at early <;> split at late <;> simp_all

theorem step_forward {before : ControlState Host} (stepped : Step control before event after)
    (guarded : before.Guarded) : Forward before.binding after.binding := by
  have stays := Forward.refl_of_isSome guarded.isSome
  cases stepped with
  | reserve free =>
      rw [free]
      exact trivial
  | publish pending =>
      rw [(guarded.attached pending).1]
      exact trivial
  | _ => exact stays

theorem run_forward {first last : ControlState Host} {events : List (ControlEvent Host)}
    (guarded : first.Guarded) (run : (system control).Run first events last) :
    Forward first.binding last.binding := by
  induction run with
  | nil => exact Forward.refl_of_isSome guarded.isSome
  | snoc earlier stepped found =>
      have middle := earlier.preserves (fun _ _ _ => step_guarded) guarded
      exact found.trans (step_forward stepped middle)

/-- What holds of a state of a restricted broker, of every further run from it
and of every step it can take. -/
structure SelectedControl (control : ModuleControl Host) (state : ControlState Host) :
    Prop where
  /-- The binding only moves forward, and a selection is final. -/
  forward : ∀ events later, (system control).Run state events later →
    Forward state.binding later.binding
  /-- At most one peer was ever minted as controller, and it is the selected
  one. -/
  single : state.controllers.length ≤ 1 ∧
    ∀ peer, state.binding = some (.selected peer) → state.controllers = [peer]
  /-- Every mutating call that reached the host came from the selected peer. -/
  effects : ∀ call ∈ state.effects, state.binding = some (.selected call.caller)
  /-- No other event than such a call changes the host, its own moves aside. -/
  frame : ∀ event after, Step control state event after →
    (∀ modules, event ≠ .hostMoves modules) →
      after.broker.modules ≠ state.broker.modules →
        ∃ call, event = .operate call ∧ call.operation.readOnly = false ∧
          state.binding = some (.selected call.caller)

private theorem Guarded.single (guarded : state.Guarded) :
    state.controllers.length ≤ 1 ∧
      ∀ peer, state.binding = some (.selected peer) → state.controllers = [peer] := by
  have phase := guarded.phase
  cases bound : state.binding with
  | none =>
      rw [bound] at phase
      cases phase
  | some binding =>
      rw [bound] at phase
      cases binding with
      | unselected =>
          rw [phase.2]
          exact ⟨Nat.zero_le 1, fun peer impossible => by cases impossible⟩
      | attaching =>
          refine ⟨?_, fun peer impossible => by cases impossible⟩
          rcases phase with ⟨_, controllers⟩ | ⟨unique, _, controllers⟩
          · rw [controllers]
            exact Nat.zero_le 1
          · rw [controllers]
            exact Nat.le_refl 1
      | selected peer =>
          rw [phase.2]
          refine ⟨Nat.le_refl 1, ?_⟩
          intro other same
          cases same
          rfl

private theorem Guarded.frame (guarded : state.Guarded) (stepped : Step control state event after)
    (own : ∀ modules, event ≠ .hostMoves modules)
    (changed : after.broker.modules ≠ state.broker.modules) :
    ∃ call, event = .operate call ∧ call.operation.readOnly = false ∧
      state.binding = some (.selected call.caller) := by
  cases stepped with
  | @operate early late call pending =>
      have mutating : call.operation.readOnly = false := by
        rw [← Bool.not_eq_true]
        intro readOnly
        apply changed
        change state.operated control call = state.broker.modules
        unfold operated
        cases state.broker.modules with
        | none => rfl
        | some host =>
            exact congrArg some
              (moduleOperation_readOnly control host call.member call.body readOnly)
      refine ⟨call, rfl, mutating, guarded.permitted call ?_ mutating⟩
      rw [pending]
      exact List.mem_append_right _ List.mem_cons_self
  | hostMoves modules => exact absurd rfl (own modules)
  | _ => exact absurd rfl changed

/-- In every run of a restricted broker the controller is selected at most
once, and only its calls change the module host. -/
theorem run_selectedControl {control : ModuleControl Host}
    {first state : ControlState Host} {events : List (ControlEvent Host)}
    (start : first.Restricted) (run : (system control).Run first events state) :
    SelectedControl control state := by
  have guarded : state.Guarded :=
    run.preserves (fun _ _ _ => step_guarded) (restricted_guarded start)
  exact
    { forward := fun _ _ further => run_forward guarded further
      single := guarded.single
      effects := guarded.effects
      frame := fun _ _ stepped own changed => guarded.frame stepped own changed }

def restricted : ControlState Unit :=
  ⟨⟨Router.empty, "tinybus", some (), some .unselected⟩, [], [], [], [], []⟩

/-- After its selection the first peer is the controller for good. -/
theorem restricted_selects :
    ∃ state, SelectedControl emptyControl state ∧
      state.binding = some (.selected (BusName.unique 1)) := by
  have reserved : (system emptyControl).Run restricted ([] ++ [.reserve]) _ :=
    .snoc .nil (.reserve rfl)
  have attached := System.Run.snoc reserved
    (@Step.attachController Unit emptyControl _ [] [] 0 rfl)
  have published := System.Run.snoc attached
    (@Step.publish Unit emptyControl _ [] [] (BusName.unique 1) rfl)
  exact ⟨_, run_selectedControl ⟨rfl, rfl, rfl, rfl, rfl, rfl, rfl⟩ published, rfl⟩

end ControlState

end TinyBus
