import TinyBus.CallbackRevocation

/-
The calls to host callbacks that are in progress, and the drains that wait for
them.  A call is counted before its user future is made and until it is gone; a
drain reads the count of one binding after the other, looks up children in
between and sleeps where a count is not zero.
-/

namespace TinyBus

open TransitionSystem

/-- How far a call is that has passed the check of its binding. -/
inductive CallPhase where
  | counted
  | running
  -- The user future is gone, and the count not taken back yet.
  | ended
  deriving DecidableEq

structure OngoingCall where
  binding : CallbackId
  phase : CallPhase
  deriving DecidableEq

/-- A wait until nothing runs.  The receiver of a notification is made before the count is
read. -/
inductive Drained where
  | unarmed
  | armed (notified : Bool)
  | asleep (notified : Bool)
  deriving DecidableEq

/-- The next step of a wait, if it has not ended. -/
def Drained.poll (running : Nat) : Drained → Option Drained
  | .unarmed => some (.armed false)
  | .armed notified => if running = 0 then none else some (.asleep notified)
  | .asleep false => some (.asleep false)
  | .asleep true => some .unarmed

def Drained.notify : Drained → Drained
  | .unarmed => .unarmed
  | .armed _ => .armed true
  | .asleep _ => .asleep true

inductive DrainKind where
  -- `drained` of a guard, which waits for one binding.
  | guard
  | drain
  -- `wait_drained`, on the physical worker.
  | physical
  deriving DecidableEq

inductive DrainStage where
  | own (wait : Drained)
  | looking
  | walking (pending found : List CallbackId)
  | each (target : CallbackId) (left : List CallbackId) (wait : Drained)
  | locking (node : CallbackId) (rest : List CallbackId)
  | waiting (node : CallbackId) (rest : List CallbackId)
  | descending (node : CallbackId) (rest : List CallbackId)
  | returned
  | expired
  deriving DecidableEq

structure Drain where
  root : CallbackId
  kind : DrainKind
  stage : DrainStage
  deriving DecidableEq

def DrainStage.start (root : CallbackId) : DrainKind → DrainStage
  | .guard | .drain => .own .unarmed
  | .physical => .locking root []

def DrainStage.eachOf : List CallbackId → DrainStage
  | [] => .returned
  | target :: left => .each target left .unarmed

def DrainStage.lockNext : List CallbackId → DrainStage
  | [] => .returned
  | node :: rest => .locking node rest

def Drain.notify (id : CallbackId) (drain : Drain) : Drain :=
  match drain.stage with
  | .own wait => if drain.root = id then { drain with stage := .own wait.notify } else drain
  | .each target left wait =>
      if target = id then { drain with stage := .each target left wait.notify } else drain
  | _ => drain

structure Drainage where
  bindings : Bindings
  calls : Table Nat OngoingCall
  nextCall : Nat
  /-- A child that its parent does not list yet; its creator holds the lock of the router. -/
  unlisted : Option CallbackId
  /-- The bindings whose state has no owner left. -/
  freed : List CallbackId
  drains : Table Nat Drain
  nextDrain : Nat

def Bindings.Barred (bindings : Bindings) (id : CallbackId) : Prop :=
  ∃ capability, bindings.router.callbacks.lookup id = some capability ∧
    (capability.revoked = true ∨ capability.moduleLive = false ∧ capability.module.isSome = true)

namespace Drainage

def empty : Drainage := ⟨.empty, ∅, 0, none, [], ∅, 0⟩

def running (drainage : Drainage) (id : CallbackId) : Nat :=
  ((drainage.bindings.states.lookup id).map BindingState.running).getD 0

/-- The children whose weak link can still be upgraded. -/
def liveChildren (drainage : Drainage) (id : CallbackId) : List CallbackId :=
  (drainage.bindings.childrenOf id).filter (fun child =>
    decide (drainage.unlisted ≠ some child) && decide (child ∉ drainage.freed))

/-- The check and the count, under one lock. -/
def callWithContext (drainage : Drainage) (id : CallbackId)
    (key : ObjectPath × InterfaceName) (member : MemberName) (context : CallContext) :
    Drainage :=
  match drainage.bindings.callWithContext id key member context with
  | (.error _, _) => drainage
  | (.ok (), bindings) =>
      { drainage with
        bindings := bindings
        calls := drainage.calls.insert drainage.nextCall ⟨id, .counted⟩
        nextCall := drainage.nextCall + 1 }

def movePhase (drainage : Drainage) (number : Nat) (before after : CallPhase) : Drainage :=
  match drainage.calls.lookup number with
  | none => drainage
  | some call =>
      if call.phase = before then
        { drainage with calls := drainage.calls.insert number { call with phase := after } }
      else drainage

/-- The count is taken back, and the last call of a binding wakes who waits for it. -/
def dropRunning (drainage : Drainage) (number : Nat) : Drainage :=
  match drainage.calls.lookup number with
  | none => drainage
  | some call =>
      if call.phase = .running then drainage
      else
        let left := { drainage with
          bindings := drainage.bindings.after (.returned call.binding)
          calls := drainage.calls.erase number }
        if left.running call.binding = 0 then
          { left with drains := left.drains.mapValues (fun _ drain => drain.notify call.binding) }
        else left

/-- One step of a drain, and what it does to the bindings. -/
def advance (drainage : Drainage) (drain : Drain) : Bindings × DrainStage :=
  let bindings := drainage.bindings
  match drain.stage with
  | .own wait =>
      match wait.poll (drainage.running drain.root), drain.kind with
      | some later, _ => (bindings, .own later)
      | none, .guard => (bindings, .returned)
      | none, _ => (bindings, .looking)
  | .looking => (bindings, .walking (drainage.liveChildren drain.root).reverse [])
  | .walking [] found => (bindings, .eachOf found)
  | .walking (node :: pending) found =>
      (bindings,
        .walking ((drainage.liveChildren node).reverse ++ pending) (found ++ [node]))
  | .each target left wait =>
      match wait.poll (drainage.running target) with
      | some later => (bindings, .each target left later)
      | none => (bindings, .eachOf left)
  | .locking node rest =>
      (bindings.waitDrained node,
        if drainage.running node = 0 then .descending node rest
        else .waiting node rest)
  -- A thread may wake up without a notification, and reads the count again.
  | .waiting node rest =>
      (bindings,
        if drainage.running node = 0 then .descending node rest
        else .waiting node rest)
  | .descending node rest => (bindings, .lockNext (drainage.liveChildren node ++ rest))
  | .returned | .expired => (bindings, drain.stage)

def advanceDrain (drainage : Drainage) (number : Nat) : Drainage :=
  match drainage.drains.lookup number with
  | none => drainage
  | some drain =>
      let moved := drainage.advance drain
      { drainage with
        bindings := moved.1
        drains := drainage.drains.insert number { drain with stage := moved.2 } }

def expireDrain (drainage : Drainage) (number : Nat) : Drainage :=
  match drainage.drains.lookup number with
  | none => drainage
  | some drain =>
      match drain.kind, drain.stage with
      | _, .returned => drainage
      | .drain, _ => { drainage with
          drains := drainage.drains.insert number { drain with stage := .expired } }
      | _, _ => drainage

inductive Event where
  | binding (event : BindingEvent)
  | createChild (id : CallbackId) (context : CallContext)
      (endpoints : List HostCallbackEndpoint) (destination : BusName)
  | listed
  | call (id : CallbackId) (key : ObjectPath × InterfaceName) (member : MemberName)
      (context : CallContext)
  -- The user future is made, and is gone again.
  | begin (number : Nat)
  | finish (number : Nat)
  | returned (number : Nat)
  | freed (id : CallbackId)
  | drain (id : CallbackId) (kind : DrainKind)
  | advance (number : Nat)
  | expire (number : Nat)

def after (drainage : Drainage) : Event → Drainage
  | .binding event => { drainage with bindings := drainage.bindings.after event }
  | .createChild id context endpoints destination =>
      match drainage.bindings.createChildBinding id context endpoints destination with
      | (.error _, bindings) => { drainage with bindings := bindings }
      | (.ok child, bindings) =>
          { drainage with bindings := bindings, unlisted := some child }
  | .listed => { drainage with unlisted := none }
  | .call id key member context => drainage.callWithContext id key member context
  | .begin number => drainage.movePhase number .counted .running
  | .finish number => drainage.movePhase number .running .ended
  | .returned number => drainage.dropRunning number
  | .freed id => { drainage with freed := id :: drainage.freed }
  | .drain id kind =>
      { drainage with
        drains := drainage.drains.insert drainage.nextDrain ⟨id, kind, .start id kind⟩
        nextDrain := drainage.nextDrain + 1 }
  | .advance number => drainage.advanceDrain number
  | .expire number => drainage.expireDrain number

/-- The events of the bindings that are no call, no drain and no creation of a child. -/
def Plain : BindingEvent → Prop
  | .createChild .. | .drained _ | .call .. | .returned _ => False
  | _ => True

def LocksRouter : BindingEvent → Prop
  | .route _ | .register _ | .revoke _ => True
  | _ => False

/-- Who uses a binding owns its state, a call and a child own theirs, and a child is handed
out when it is listed.  A physical worker waits for bindings whose authority is gone. -/
def Possible (drainage : Drainage) : Event → Prop
  | .binding event => Plain event ∧ drainage.bindings.Possible event ∧
      (LocksRouter event → drainage.unlisted = none)
  | .createChild id context endpoints destination =>
      drainage.bindings.Possible (.createChild id context endpoints destination) ∧
        drainage.unlisted = none ∧ id ∉ drainage.freed
  | .call id key member context =>
      drainage.bindings.Possible (.call id key member context) ∧ id ∉ drainage.freed ∧
        drainage.unlisted ≠ some id
  | .freed id => drainage.unlisted ≠ some id ∧
      id ∉ drainage.bindings.router.hostCallbacks ∧
      (∀ number call, drainage.calls.lookup number = some call → call.binding ≠ id) ∧
      ∀ child, drainage.bindings.Parent id child → child ∈ drainage.freed
  | .drain id kind => id ∉ drainage.freed ∧ drainage.unlisted ≠ some id ∧
      (kind = .physical → drainage.bindings.Barred id)
  | .listed | .begin _ | .finish _ | .returned _ | .advance _ | .expire _ => True

def system : System Drainage Event :=
  (System.ofFunction (fun drainage => drainage = empty) after).restrict Possible

end Drainage

end TinyBus
