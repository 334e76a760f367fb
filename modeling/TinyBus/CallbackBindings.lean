import TinyBus.Confidential
import TinyBus.Library.Forest

/-
The bindings of host callbacks: a tree of capabilities, each made for one
module, each revoked with its parent or with the peer of its module.  The
router holds the capabilities that a call may be routed by; the rest of a
binding is kept here.
-/

namespace TinyBus

open TransitionSystem

abbrev HostStreamCallbackEndpoint := CallbackScope

/-- What a handler learns about the call it answers. -/
structure CallContext where
  sender : Option BusName
  confidential : Bool
  deriving DecidableEq

namespace CallbackState

def authorizes (capability : CallbackState) (context : CallContext) : Bool :=
  capability.active && capability.moduleLive && context.confidential &&
    capability.module.isSome && context.sender == capability.module

/-- Nothing that asks this capability for leave gets it any more. -/
def Blocked (capability : CallbackState) : Prop :=
  capability.revoked = true ∨ capability.moduleLive = false

end CallbackState

/-- The part of a callback state that the router does not read. -/
structure BindingState where
  streamEndpoints : List HostStreamCallbackEndpoint
  parent : Option CallbackId
  children : List CallbackId
  used : Bool
  served : List (ObjectPath × InterfaceName)
  running : Nat
  /-- The loader released the initialization of the module it is bound to. -/
  entered : Bool
  deriving DecidableEq

structure Bindings where
  router : Router
  states : Table CallbackId BindingState
  next : CallbackId

namespace CallbackScope

def interfaceKey (scope : CallbackScope) : ObjectPath × InterfaceName :=
  (scope.path, scope.interface)

def membersValid (scope : CallbackScope) : Bool :=
  !scope.members.isEmpty && decide (scope.members.length ≤ 64) &&
    decide scope.members.Nodup

def allValid (scopes : List CallbackScope) : Bool :=
  scopes.all membersValid && decide (scopes.map interfaceKey).Nodup

def overlaps (left right : CallbackScope) : Bool :=
  left.interfaceKey == right.interfaceKey &&
    right.members.any (fun member => left.members.contains member)

end CallbackScope

def requiredEndpointCount (endpoints : List HostCallbackEndpoint)
    (streamEndpoints : List HostStreamCallbackEndpoint) : Nat :=
  ((endpoints ++ streamEndpoints).map CallbackScope.interfaceKey).dedup.length

def endpointsDeclared (endpoints : List HostCallbackEndpoint)
    (signals : List HostCallbackSignal)
    (streamEndpoints : List HostStreamCallbackEndpoint) : Bool :=
  requiredEndpointCount endpoints streamEndpoints != 0 &&
    decide (requiredEndpointCount endpoints streamEndpoints ≤ 32) &&
    CallbackScope.allValid streamEndpoints &&
    !streamEndpoints.any (fun stream => endpoints.any (fun endpoint => endpoint.overlaps stream)) &&
    !(endpoints.isEmpty && !signals.isEmpty) && CallbackScope.allValid endpoints

def signalsDeclared (endpoints : List HostCallbackEndpoint)
    (signals : List HostCallbackSignal) : Bool :=
  CallbackScope.allValid signals &&
    signals.all (fun signal =>
      endpoints.any (fun endpoint => endpoint.interfaceKey == signal.interfaceKey))

def childEndpointsDeclared (endpoints : List HostCallbackEndpoint) : Bool :=
  !endpoints.isEmpty && decide (endpoints.length ≤ 32) && CallbackScope.allValid endpoints

def scopeFor (scopes : List CallbackScope) (key : ObjectPath × InterfaceName) :
    Option CallbackScope :=
  scopes.find? (fun scope => scope.interfaceKey == key)

/-- The check under which a call to a served interface is counted and started. -/
def CallbackState.starts (capability : CallbackState) (binding : BindingState)
    (key : ObjectPath × InterfaceName) (member : MemberName) (context : CallContext) :
    Bool :=
  let confidentialMember :=
    (scopeFor capability.endpoints key).any (fun scope => scope.members.contains member)
  let streamMember :=
    (scopeFor binding.streamEndpoints key).any (fun scope => scope.members.contains member)
  !(!capability.moduleLive || confidentialMember == streamMember ||
    confidentialMember && !context.confidential || streamMember && context.confidential ||
    !capability.active || capability.module.isNone || context.sender != capability.module)

namespace Bindings

def empty : Bindings := ⟨.empty, ∅, 0⟩

def childrenOf (bindings : Bindings) (id : CallbackId) : List CallbackId :=
  match bindings.states.lookup id with
  | some binding => binding.children
  | none => []

/-- A child sits on the stack only once, so that as many turns as there are
bindings are enough. -/
def liveDescendants (bindings : Bindings) (id : CallbackId) : List CallbackId :=
  Forest.walk bindings.childrenOf bindings.next (bindings.childrenOf id).reverse []

def modifyState (bindings : Bindings) (id : CallbackId)
    (update : BindingState → BindingState) : Bindings :=
  { bindings with states := bindings.states.modify id update }

/-- The capability and the rest of one binding. -/
def find (bindings : Bindings) (id : CallbackId) : Option (CallbackState × BindingState) :=
  match bindings.router.callbacks.lookup id, bindings.states.lookup id with
  | some capability, some binding => some (capability, binding)
  | _, _ => none

def prepareHostCallbacks (bindings : Bindings) (destination : BusName)
    (endpoints : List HostCallbackEndpoint) (signals : List HostCallbackSignal)
    (streamEndpoints : List HostStreamCallbackEndpoint) : Except Error CallbackId × Bindings :=
  if !endpointsDeclared endpoints signals streamEndpoints then
    (.error (.failed "callback endpoint declaration is invalid"), bindings)
  else if !signalsDeclared endpoints signals then
    (.error (.failed "callback signal declaration is invalid"), bindings)
  else
    (.ok bindings.next,
      { router := { bindings.router with
          callbacks := bindings.router.callbacks.insert bindings.next
            ⟨destination, endpoints, signals, true, false, false, none⟩ }
        states := bindings.states.insert bindings.next
          ⟨streamEndpoints, none, [], false, [], 0, false⟩
        next := bindings.next + 1 })

def serveAt (bindings : Bindings) (id : CallbackId) (key : ObjectPath × InterfaceName)
    (provided : List MemberName) : Except Error Unit × Bindings :=
  match bindings.find id with
  | none => (.error .connectionClosed, bindings)
  | some (capability, binding) =>
      let scopes := (scopeFor capability.endpoints key).toList ++
        (scopeFor binding.streamEndpoints key).toList
      if scopes.isEmpty then
        (.error (.failed "callback endpoint is not declared"), bindings)
      else if (scopes.flatMap CallbackScope.members).any
          (fun member => !provided.contains member) then
        (.error (.failed "callback endpoint members are missing"), bindings)
      else if binding.used || capability.revoked || binding.served.contains key then
        (.error (.failed "callback registration is immutable or duplicated"), bindings)
      else
        (.ok (), bindings.modifyState id
          (fun held => { held with served := held.served ++ [key] }))

def consume (bindings : Bindings) (id : CallbackId) : Except Error Unit × Bindings :=
  match bindings.find id with
  | none => (.error .connectionClosed, bindings)
  | some (capability, binding) =>
      if binding.used || capability.revoked ||
          binding.served.length !=
            requiredEndpointCount capability.endpoints binding.streamEndpoints then
        (.error (.failed "callback binding is already used or endpoints are missing"), bindings)
      else
        (.ok (), bindings.modifyState id (fun held => { held with used := true }))

def bind (bindings : Bindings) (id : CallbackId) (module : BusName) (live : Bool) :
    Except Error Unit × Bindings :=
  match bindings.router.callbacks.lookup id with
  | none => (.error .connectionClosed, bindings)
  | some capability =>
      if capability.revoked || capability.module.isSome then
        (.error (.failed "callback binding was concurrently used"), bindings)
      else
        (.ok (), { bindings with
          router := bindings.router.modifyCallback id
            (fun held => held.bindModule module live) })

/-- The load registers the capability and releases the module. -/
def register (bindings : Bindings) (id : CallbackId) : Except Error Unit × Bindings :=
  match bindings.router.addHostCallbacks id with
  | (.error error, router) => (.error error, { bindings with router := router })
  | (.ok (), router) =>
      (.ok (), { bindings with router := router }.modifyState id
        (fun held => { held with entered := true }))

/-- The check made under the lock of the router, and the record of the child.
The check before the attachment of the child's peer is the same one. -/
def createChildBinding (bindings : Bindings) (id : CallbackId) (context : CallContext)
    (endpoints : List HostCallbackEndpoint) (destination : BusName) :
    Except Error CallbackId × Bindings :=
  match bindings.router.callbacks.lookup id with
  | none => (.error .connectionClosed, bindings)
  | some capability =>
      if !childEndpointsDeclared endpoints then
        (.error (.failed "callback child endpoint declaration is invalid"), bindings)
      else if !capability.authorizes context then
        (.error (.failed "callback parent was revoked during creation"), bindings)
      else
        let child : CallbackState :=
          ⟨destination, endpoints, [], true, true, false, capability.module⟩
        let created := { bindings.router with
          callbacks := bindings.router.callbacks.insert bindings.next child }
        match created.addHostCallbacks bindings.next with
        | (.error error, _) => (.error error, bindings)
        | (.ok (), router) =>
            (.ok bindings.next,
              { router := router
                states := (bindings.states.modify id (fun held =>
                    { held with children := held.children ++ [bindings.next] })).insert
                  bindings.next ⟨[], some id, [], false, [], 0, true⟩
                next := bindings.next + 1 })

def revoke (bindings : Bindings) (id : CallbackId) : Bindings :=
  { bindings with
    router := (id :: bindings.liveDescendants id).foldl Router.revokeHostCallbacks
      bindings.router }

/-- The transport of a module is faulted, which every binding of it reads. -/
def fault (bindings : Bindings) (module : BusName) : Bindings :=
  { bindings with
    router := { bindings.router with
      callbacks := bindings.router.callbacks.mapValues (fun _ capability =>
        if capability.module = some module then { capability with moduleLive := false }
        else capability) } }

def waitDrained (bindings : Bindings) (id : CallbackId) : Bindings :=
  { bindings with router := bindings.router.modifyCallback id CallbackState.revoke }

def starts (bindings : Bindings) (id : CallbackId) (key : ObjectPath × InterfaceName)
    (member : MemberName) (context : CallContext) : Bool :=
  (bindings.find id).any (fun held =>
    held.2.served.contains key && held.1.starts held.2 key member context)

/-- A call that reached the private connection of a binding. -/
def callWithContext (bindings : Bindings) (id : CallbackId)
    (key : ObjectPath × InterfaceName) (member : MemberName) (context : CallContext) :
    Except Error Unit × Bindings :=
  if bindings.starts id key member context then
    (.ok (), bindings.modifyState id (fun held => { held with running := held.running + 1 }))
  else
    (.error (.failed "scoped callback authority is unavailable"), bindings)

def Parent (bindings : Bindings) (parent child : CallbackId) : Prop :=
  ∃ binding, bindings.states.lookup child = some binding ∧ binding.parent = some parent

/-- The binding was derived from the ancestor, in one step or several. -/
def Ancestor (bindings : Bindings) : CallbackId → CallbackId → Prop :=
  Relation.TransGen bindings.Parent

end Bindings

inductive BindingEvent where
  | route (op : RouterOp)
  | prepare (destination : BusName) (endpoints : List HostCallbackEndpoint)
      (signals : List HostCallbackSignal) (streamEndpoints : List HostStreamCallbackEndpoint)
  | serve (id : CallbackId) (key : ObjectPath × InterfaceName) (provided : List MemberName)
  | consume (id : CallbackId)
  | bind (id : CallbackId) (module : BusName) (live : Bool)
  | register (id : CallbackId)
  | createChild (id : CallbackId) (context : CallContext)
      (endpoints : List HostCallbackEndpoint) (destination : BusName)
  | revoke (id : CallbackId)
  | fault (module : BusName)
  | drained (id : CallbackId)
  | call (id : CallbackId) (key : ObjectPath × InterfaceName) (member : MemberName)
      (context : CallContext)
  | returned (id : CallbackId)

namespace Bindings

/-- The bindings after an event; what the event returns is left aside. -/
def after (bindings : Bindings) : BindingEvent → Bindings
  | .route op => { bindings with router := (bindings.router.perform op).2 }
  | .prepare destination endpoints signals streamEndpoints =>
      (bindings.prepareHostCallbacks destination endpoints signals streamEndpoints).2
  | .serve id key provided => (bindings.serveAt id key provided).2
  | .consume id => (bindings.consume id).2
  | .bind id module live => (bindings.bind id module live).2
  | .register id => (bindings.register id).2
  | .createChild id context endpoints destination =>
      (bindings.createChildBinding id context endpoints destination).2
  | .revoke id => bindings.revoke id
  | .fault module => bindings.fault module
  | .drained id => bindings.waitDrained id
  | .call id key member context => (bindings.callWithContext id key member context).2
  | .returned id =>
      bindings.modifyState id (fun held => { held with running := held.running - 1 })

end Bindings

inductive RouterOp.Removes (router : Router) : RouterOp → BusName → Prop
  | detached {id : PeerId} {peer : Peer} (present : router.peers.lookup id = some peer) :
      Removes router (.detach id) peer.unique
  | detachedUnique {unique : BusName} {id : PeerId} {peer : Peer}
      (owned : router.names.lookup unique = some id)
      (present : router.peers.lookup id = some peer) :
      Removes router (.detachUnique unique) peer.unique
  | stopped (peer : BusName) : Removes router (.revokeCallbacksForPeer peer) peer

/-- The operations on names and peers, which reach a capability only through
the removal of a peer. -/
def RouterOp.Plain : RouterOp → Bool
  | .createCallback .. | .bindModule .. | .setModuleLive .. | .revokeCallback ..
  | .addHostCallbacks .. | .revokeHostCallbacks .. => false
  | _ => true

namespace Bindings

/-- What the surroundings of the bindings promise.  The private connection of a
binding ends only after its revocation; a module is attached before it is bound,
and calls nothing before the load released it; the worker of a module waits only
for bindings whose authority is already gone. -/
def Possible (bindings : Bindings) : BindingEvent → Prop
  | .route op => op.Issued bindings.router ∧ op.Plain = true ∧
      ∀ id capability, bindings.router.callbacks.lookup id = some capability →
        capability.revoked = false → ¬ op.Removes bindings.router capability.destination
  | .bind _ module _ => ∃ id, module = BusName.unique id ∧ id ≤ bindings.router.nextId
  | .createChild id context _ _ | .call id _ _ context =>
      ∀ capability binding module, bindings.find id = some (capability, binding) →
        capability.module = some module → context.sender = some module →
          binding.entered = true
  | .drained id => ∀ capability, bindings.router.callbacks.lookup id = some capability →
      capability.Blocked
  | _ => True

def system : System Bindings BindingEvent :=
  (System.ofFunction (fun bindings => bindings = empty) after).restrict Possible

end Bindings

end TinyBus
