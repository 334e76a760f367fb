import TinyBus.Library.Tasks
import TinyBus.ObjectTree
import TinyBus.RouterOps

/-
Host objects on the connection of a module runtime.  A call claims a bus name, exports an
interface and counts itself in the lease of the name; the guard it returns takes all of
that back, on a task of its own once it is dropped.  One lock covers a call from its
claim to its count, and the removal of a guard; other peers of the broker, and other
exports of the connection, go on meanwhile.
-/

namespace TinyBus

universe u

/-- How many exports share a name, and whether it is released behind the last of them. -/
structure HostNameLease where
  registrations : Nat
  releaseWhenEmpty : Bool
  deriving DecidableEq

/-- The registry of the runtime, with the broker and the exports of its connection. -/
structure HostObjects (Served : Type u) where
  router : Router
  tree : ObjectTree Served
  unique : Option BusName
  names : Table BusName HostNameLease
  lock : Option Nat

/-- Where a call stands, and after it the guard that it made.  Kept beside it from the
lock to the end of the call: whether the connection owned the name before. -/
inductive HostObjectPhase where
  | waiting
  | asking (before : Bool)
  | claiming (before : Bool)
  | registering (releaseWhenEmpty before : Bool)
  | replacing (releaseWhenEmpty before : Bool) (registration : ObjectRegistration)
  | serving (registration : ObjectRegistration)
  | dropped (registration : ObjectRegistration)
  | withdrawing (registration : ObjectRegistration)
  | withdrawn (registration : ObjectRegistration)
  | removed
  | failed (error : Error)

structure HostObjectTask (Served : Type u) where
  name : BusName
  path : ObjectPath
  interface : Served
  phase : HostObjectPhase

structure HostObjectCall (Served : Type u) where
  name : BusName
  path : ObjectPath
  interface : Served

/-- `asked` is the answer of the bus, `named` what the interface calls itself, and `joined`
the end of the task that drops what was replaced. -/
inductive HostObjectChoice where
  | lock
  | asked (result : Except Error Unit)
  | claim
  | named (interface : InterfaceName)
  | panicked
  | joined
  | drop
  | take
  | settle

inductive HostObjectOutside (Served : Type u) where
  | route (op : RouterOp)
  | serveAt (path : ObjectPath) (name : InterfaceName) (interface : Served)
  | tryServeAt (path : ObjectPath) (name : InterfaceName) (interface : Served)
  | unserve (path : ObjectPath)

/-- Whether the call created the claim. -/
def Router.claimHostName (router : Router) (unique name : BusName) :
    Except Error Bool × Router :=
  ((router.requestNameForUnique unique name).1.map (fun change => change.oldOwner.isNone),
    (router.requestNameForUnique unique name).2)

def Router.releaseHostName (router : Router) (unique name : BusName) :
    Except Error Unit × Router :=
  ((router.releaseNameForUnique unique name).1.map (fun _ => ()),
    (router.releaseNameForUnique unique name).2)

namespace HostObjects

variable {Served : Type u}

/-- Whether the runtime's connection owns a name. -/
def holds (objects : HostObjects Served) (name : BusName) : Bool :=
  objects.unique.any (fun unique => objects.router.ownerOf name == some unique)

def unlock (objects : HostObjects Served) : HostObjects Served :=
  { objects with lock := none }

def release (objects : HostObjects Served) (name : BusName) : HostObjects Served :=
  match objects.unique with
  | some unique => { objects with router := (objects.router.releaseHostName unique name).2 }
  | none => objects

/-- The checks before the claim begin with the connection's own name. -/
def enter (id : Nat) (objects : HostObjects Served) (name : BusName) :
    HostObjects Served × HostObjectPhase :=
  match objects.unique with
  | none => (objects, .failed .connectionClosed)
  | some _ => ({ objects with lock := some id }, .asking (objects.holds name))

def claim (objects : HostObjects Served) (name : BusName) (before : Bool) :
    HostObjects Served × HostObjectPhase :=
  match objects.unique with
  | none => (objects.unlock, .failed .connectionClosed)
  | some unique =>
      let router := (objects.router.claimHostName unique name).2
      match (objects.router.claimHostName unique name).1 with
      | .error _ =>
          ({ objects with router := router }.unlock,
            .failed (.failed "host object bus name is already owned"))
      | .ok newlyClaimed =>
          ({ objects with router := router },
            .registering
              (newlyClaimed || (objects.names.lookup name).any HostNameLease.releaseWhenEmpty)
              before)

/-- A registration that panicked gives the claim back, unless others share it. -/
def refuse (objects : HostObjects Served) (name : BusName) (releaseWhenEmpty : Bool) :
    HostObjects Served :=
  if releaseWhenEmpty then
    match objects.names.lookup name with
    | some lease =>
        { objects with names := objects.names.insert name { lease with releaseWhenEmpty := true } }
    | none => objects.release name
  else objects

def register (objects : HostObjects Served) (task : HostObjectTask Served)
    (releaseWhenEmpty before : Bool) (interface : InterfaceName) :
    HostObjects Served × HostObjectPhase :=
  match objects.tree.insertOwned task.path interface task.interface with
  | none =>
      ((objects.refuse task.name releaseWhenEmpty).unlock,
        .failed (.failed "host object interface registration task failed"))
  | some ((id, _), tree) =>
      ({ objects with tree := tree },
        .replacing releaseWhenEmpty before ⟨task.path, interface, id⟩)

def share (objects : HostObjects Served) (name : BusName) (releaseWhenEmpty : Bool) :
    HostObjects Served :=
  let lease := (objects.names.lookup name).getD ⟨0, releaseWhenEmpty⟩
  { objects with
    names := objects.names.insert name
      ⟨lease.registrations + 1, lease.releaseWhenEmpty || releaseWhenEmpty⟩ }

def settle (objects : HostObjects Served) (name : BusName) : HostObjects Served :=
  match objects.names.lookup name with
  | none => objects
  | some lease =>
      if lease.registrations - 1 = 0 then
        let forgotten := { objects with names := objects.names.erase name }
        if lease.releaseWhenEmpty then forgotten.release name else forgotten
      else
        { objects with
          names := objects.names.insert name ⟨lease.registrations - 1, lease.releaseWhenEmpty⟩ }

def goTo (task : HostObjectTask Served)
    (reached : HostObjects Served × HostObjectPhase) :
    Option (HostObjects Served × HostObjectTask Served) :=
  some (reached.1, { task with phase := reached.2 })

/-- A caller that went away drops the guard as soon as it is there. -/
def step (id : Nat) (choice : HostObjectChoice) (objects : HostObjects Served)
    (task : HostObjectTask Served) : Option (HostObjects Served × HostObjectTask Served) :=
  match task.phase, choice with
  | .waiting, .lock =>
      if objects.lock = none then goTo task (objects.enter id task.name) else none
  | .asking _, .asked (.error error) => goTo task (objects.unlock, .failed error)
  | .asking before, .asked (.ok _) => goTo task (objects, .claiming before)
  | .claiming before, .claim => goTo task (objects.claim task.name before)
  | .registering releaseWhenEmpty _, .panicked =>
      goTo task
        ((objects.refuse task.name releaseWhenEmpty).unlock,
          .failed (.failed "host object interface registration task failed"))
  | .registering releaseWhenEmpty before, .named interface =>
      goTo task (objects.register task releaseWhenEmpty before interface)
  | .replacing releaseWhenEmpty _ registration, .joined =>
      goTo task ((objects.share task.name releaseWhenEmpty).unlock, .serving registration)
  | .serving registration, .drop => goTo task (objects, .dropped registration)
  | .dropped registration, .lock =>
      if objects.lock = none then
        goTo task ({ objects with lock := some id }, .withdrawing registration)
      else none
  | .withdrawing registration, .take =>
      goTo task
        ({ objects with tree := (objects.tree.takeIfOwned registration).2 },
          .withdrawn registration)
  | .withdrawn _, .settle => goTo task ((objects.settle task.name).unlock, .removed)
  | _, _ => none

def outside (event : HostObjectOutside Served)
    (state : Tasks (HostObjects Served) (HostObjectTask Served)) : HostObjects Served :=
  let objects := state.shared
  match event with
  | .route op => { objects with router := (objects.router.perform op).2 }
  | .serveAt path name interface =>
      { objects with tree := (objects.tree.insert path name interface).getD objects.tree }
  | .tryServeAt path name interface =>
      { objects with
        tree := ((objects.tree.insertIfAbsent path name interface).map Prod.snd).getD
          objects.tree }
  | .unserve path => { objects with tree := (objects.tree.remove path).2 }

def kind : Tasks.Kind (HostObjects Served) (HostObjectTask Served) (HostObjectCall Served)
    HostObjectChoice (HostObjectOutside Served) where
  start := fun call => ⟨call.name, call.path, call.interface, .waiting⟩
  step := step
  outside := outside

end HostObjects

end TinyBus
