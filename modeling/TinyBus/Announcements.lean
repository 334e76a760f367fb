/-
Who owns what, and when it is told.  The table moves under its lock; whoever moved
it announces the change afterwards, one change at a time, and each announcement
takes the lock once more to pick its targets before it is pushed to their queues.
The ledger lists the changes in the order of the table, and a watcher is a queue
that may be among the targets.
-/

import TinyBus.Handling
import TinyBus.Library.Journal

namespace TinyBus

open TransitionSystem

/-- A change and its place in the ledger. -/
abbrev Announcement := Journal.Entry NameChange

/-- A reader announces once it has answered its caller, the module host once the
module is ready; `aimed` tells whether the watcher was picked as a target. -/
inductive Stage where
  | replying
  | withheld
  | announcing
  | aimed (picked : Bool)

/-- `reader` is the peer whose reader task announces, if it is one. -/
structure Announcer where
  reader : Option PeerId
  stage : Stage
  owed : List Announcement

/-- `sent` lists the announcements made, and whether each got to the watcher; `lost`
those that were dropped with the answer of a caller that is gone. -/
structure AnnounceState (Host : Type) where
  broker : Broker Host
  announcers : List Announcer
  ledger : List NameChange
  sent : List (Announcement × Bool)
  lost : List Announcement

inductive AnnounceEvent (Host : Type) where
  | call (source : PeerId) (member : MemberName) (body : Value)
  | readerEnds (source : PeerId)
  | act (op : RouterOp)
  | reserve (id : PeerId) (name : BusName)
  | hostMoves (modules : Option Host) (controller : Option ModuleControllerBinding)
  | answer (index : Nat)
  | ready (index : Nat)
  | aim (index : Nat)
  | push (index : Nat) (full : Bool)

/-- What the broker announces of an operation of its own: of a claim, only that
the name had no owner. -/
def RouterOp.told : RouterOp → List NameChange → List NameChange
  | .requestNameForUnique _ _, changes =>
      changes.filter (fun change => change.oldOwner.isNone)
  | _, changes => changes

def RouterOp.Hosted : RouterOp → Prop
  | .requestName _ _ => False
  | .releaseName _ _ => False
  | .setManifest _ _ => False
  | .addMatch _ _ => False
  | .removeMatch _ _ => False
  | .detach _ => False
  | _ => True

namespace AnnounceState

variable {Host : Type}

/-- A section that held the lock: what it left, the changes it made, and what of
them it goes on to announce. -/
def record (state : AnnounceState Host) (after : Broker Host) (changes : List NameChange)
    (reader : Option PeerId) (stage : Stage) (told : List NameChange) :
    AnnounceState Host :=
  { state with
    broker := after
    announcers :=
      state.announcers ++ [⟨reader, stage, told.zipIdx state.ledger.length⟩]
    ledger := state.ledger ++ Ownership.effective changes }

def withRouter (state : AnnounceState Host) (router : Router) : Broker Host :=
  { state.broker with router := router }

/-- A bus call announces no change from a name to itself. -/
def call (control : ModuleControl Host) (state : AnnounceState Host) (source : PeerId)
    (member : MemberName) (body : Value) : AnnounceState Host :=
  let reply :=
    Broker.busMethod control state.broker source (BusName.unique source) member body
  state.record reply.broker reply.changes (some source) .replying
    (reply.changes.filter (fun change => change.oldOwner != change.newOwner))

def readerEnds (state : AnnounceState Host) (source : PeerId) : AnnounceState Host :=
  let detached := state.broker.router.detach source
  state.record (state.withRouter detached.2) detached.1 (some source) .announcing
    detached.1

def act (state : AnnounceState Host) (op : RouterOp) : AnnounceState Host :=
  let performed := state.broker.router.perform op
  state.record (state.withRouter performed.2) (Broker.reportedChanges performed) none
    .announcing (op.told (Broker.reportedChanges performed))

/-- The name of a module is claimed for it before it runs. -/
def reserve (state : AnnounceState Host) (id : PeerId) (name : BusName) :
    AnnounceState Host :=
  let performed :=
    state.broker.router.perform (.requestNameForUnique (BusName.unique id) name)
  state.record (state.withRouter performed.2) (Broker.reportedChanges performed) none
    .withheld (Broker.reportedChanges performed)

def setAnnouncer (state : AnnounceState Host) (index : Nat) (announcer : Announcer) :
    AnnounceState Host :=
  { state with announcers := state.announcers.set index announcer }

/-- A reader answers its caller; a caller that is gone takes the announcements with
it. -/
def answer (state : AnnounceState Host) (index : Nat) : AnnounceState Host :=
  match state.announcers[index]? with
  | some ⟨some source, .replying, owed⟩ =>
      match state.broker.router.resolve (BusName.unique source) with
      | .ok _ => state.setAnnouncer index ⟨some source, .announcing, owed⟩
      | .error _ =>
          { state.setAnnouncer index ⟨some source, .announcing, []⟩ with
            lost := state.lost ++ owed }
  | _ => state

def ready (state : AnnounceState Host) (index : Nat) : AnnounceState Host :=
  match state.announcers[index]? with
  | some ⟨reader, .withheld, owed⟩ =>
      state.setAnnouncer index ⟨reader, .announcing, owed⟩
  | _ => state

def aim (watcher : Outbox) (state : AnnounceState Host) (index : Nat) :
    AnnounceState Host :=
  match state.announcers[index]? with
  | some ⟨reader, .announcing, entry :: owed⟩ =>
      let targets :=
        state.broker.router.broadcastTargets (Broker.announcement entry.1)
      state.setAnnouncer index
        ⟨reader, .aimed (targets.contains watcher), entry :: owed⟩
  | _ => state

def push (state : AnnounceState Host) (index : Nat) (full : Bool) : AnnounceState Host :=
  match state.announcers[index]? with
  | some ⟨reader, .aimed picked, entry :: owed⟩ =>
      { state.setAnnouncer index ⟨reader, .announcing, owed⟩ with
        sent := state.sent ++ [(entry, picked && !full)] }
  | _ => state

def next (control : ModuleControl Host) (watcher : Outbox) (state : AnnounceState Host) :
    AnnounceEvent Host → AnnounceState Host
  | .call source member body => state.call control source member body
  | .readerEnds source => state.readerEnds source
  | .act op => state.act op
  | .reserve id name => state.reserve id name
  | .hostMoves modules controller =>
      { state with
        broker := { state.broker with modules := modules, moduleController := controller } }
  | .answer index => state.answer index
  | .ready index => state.ready index
  | .aim index => state.aim watcher index
  | .push index full => state.push index full

def Idle (state : AnnounceState Host) (source : PeerId) : Prop :=
  ∀ announcer ∈ state.announcers, announcer.reader = some source → announcer.owed = []

/-- Readers act when they are idle; the host reserves a name for a module that does
not have it. -/
def Possible (state : AnnounceState Host) : AnnounceEvent Host → Prop
  | .call source _ _ => state.Idle source
  | .readerEnds source => state.Idle source
  | .act op => op.Hosted
  | .reserve id name => state.broker.router.ownerOf name ≠ some (BusName.unique id)
  | _ => True

/-- A broker that nothing was attached to yet. -/
structure Fresh (state : AnnounceState Host) : Prop where
  table : state.broker.router = Router.empty
  quiet : state.announcers = [] ∧ state.ledger = [] ∧ state.sent = [] ∧ state.lost = []

def system (control : ModuleControl Host) (watcher : Outbox) :
    System (AnnounceState Host) (AnnounceEvent Host) :=
  (System.ofFunction Fresh (next control watcher)).restrict Possible

def outstanding (state : AnnounceState Host) : List Announcement :=
  state.announcers.flatMap Announcer.owed

/-- The changes of a name that the watcher heard of, in order. -/
def heard (state : AnnounceState Host) (name : BusName) : List NameChange :=
  (state.sent.filter (fun entry => decide (entry.1.1.name = name) && entry.2)).map
    (fun entry => entry.1.1)

/-- The step spares a name: its oldest outstanding announcement goes first, the
watcher goes on hearing of it once it does, and none of it is lost. -/
def Orderly (name : BusName) (state : AnnounceState Host) : AnnounceEvent Host → Prop
  | .answer index => ∀ source owed,
      state.announcers[index]? = some ⟨some source, .replying, owed⟩ →
        (∃ target, state.broker.router.resolve (BusName.unique source) = .ok target) ∨
          ∀ entry ∈ owed, entry.1.name ≠ name
  | .push index full => ∀ reader picked entry owed,
      state.announcers[index]? = some ⟨reader, .aimed picked, entry :: owed⟩ →
        entry.1.name = name →
          (∀ other ∈ state.outstanding, other.1.name = name → entry.2 ≤ other.2) ∧
            ((picked && !full) = true ∨ state.heard name = [])
  | _ => True

end AnnounceState

end TinyBus
