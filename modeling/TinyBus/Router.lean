/-
The routing table: who is attached, which names they own, what they want to
hear, what the host verified about them, and the local callback capabilities
the host registered.  Every operation returns its result beside the table it
leaves, so that a failure half applied would be visible.
-/

import TinyBus.Library.Ownership
import TinyBus.Library.Table
import TinyBus.MatchRule
import TinyBus.Version

namespace TinyBus

abbrev PeerId := Nat

/-- The sending end of one peer's queue. -/
abbrev Outbox := Nat

/-- The identity of one shared callback state. -/
abbrev CallbackId := Nat

/-- The host's own record of a recipient it verified. -/
structure Attestation where
  name : BusName
  sha256 : String
  librarySha256 : Option String
  deriving DecidableEq

structure CallbackScope where
  path : ObjectPath
  interface : InterfaceName
  members : List MemberName
  deriving DecidableEq

abbrev HostCallbackEndpoint := CallbackScope
abbrev HostCallbackSignal := CallbackScope

def CallbackScope.contains (scope : CallbackScope) (header : Header) : Bool :=
  header.path == some scope.path && header.interface == some scope.interface &&
    header.member.any (fun member => scope.members.contains member)

structure CallbackState where
  destination : BusName
  endpoints : List HostCallbackEndpoint
  signals : List HostCallbackSignal
  moduleLive : Bool
  active : Bool
  revoked : Bool
  module : Option BusName
  deriving DecidableEq

namespace CallbackState

def includesPeer (state : CallbackState) (peer : BusName) : Bool :=
  state.destination = peer || state.module = some peer

def revoke (state : CallbackState) : CallbackState :=
  { state with active := false, revoked := true }

def accepts (state : CallbackState) (header : Header) : Bool :=
  state.active && state.moduleLive && header.confidential &&
    header.sender == state.module && state.module.isSome &&
    header.destination == some state.destination &&
    state.endpoints.any (fun endpoint => endpoint.contains header)

def acceptsDirectedSignal (state : CallbackState) (source destination : BusName)
    (header : Header) : Bool :=
  state.active && state.moduleLive && state.destination == source &&
    state.module == some destination &&
    state.signals.any (fun signal => signal.contains header)

def bindModule (state : CallbackState) (module : BusName) (live : Bool) :
    CallbackState :=
  if state.revoked || state.module.isSome then state
  else { state with moduleLive := live, module := some module, active := true }

end CallbackState

structure Peer where
  unique : BusName
  outbox : Outbox
  matchRules : List MatchRule
  manifest : Option PeerManifest
  attestations : Table BusName Attestation
  admittedArtifact : Option Attestation

/-- `callbacks` holds the states that `hostCallbacks` and the host share. -/
structure Router where
  peers : Table PeerId Peer
  names : Table BusName PeerId
  nextId : Nat
  hostCallbacks : List CallbackId
  callbacks : Table CallbackId CallbackState

/-- What changed when a name changed owner. -/
abbrev NameChange := Ownership.Change BusName BusName

namespace Router

def empty : Router := ⟨∅, ∅, 0, [], ∅⟩

def uniqueOf (router : Router) (id : PeerId) : Except Error BusName :=
  match router.peers.lookup id with
  | some peer => .ok peer.unique
  | none => .error (.transport "peer detached mid-operation")

def ownerPeer (router : Router) (name : BusName) : Option Peer :=
  match router.names.lookup name with
  | some id => router.peers.lookup id
  | none => none

def hasUniquePeer (router : Router) (unique : BusName) : Bool :=
  (router.ownerPeer unique).any (fun peer => peer.unique == unique)

def isAttached (router : Router) (id : PeerId) (unique : BusName) : Bool :=
  router.names.lookup unique == some id &&
    (router.peers.lookup id).any (fun peer => peer.unique == unique)

def ensurePeerAttached (router : Router) (id : PeerId) (unique : BusName) :
    Except Error Unit :=
  if router.isAttached id unique then .ok ()
  else .error (.nameHasNoOwner unique)

def ownerOf (router : Router) (name : BusName) : Option BusName :=
  (router.ownerPeer name).map Peer.unique

def manifestOf (router : Router) (name : BusName) : Option PeerManifest :=
  (router.ownerPeer name).bind Peer.manifest

def attestationOf (router : Router) (name : BusName) : Option Attestation :=
  match router.ownerPeer name with
  | none => none
  | some peer =>
      if name.isUnique then peer.admittedArtifact
      else peer.attestations.lookup name

def sortNames (names : List BusName) : List BusName :=
  names.mergeSort (fun left right => decide (left.text ≤ right.text))

def listNames (router : Router) : List BusName :=
  sortNames router.names.keys

def wellKnownNamesOf (router : Router) (id : PeerId) : List BusName :=
  (router.names.pairs.filter
    (fun entry => entry.2 == id && !entry.1.isUnique)).map Prod.fst

def peerRecords (router : Router) : List PeerRecord :=
  (router.peers.pairs.filterMap (fun entry =>
      entry.2.manifest.map (fun manifest =>
        { peer := entry.2.unique
          names := sortNames (router.wellKnownNamesOf entry.1)
          manifest := manifest }))).mergeSort
    (fun left right => decide (left.peer.text ≤ right.peer.text))

def freshPeer (id : PeerId) (outbox : Outbox) : Peer :=
  ⟨BusName.unique id, outbox, [], none, ∅, none⟩

def attach (router : Router) (outbox : Outbox) :
    (PeerId × BusName) × Router :=
  let id := router.nextId + 1
  ((id, BusName.unique id),
    { router with
      nextId := id
      peers := router.peers.insert id (freshPeer id outbox)
      names := router.names.insert (BusName.unique id) id })

def callbackIncludes (router : Router) (peer : BusName) (id : CallbackId) :
    Bool :=
  (router.callbacks.lookup id).any (fun state => state.includesPeer peer)

def revokeState (callbacks : Table CallbackId CallbackState)
    (id : CallbackId) : Table CallbackId CallbackState :=
  callbacks.modify id CallbackState.revoke

def revokeCallbacksForPeer (router : Router) (peer : BusName) : Router :=
  { router with
    hostCallbacks :=
      router.hostCallbacks.filter (fun id => !router.callbackIncludes peer id)
    callbacks :=
      (router.hostCallbacks.filter (router.callbackIncludes peer)).foldl
        revokeState router.callbacks }

def namesOwnedBy (router : Router) (id : PeerId) : List BusName :=
  (router.names.pairs.filter (fun entry => entry.2 == id)).map Prod.fst

def detach (router : Router) (id : PeerId) : List NameChange × Router :=
  match router.peers.lookup id with
  | none => ([], router)
  | some peer =>
      let revoked :=
        { router with peers := router.peers.erase id }.revokeCallbacksForPeer
          peer.unique
      let owned := revoked.namesOwnedBy id
      (owned.map (fun name => ⟨name, some peer.unique, none⟩),
        { revoked with
          names := revoked.names.retain (fun name _ => !owned.contains name) })

def detachUnique (router : Router) (unique : BusName) :
    List NameChange × Router :=
  match router.names.lookup unique with
  | some id => router.detach id
  | none => ([], router)

/-- First writer wins; the owner's own repeated request changes nothing. -/
def requestName (router : Router) (id : PeerId) (name : BusName) :
    Except Error NameChange × Router :=
  if name.isUnique then
    (.error (.protocol "a unique name cannot be requested"), router)
  else if name = busName then
    (.error (.protocol "the bus's own name is reserved"), router)
  else
    match router.names.lookup name with
    | some owner =>
        if owner = id then
          ((router.uniqueOf id).map (fun unique => ⟨name, some unique, some unique⟩),
            router)
        else
          ((router.uniqueOf owner).bind (fun holder => .error (.nameTaken name holder)),
            router)
    | none =>
        -- The entry is in the table before the claimant is looked up.
        let claimed := { router with names := router.names.insert name id }
        ((claimed.uniqueOf id).map (fun unique => ⟨name, none, some unique⟩), claimed)

def requestNameForUnique (router : Router) (unique name : BusName) :
    Except Error NameChange × Router :=
  match router.names.lookup unique with
  | none => (.error (.nameHasNoOwner unique), router)
  | some id => router.requestName id name

def releaseName (router : Router) (id : PeerId) (name : BusName) :
    Except Error NameChange × Router :=
  if name.isUnique then
    (.error (.protocol "a unique name cannot be released"), router)
  else
    match router.names.lookup name with
    | some owner =>
        if owner = id then
          let released := { router with names := router.names.erase name }
          ((released.uniqueOf id).map (fun unique => ⟨name, some unique, none⟩), released)
        else
          ((router.uniqueOf owner).bind (fun holder => .error (.nameTaken name holder)),
            router)
    | none => (.error (.nameHasNoOwner name), router)

def releaseNameForUnique (router : Router) (unique name : BusName) :
    Except Error NameChange × Router :=
  match router.names.lookup unique with
  | none => (.error (.nameHasNoOwner unique), router)
  | some id =>
      match router.ensurePeerAttached id unique with
      | .error refusal => (.error refusal, router)
      | .ok () => router.releaseName id name

def modifyPeer (router : Router) (id : PeerId) (update : Peer → Peer) : Router :=
  { router with peers := router.peers.modify id update }

def setManifest (router : Router) (id : PeerId) (manifest : PeerManifest) :
    Router :=
  router.modifyPeer id (fun peer => { peer with manifest := some manifest })

def addMatch (router : Router) (id : PeerId) (rule : MatchRule) : Router :=
  router.modifyPeer id
    (fun peer => { peer with matchRules := peer.matchRules ++ [rule] })

def removeMatch (router : Router) (id : PeerId) (rule : MatchRule) : Router :=
  router.modifyPeer id
    (fun peer => { peer with matchRules := peer.matchRules.filter (· != rule) })

def setAttestation (router : Router) (id : PeerId) (attestation : Attestation) :
    Router :=
  router.modifyPeer id (fun peer =>
    { peer with
      attestations := peer.attestations.insert attestation.name attestation })

def setAttestationForUnique (router : Router) (unique : BusName)
    (attestation : Attestation) : Router :=
  match router.names.lookup unique with
  | none => router
  | some id =>
      (router.modifyPeer id
        (fun peer => { peer with admittedArtifact := some attestation })).setAttestation
          id attestation

def destinationOf (router : Router) (id : CallbackId) : Option BusName :=
  (router.callbacks.lookup id).map CallbackState.destination

/-- Register a capability whose state is already shared. -/
def addHostCallbacks (router : Router) (id : CallbackId) :
    Except Error Unit × Router :=
  match router.callbacks.lookup id with
  | none => (.error (.failed "callback module peer is absent"), router)
  | some capability =>
      if router.hostCallbacks.any (fun entry =>
          entry == id || router.destinationOf entry == some capability.destination) then
        (.error (.failed "callback scope is already registered"), router)
      else if 128 ≤ router.hostCallbacks.length then
        (.error (.failed "callback scope limit reached"), router)
      else
        match capability.module with
        | none => (.error (.failed "callback module peer is absent"), router)
        | some source =>
            if router.attestationOf source = none ∨
                router.ownerOf capability.destination = none then
              (.error (.failed "callback peers are not admitted"), router)
            else
              (.ok (), { router with hostCallbacks := router.hostCallbacks ++ [id] })

def revokeHostCallbacks (router : Router) (id : CallbackId) : Router :=
  { router with
    callbacks := revokeState router.callbacks id
    hostCallbacks := router.hostCallbacks.filter (· != id) }

def resolve (router : Router) (destination : BusName) : Except Error Outbox :=
  match router.ownerPeer destination with
  | some peer => .ok peer.outbox
  | none => .error (.nameHasNoOwner destination)

def isAttestedFor (peer : Peer) (destination : BusName) : Bool :=
  if destination.isUnique then peer.admittedArtifact.isSome
  else (peer.attestations.lookup destination).isSome

def resolveAttested (router : Router) (destination : BusName) :
    Except Error Outbox :=
  match router.ownerPeer destination with
  | none => .error (.nameHasNoOwner destination)
  | some peer =>
      if isAttestedFor peer destination then .ok peer.outbox
      else
        .error (.notAttested destination
          "only a loaded module with a verified artifact may receive a secret")

def callbackAccepts (router : Router) (header : Header) : Bool :=
  router.hostCallbacks.any (fun id =>
    (router.callbacks.lookup id).any (fun state => state.accepts header))

def resolveCall (router : Router) (destination : BusName)
    (expected : Option BusName) (confidential : Bool) (header : Header) :
    Except Error Outbox :=
  if expected.any (fun name => router.ownerOf destination != some name) then
    .error (.nameHasNoOwner destination)
  else if confidential then
    if destination.isUnique && router.callbackAccepts header then
      router.resolve destination
    else
      router.resolveAttested destination
  else
    router.resolve destination

def resolveCallFrom (router : Router) (source : PeerId)
    (sourceName destination : BusName) (expected : Option BusName)
    (confidential : Bool) (header : Header) : Except Error Outbox :=
  match router.ensurePeerAttached source sourceName with
  | .error refusal => .error refusal
  | .ok () => router.resolveCall destination expected confidential header

def directedSignalTarget (router : Router) (source destination : BusName)
    (header : Header) : Except Error Outbox :=
  if header.kind ≠ .directedSignal ∨ header.sender ≠ some source ∨
      header.destination ≠ some destination then
    .error (.failed "directed signal routing fields are invalid")
  else if router.hostCallbacks.any (fun id =>
      (router.callbacks.lookup id).any (fun state =>
        state.acceptsDirectedSignal source destination header)) then
    router.resolve destination
  else
    .error (.failed "directed signal authority is unavailable")

def directedSignalTargetFrom (router : Router) (source : PeerId)
    (sourceName destination : BusName) (header : Header) :
    Except Error Outbox :=
  match router.ensurePeerAttached source sourceName with
  | .error refusal => .error refusal
  | .ok () => router.directedSignalTarget sourceName destination header

def addressedTo (signal : Message) (peer : Peer) : Bool :=
  signal.header.destination.all (fun destination => destination == peer.unique)

def wants (signal : Message) (peer : Peer) : Bool :=
  peer.matchRules.any (fun rule => rule.accepts signal)

/-- The peers a signal from one peer is fanned out to. -/
def recipients (router : Router) (signal : Message) (source : PeerId) :
    List (PeerId × Peer) :=
  if signal.header.confidential then []
  else
    router.peers.pairs.filter (fun entry =>
      entry.1 != source && addressedTo signal entry.2 && wants signal entry.2)

def subscribers (router : Router) (signal : Message) (source : PeerId) :
    List Outbox :=
  (router.recipients signal source).map (fun entry => entry.2.outbox)

def subscribersFrom (router : Router) (signal : Message) (source : PeerId)
    (sourceName : BusName) : Except Error (List Outbox) :=
  match router.ensurePeerAttached source sourceName with
  | .error refusal => .error refusal
  | .ok () => .ok (router.subscribers signal source)

def broadcastRecipients (router : Router) (signal : Message) :
    List (PeerId × Peer) :=
  if signal.header.confidential then []
  else router.peers.pairs.filter (fun entry => wants signal entry.2)

def broadcastTargets (router : Router) (signal : Message) : List Outbox :=
  (router.broadcastRecipients signal).map (fun entry => entry.2.outbox)

end Router

end TinyBus
