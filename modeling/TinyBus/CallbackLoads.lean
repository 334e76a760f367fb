import TinyBus.CallbackInvariant
import TinyBus.Loading
import TinyBus.Digest

/-
Loads of modules with host callbacks.  A load consumes its binding and then
holds a rollback, which takes back what the load made unless it is committed:
it revokes the binding with its descendants, detaches the private peer and,
once there is a transport, the peer of the module that the binding names.
-/

namespace TinyBus

open TransitionSystem

/-- How a load ends once it released its module.  In the last case the module
was observed as it is given, and the binding or the admission may be withdrawn. -/
inductive LoadCompletion where
  | initializationFailed
  | removed
  | settled (transport : TransportView) (withdrawn : Bool)

/-- A load with what its surroundings make of it: the files and the artifact it
finds, the pins of its caller and the outcome of each stage outside the host. -/
structure CallbackLoad where
  binding : CallbackId
  sameOwner : Bool
  file : String
  opened : Except Error Unit
  allowlisted : Option String
  fileHash : String
  pinnedSha256 : Option String
  pinnedLibrarySha256 : Option String
  artifact : Except Error ModuleManifest
  currentLibrary : Except Error (Option String)
  validated : Except Error ModuleInfo
  expectedIdentity : Option (String × String)
  configured : Bool
  outbox : Outbox
  transport : TransportView
  starts : Bool
  live : Bool
  completion : LoadCompletion

structure AdmittedArtifact where
  info : ModuleInfo
  manifest : ModuleManifest
  attestation : Attestation

namespace CallbackLoad

def refused (load : CallbackLoad) (reason : String) : Error :=
  .moduleRefused load.file reason

def verifiedHash (load : CallbackLoad) : Except Error String :=
  match load.allowlisted, load.pinnedSha256 with
  | some hash, _ => .ok hash
  | none, some _ => .ok load.fileHash
  | none, none => .error (load.refused "scoped callbacks require a verified artifact")

def otherIdentity (load : CallbackLoad) (info : ModuleInfo) : Bool :=
  load.expectedIdentity.any (fun identity =>
    info.manifest.busName.text != identity.1 || info.manifest.objectPath.text != identity.2)

/-- The checks of a load from its files to the making of the transport. -/
def admission (load : CallbackLoad) (host : ModuleHost) : Except Error AdmittedArtifact := do
  load.opened
  let hash ← load.verifiedHash
  if load.pinnedLibrarySha256.any (fun pinned => !eqIgnoreAsciiCase pinned hash) then
    throw (load.refused "release library pin disagrees with the local module allowlist")
  let libraryPin := load.pinnedLibrarySha256.getD hash
  let manifest ← load.artifact
  host.ensureDependencies manifest load.file
  let currentLibrary ← load.currentLibrary
  if currentLibrary ≠ some libraryPin then
    throw (load.refused "verified artifact changed during loading")
  let info ← load.validated
  if load.otherIdentity info then
    throw (load.refused "artifact identity does not match the requested module")
  if host.loaded.any (fun module => module.info.name = info.name) then
    throw (load.refused "module name is already loaded")
  if !load.configured then
    throw (.failed "module configuration is invalid")
  return ⟨info, manifest,
    ⟨info.manifest.busName, load.pinnedSha256.getD hash, some libraryPin⟩⟩

end CallbackLoad

/-- `callbackStates` is the callback state that the record of a module keeps. -/
structure CallbackHost where
  bindings : Bindings
  host : ModuleHost
  callbackStates : Table BusName CallbackId

structure LoadAttempt where
  result : Except Error ModuleInfo
  transport : Option BusName
  host : CallbackHost

namespace CallbackHost

def moduleNames (host : CallbackHost) : List BusName :=
  host.host.loaded.map LoadedModule.uniqueName

def routed (host : CallbackHost) (op : RouterOp) : CallbackHost :=
  { host with bindings := host.bindings.after (.route op) }

def forget (host : CallbackHost) (unique : BusName) : CallbackHost :=
  { host with
    host := { host.host with
      loaded := host.host.loaded.filter (fun module => module.uniqueName ≠ unique) }
    callbackStates := host.callbackStates.erase unique }

def rejected (host : CallbackHost) (error : Error) (manifest : ModuleManifest)
    (refusal : RefusalClass) : CallbackHost :=
  { host with host := host.host.recordManifestRejection error manifest refusal }

def nextPeer (host : CallbackHost) : BusName :=
  BusName.unique (host.bindings.router.nextId + 1)

/-- The staged peer is detached again where its name is taken or it cannot start. -/
def attachTransport (host : CallbackHost) (load : CallbackLoad)
    (admitted : AdmittedArtifact) : Except Error Unit × CallbackHost :=
  let unique := host.nextPeer
  let staged := host.routed (.attach load.outbox)
  match (staged.bindings.router.requestNameForUnique unique admitted.info.manifest.busName).1 with
  | .error _ =>
      let error := load.refused "module bus name is already owned"
      (.error error,
        (staged.rejected error admitted.manifest .unresolved).routed (.detachUnique unique))
  | .ok _ =>
      let reserved :=
        staged.routed (.requestNameForUnique unique admitted.info.manifest.busName)
      let attested := reserved.routed (.setAttestationForUnique unique admitted.attestation)
      if load.starts then
        (.ok (), { attested with
          host := attested.host.publish admitted.info unique load.transport })
      else
        let error := load.refused "module transport could not start"
        (.error error,
          (attested.routed (.detachUnique unique)).rejected error admitted.manifest .failed)

def grant (host : CallbackHost) (load : CallbackLoad) (unique : BusName) :
    Except Error Unit × CallbackHost :=
  match host.bindings.bind load.binding unique load.live with
  | (.error error, _) => (.error error, host)
  | (.ok (), bound) =>
      let held := { host with
        bindings := bound
        callbackStates := host.callbackStates.insert unique load.binding }
      match bound.register load.binding with
      | (.error error, _) => (.error error, held)
      | (.ok (), registered) => (.ok (), { held with bindings := registered })

/-- The end of a load whose module was released. -/
def complete (host : CallbackHost) (load : CallbackLoad) (unique : BusName) :
    Except Error ModuleInfo × CallbackHost :=
  match load.completion with
  | .initializationFailed =>
      (.error (load.refused "module initialization failed"),
        { host with bindings := host.bindings.revoke load.binding }.forget unique)
  | .removed =>
      (.error (load.refused "module was removed before load completion"), host.forget unique)
  | .settled transport withdrawn =>
      let observed := { host with
        host := host.host.update (.peer unique) (fun module => module.move (.transport transport)) }
      match observed.host.select (.peer unique) with
      | none =>
          (.error (load.refused "module was removed before load completion"), observed)
      | some module =>
          if withdrawn || !transport.ready || module.snapshot.state ≠ .ready then
            (.error (load.refused "module became unavailable before load completion"), observed)
          else (.ok module.snapshot, observed)

/-- A load from the consumption of its binding to its decision. -/
def attempt (host : CallbackHost) (load : CallbackLoad) : LoadAttempt :=
  match load.admission host.host with
  | .error error => ⟨.error error, none, host⟩
  | .ok admitted =>
      match host.attachTransport load admitted with
      | (.error error, after) => ⟨.error error, some host.nextPeer, after⟩
      | (.ok (), attached) =>
          match attached.grant load host.nextPeer with
          | (.error error, after) => ⟨.error error, some host.nextPeer, after⟩
          | (.ok (), granted) =>
              let (result, after) := granted.complete load host.nextPeer
              ⟨result, some host.nextPeer, after⟩

def modulePeer (host : CallbackHost) (id : CallbackId) : Option BusName :=
  (host.bindings.router.callbacks.lookup id).bind CallbackState.module

/-- The peer that a rollback detaches, which for a binding that was bound before
is not the peer that the load attached. -/
def rollbackPeer (host : CallbackHost) (id : CallbackId) (unique : BusName) :
    Option BusName :=
  (host.modulePeer id).or (if unique ∈ host.moduleNames then some unique else none)

def detached (host : CallbackHost) (peer : Option BusName) : CallbackHost :=
  match peer with
  | some peer => host.routed (.detachUnique peer)
  | none => host

/-- What a load takes back when it is dropped before its commitment. -/
def rollback (host : CallbackHost) (id : CallbackId) (transport : Option BusName) :
    CallbackHost :=
  let revoked := { host with bindings := host.bindings.revoke id }
  let closed := revoked.detached (revoked.bindings.router.destinationOf id)
  match transport with
  | none => closed
  | some unique => (closed.detached (closed.rollbackPeer id unique)).forget unique

def loadFileWithHostCallbacks (host : CallbackHost) (load : CallbackLoad) :
    Except Error ModuleInfo × CallbackHost :=
  if !load.sameOwner then
    (.error (.failed "callback binding belongs to another host owner"), host)
  else
    match host.bindings.consume load.binding with
    | (.error error, _) => (.error error, host)
    | (.ok (), consumed) =>
        let made := { host with bindings := consumed }.attempt load
        match made.result with
        | .ok info => (.ok info, made.host)
        | .error error => (.error error, made.host.rollback load.binding made.transport)

end CallbackHost

end TinyBus
