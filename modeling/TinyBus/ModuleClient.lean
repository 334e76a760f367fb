import TinyBus.EnsureLoaded
import TinyBus.FirstAdmitted
import TinyBus.Library.Tasks
import TinyBus.Reconfiguration
import TinyBus.SendingPaths

/-
The typed client of a registered module, bound to the one peer that proves the module's
artifact.  The binding puts two questions to the broker, and anything may happen on the
bus before, between and after them; each is answered from the table as it is then.
-/

namespace TinyBus

structure PinnedRecord extends ReleaseRecord where
  assets : List ReleasePlan.Asset

/-- A failed call: its closed outcome, and what a remote peer said of it. -/
structure ModuleCallFailure where
  kind : ModuleCallError
  wireName : String
  message : String
  deriving DecidableEq

def ModuleCallFailure.ofKind (kind : ModuleCallError) : ModuleCallFailure :=
  { kind := kind
    wireName :=
      match kind with
      | .unavailable => "ai.tinyhumans.tinybus.Error.ModuleUnavailable"
      | .incompatibleContract => "ai.tinyhumans.tinybus.Error.IncompatibleVersion"
      | .transportFailed => "ai.tinyhumans.tinybus.Error.Transport"
      | .moduleFault => "ai.tinyhumans.tinybus.Error.Failed"
    message := "module call failed" }

def ModuleCallFailure.fromError (error : Error) (kind : ModuleCallError) : ModuleCallFailure :=
  match error with
  | .methodFailed name message => ⟨kind, name, message⟩
  | _ => .ofKind kind

/-- A failure by the name that came over the wire. -/
def classifyRemote (name : String) : ModuleCallError :=
  if name = Error.MODULE_UNAVAILABLE then .unavailable
  else if name ∈ [Error.UNKNOWN_METHOD, "ai.tinyhumans.tinybus.Error.IncompatibleVersion",
      "ai.tinyhumans.tinybus.Error.UnknownInterface",
      "ai.tinyhumans.tinybus.Error.UnknownObject",
      "ai.tinyhumans.tinybus.Error.BadArguments"] then .incompatibleContract
  else if name ∈ [Error.NOT_ATTESTED, Error.CONFIDENTIALITY_REQUIRED,
      "ai.tinyhumans.tinybus.Error.Protocol"] then .transportFailed
  else .moduleFault

/-- The outcome of a bus error, and its reason for the reports. -/
def classifyCall (error : Error) : ModuleCallError × Reason :=
  let kind : ModuleCallError := match error with
    | .invalidName _ => .incompatibleContract
    | .moduleUnavailable _ _ _ => .unavailable
    | .incompatibleVersion _ _ _ => .incompatibleContract
    | .unknownMethod _ _ => .incompatibleContract
    | .unknownInterface _ _ => .incompatibleContract
    | .unknownObject _ => .incompatibleContract
    | .badArguments _ _ => .incompatibleContract
    | .json _ => .incompatibleContract
    | .methodFailed name _ => classifyRemote name
    | _ => .transportFailed
  (kind, reasonFor kind)

structure Proxy where
  destination : BusName
  path : ObjectPath
  interface : InterfaceName
  timeout : Nat
  deriving DecidableEq

def defaultTimeoutSecs : Nat := 30

/-- `Connection::proxy` parses the names. -/
def Proxy.parse (destination path interface : String) : Except Error Proxy := do
  let destination ← (BusName.new destination).mapError .invalidName
  let path ← (ObjectPath.new path).mapError .invalidName
  let interface ← (InterfaceName.new interface).mapError .invalidName
  return ⟨destination, path, interface, defaultTimeoutSecs⟩

def Proxy.withTimeout (proxy : Proxy) (timeout : Nat) : Proxy := { proxy with timeout := timeout }

/-- A call through a proxy: the member is parsed, and a failure is classified. -/
def Proxy.invoke (proxy : Proxy) (member : String) (args : Value) (confidential : Bool) :
    Sending (Except ModuleCallFailure Value) :=
  let program : Sending Value := do
    let member ← Dialogue.ofExcept ((MemberName.new member).mapError Error.invalidName)
    if confidential then
      Sending.callConfidential proxy.destination proxy.path proxy.interface member args
    else Sending.call proxy.destination proxy.path proxy.interface member args
  program.attempt.bind (fun outcome => .done (outcome.mapError (fun error =>
    ModuleCallFailure.fromError error (classifyCall error).1)))

/-- A client of one object of a module. -/
structure ModuleObjectClient where
  record : PinnedRecord
  proxy : Proxy
  timeout : Option Nat

/-- A client of the peer that proved the module's artifact. -/
structure BoundModuleClient where
  record : PinnedRecord
  proxy : Proxy
  timeout : Option Nat

namespace ModuleObjectClient

def derive (object : ModuleObjectClient) (destination path : String) :
    Except ModuleCallError ModuleObjectClient :=
  let timeout := object.timeout.getD object.proxy.timeout
  match Proxy.parse destination path object.proxy.interface.text with
  | .error error => .error (classifyCall error).1
  | .ok proxy => .ok ⟨object.record, proxy.withTimeout timeout, some timeout⟩

def objectAt (object : ModuleObjectClient) (path : String) :
    Except ModuleCallError ModuleObjectClient :=
  object.derive object.proxy.destination.text path

/-- The object on the peer that the broker names as the owner of its destination. -/
def pinOwner (object : ModuleObjectClient) (answer : Except Error (Option BusName)) :
    Except ModuleCallError ModuleObjectClient :=
  match answer with
  | .error error => .error (classifyCall error).1
  | .ok none => .error .unavailable
  | .ok (some owner) => object.derive owner.text object.proxy.path.text

def callDetailed (object : ModuleObjectClient) (member : String) (args : Value) :
    Sending (Except ModuleCallFailure Value) :=
  object.proxy.invoke member args false

def callConfidential (object : ModuleObjectClient) (member : String) (args : Value) :
    Sending (Except ModuleCallFailure Value) :=
  object.proxy.invoke member args true

end ModuleObjectClient

namespace BoundModuleClient

def callDetailed (client : BoundModuleClient) (member : String) (args : Value) :
    Sending (Except ModuleCallFailure Value) :=
  client.proxy.invoke member args false

def callConfidentialDetailed (client : BoundModuleClient) (member : String) (args : Value) :
    Sending (Except ModuleCallFailure Value) :=
  client.proxy.invoke member args true

/-- The payload goes beside the call, to the peer that opened the stream. -/
def callWithStream (client : BoundModuleClient) (member : String) (args : StreamRef → Value)
    (bytes : Chunk) (turns : List Bool) : Sending Value := do
  let member ← Dialogue.ofExcept ((MemberName.new member).mapError Error.invalidName)
  Sending.callWithStream client.proxy.destination client.proxy.path client.proxy.interface member
    args bytes turns

def objectClient (client : BoundModuleClient) (path : String) :
    Except ModuleCallError ModuleObjectClient :=
  match Proxy.parse client.proxy.destination.text path client.proxy.interface.text with
  | .error _ => .error .incompatibleContract
  | .ok proxy =>
      .ok ⟨client.record, (client.timeout.map proxy.withTimeout).getD proxy, client.timeout⟩

end BoundModuleClient

/-- What a client is made with: the registry, the gate, the host keys that this host can
run, an explicit fixture and the deadline. -/
structure ModuleClient where
  find : String → Option PinnedRecord
  enabled : Bool
  candidates : List String
  fixture : Bool
  timeout : Option Nat

/-- A failure, with the reason that was reported for it. -/
abbrev BindFailure := ModuleCallFailure × Option Reason

inductive BindPhase where
  | preparing (record : PinnedRecord)
  | loading (record : PinnedRecord)
  | proxying (record : PinnedRecord)
  | asking (record : PinnedRecord)
  | attesting (record : PinnedRecord) (owner : BusName) (proxy : Proxy)
  | concluded (result : Except BindFailure BoundModuleClient)

/-- What a binding waits for; the broker answers from its table, unless the call fails. -/
inductive BindChoice where
  | prepared (ready : Bool)
  | loaded (ready : Bool)
  | proxied (outcome : Except ProxyFailure Unit)
  | owner (failure : Option Error)
  | attestation (failure : Option Error)

namespace ModuleClient

/-- The assets of this host with both pins. -/
def compatibleAssets (client : ModuleClient) (record : PinnedRecord) : List ReleasePlan.Asset :=
  (record.assets.filter (fun asset => client.candidates.any (· == asset.hostKey))).filter
    (fun asset => isHexSha256 asset.sha256 && asset.librarySha256.any isHexSha256)

def refuse (kind : ModuleCallError) (reason : Option Reason) : BindPhase :=
  .concluded (.error (.ofKind kind, reason))

/-- `report_proxy_failure_detailed`. -/
def fail (error : Error) : BindPhase :=
  .concluded (.error (.fromError error (classifyCall error).1, some (classifyCall error).2))

def unavailable : BindPhase := refuse .unavailable (some .moduleUnavailable)

def start (client : ModuleClient) (module : String) : BindPhase :=
  match client.find module with
  | none => refuse .unavailable (some .unknownModule)
  | some record =>
      if client.enabled = false then refuse .unavailable (some .disabled)
      else if client.compatibleAssets record = [] then unavailable
      else .preparing record

def pinned (record : PinnedRecord) (owner : BusName) : BindPhase :=
  match Proxy.parse owner.text record.objectPath record.busName with
  | .error _ => refuse .incompatibleContract (some .incompatibleContract)
  | .ok proxy => .attesting record owner proxy

/-- The owner of the module's bus name now. -/
def selectOwner (record : PinnedRecord) (router : Router) : BindPhase :=
  match BusName.new record.busName with
  | .error refusal => fail (.invalidName refusal)
  | .ok name =>
      match router.ownerOf name with
      | some owner => if owner.isUnique then pinned record owner else unavailable
      | none => unavailable

def proves (client : ModuleClient) (record : PinnedRecord) (attestation : Attestation) : Bool :=
  attestation.name.text = record.busName &&
    (client.compatibleAssets record).any (fun asset =>
      eqIgnoreAsciiCase attestation.sha256 asset.sha256 &&
        attestation.librarySha256.any (fun digest =>
          asset.librarySha256.any (fun pin => eqIgnoreAsciiCase digest pin)))

def withDeadline (client : ModuleClient) (proxy : Proxy) : Proxy :=
  (client.timeout.map proxy.withTimeout).getD proxy

def proveOwner (client : ModuleClient) (record : PinnedRecord) (owner : BusName)
    (proxy : Proxy) (router : Router) : BindPhase :=
  match router.attestationOf owner with
  | none => unavailable
  | some attestation =>
      if client.proves record attestation then
        .concluded (.ok ⟨record, client.withDeadline proxy, client.timeout⟩)
      else unavailable

def advance (client : ModuleClient) (router : Router) (phase : BindPhase)
    (choice : BindChoice) : Option BindPhase :=
  match phase, choice with
  | .preparing record, .prepared ready =>
      some (if client.fixture || !ready then unavailable else .loading record)
  | .loading record, .loaded ready =>
      some (if ready then .proxying record else refuse .unavailable none)
  | .proxying record, .proxied (.ok _) => some (.asking record)
  | .proxying _, .proxied (.error failure) =>
      let (kind, reason) := ProxyCaller.proxyError failure
      some (refuse kind (some reason))
  | .asking _, .owner (some error) => some (fail error)
  | .asking record, .owner none => some (selectOwner record router)
  | .attesting _ _ _, .attestation (some error) => some (fail error)
  | .attesting record owner proxy, .attestation none =>
      some (client.proveOwner record owner proxy router)
  | _, _ => none

/-- Bindings by one client, and everything else on the bus. -/
def kind (client : ModuleClient) : Tasks.Kind Router BindPhase String BindChoice RouterOp where
  start := client.start
  step := fun _ choice router phase =>
    (client.advance router phase choice).map (fun after => (router, after))
  outside := fun op state => (state.shared.perform op).2

abbrev State := Tasks Router BindPhase

abbrev Event := Tasks.Event String BindChoice RouterOp

def system (client : ModuleClient) : TransitionSystem.System State Event :=
  Tasks.system client.kind (fun router => router = Router.empty)

end ModuleClient

end TinyBus
