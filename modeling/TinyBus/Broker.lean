/-
The broker: routing of inbound messages, the bus's own interface and the
members that control the module host.  The module host is met only through the
interface the broker calls it by, over an arbitrary state of its own.
-/

import TinyBus.ModuleInfo
import TinyBus.Router

namespace TinyBus

/-- The module host as the broker sees it. -/
structure ModuleControl (Host : Type) where
  list : Host → List ModuleInfo
  load : Host → String → Value →
    Except Error (ModuleInfo × Option ModuleTransition) × Host
  loadGithub : Host → String → String → String → Value →
    Except Error (ModuleInfo × Option ModuleTransition) × Host
  stop : Host → String → UInt64 → Except Error ModuleInfo × Host
  reinitializeModule : Host → String → Value → Except Error ModuleInfo × Host
  enable : Host → String → Bool →
    Except Error (ModuleInfo × Option ModuleTransition) × Host
  rescan : Host → List String → Bool →
    Except Error (List ModuleInfo × List ModuleTransition) × Host
  unavailableFor : Host → BusName → Option Error

inductive ModuleControllerBinding where
  | unselected
  | attaching
  | selected (peer : BusName)
  deriving DecidableEq

/-- `modules` is the installed module host, where one is alive; without a
controller binding module control is permissive. -/
structure Broker (Host : Type) where
  router : Router
  id : String
  modules : Option Host
  moduleController : Option ModuleControllerBinding

/-- What routing decided to do with an accepted message. -/
inductive Route where
  | fanOut (targets : List Outbox) (message : Message)
  | notify (target : Outbox) (message : Message)
  | deliver (target : Outbox) (message : Message)
  | bus (message : Message)

namespace Broker

variable {Host : Type}

def configurationMembers : List String :=
  ["LoadModule", "LoadGithubModule", "ReinitializeModule"]

def routeToBus (message : Message) : Except Error Route :=
  if message.header.confidential ∧ message.header.kind = .methodCall then
    .error (.notAttested busName "the bus itself is never an attested recipient")
  else if message.header.sensitive ∧
      message.header.member.all
        (fun member => !configurationMembers.contains member.text) then
    .error (.protocol
      "sensitive control bodies are reserved for module configuration")
  else
    .ok (.bus message)

/-- A refused attestation is the more specific answer and survives; any other
refusal gives way to what the module host knows about the name. -/
def explainRefusal (unavailable : BusName → Option Error) (destination : BusName) :
    Error → Error
  | .notAttested name reason => .notAttested name reason
  | other => (unavailable destination).getD other

def routeToPeer (router : Router) (unavailable : BusName → Option Error)
    (source : PeerId) (sourceName destination : BusName) (message : Message) :
    Except Error Route :=
  if message.header.sensitive then
    .error (.protocol "sensitive control calls must address the bus module host")
  else
    match router.resolveCallFrom source sourceName destination
        message.header.expectedResponder
        (message.header.confidential && message.header.kind = .methodCall)
        message.header with
    | .error refusal => .error (explainRefusal unavailable destination refusal)
    | .ok target =>
        if message.header.kind = .methodCall then
          -- The lookup is by the name that was called, not by its owner.
          match unavailable destination with
          | some refusal => .error refusal
          | none => .ok (.deliver target message)
        else
          .ok (.deliver target message)

def routeStamped (router : Router) (unavailable : BusName → Option Error)
    (source : PeerId) (sourceName : BusName) (message : Message) :
    Except Error Route :=
  match message.header.kind with
  | .signal =>
      (router.subscribersFrom message source sourceName).map
        (fun targets => .fanOut targets message)
  | .directedSignal =>
      match message.header.destination with
      | none => .error (.protocol "directed signal has no destination")
      | some destination =>
          (router.directedSignalTargetFrom source sourceName destination
            message.header).map (fun target => .notify target message)
  | _ =>
      match message.header.destination with
      | none => .error (.protocol "message has no destination")
      | some destination =>
          if destination = busName then routeToBus message
          else routeToPeer router unavailable source sourceName destination message

/-- Route one inbound message from a peer: check it, stamp it, route it. -/
def route (router : Router) (unavailable : BusName → Option Error)
    (source : PeerId) (sourceName : BusName) (message : Message) :
    Except Error Route :=
  match message.validate with
  | .error refusal => .error refusal
  | .ok () =>
      routeStamped router unavailable source sourceName (message.stamp sourceName)

inductive ModuleMember where
  | list
  | get
  | getManifest
  | load
  | loadGithub
  | reinitializeModule
  | stop
  | enable
  | rescan
  deriving DecidableEq

def moduleMember (member : MemberName) : Option ModuleMember :=
  match member.text with
  | "ListModules" => some .list
  | "GetModule" => some .get
  | "GetModuleManifest" => some .getManifest
  | "LoadModule" => some .load
  | "LoadGithubModule" => some .loadGithub
  | "ReinitializeModule" => some .reinitializeModule
  | "StopModule" => some .stop
  | "EnableModule" => some .enable
  | "RescanModules" => some .rescan
  | _ => none

def ModuleMember.readOnly : ModuleMember → Bool
  | .list => true
  | .get => true
  | .getManifest => true
  | _ => false

def moduleControlDenied : Error :=
  .methodFailed "ai.tinyhumans.tinybus.Error.ModuleControlDenied"
    "module control requires the host-selected controller connection"

def denied (controller : Option ModuleControllerBinding) (caller : BusName)
    (operation : ModuleMember) : Bool :=
  !operation.readOnly &&
    controller.any (fun binding => binding != .selected caller)

/-- The positional arguments of `LoadModule`: a path and a configuration that
is an empty object where it is left out. -/
def loadArguments (member : MemberName) (body : Value) :
    Except Error (String × Value) :=
  match body with
  | .array [] => .error (.badArgumentsFrom member "missing path")
  | .array (path :: rest) =>
      match Decoder.string path with
      | .error complaint => .error (.badArgumentsFrom member complaint)
      | .ok path =>
          if 1 < rest.length then
            .error (.badArgumentsFrom member
              "expected path and optional configuration")
          else .ok (path, rest.head?.getD (.object []))
  | _ => .error (.badArgumentsFrom member "expected a positional array")

def isTrue : Value → Bool
  | .bool flag => flag
  | _ => false

/-- The positional arguments of `RescanModules`: optional paths and an optional
dry-run flag. -/
def rescanArguments (member : MemberName) (body : Value) :
    Except Error (List String × Bool) :=
  match body with
  | .array arguments =>
      match arguments.head?.elim (.ok []) (Decoder.list Decoder.path) with
      | .error complaint => .error (.badArgumentsFrom member complaint)
      | .ok paths =>
          if 2 < arguments.length then
            .error (.badArgumentsFrom member
              "expected optional paths and dry-run flag")
          else
            .ok (paths, arguments[1]?.any isTrue)
  | _ => .error (.badArgumentsFrom member "expected a positional array")

def transitionReply (result : Except Error (ModuleInfo × Option ModuleTransition)) :
    Except Error Value × List Value :=
  match result with
  | .ok (info, transition) => (.ok info.toValue, (transition.map moduleStateBody).toList)
  | .error error => (.error error, [])

def moduleOperation (control : ModuleControl Host) (host : Host)
    (member : MemberName) (body : Value) :
    ModuleMember → (Except Error Value × List Value) × Host
  | .list => ((.ok (.array ((control.list host).map ModuleInfo.toValue)), []), host)
  | .get =>
      match parseArgs (Decoder.one Decoder.string) member body with
      | .error error => ((.error error, []), host)
      | .ok name =>
          ((.ok (((control.list host).find? (fun info => info.name = name)).elim
            .null ModuleInfo.toValue), []), host)
  | .getManifest =>
      match parseArgs (Decoder.one Decoder.string) member body with
      | .error error => ((.error error, []), host)
      | .ok name =>
          ((.ok (((control.list host).find? (fun info => info.name = name)).elim
            .null (fun info => info.manifest.toValue)), []), host)
  | .load =>
      match loadArguments member body with
      | .error error => ((.error error, []), host)
      | .ok (path, config) =>
          let (result, after) := control.load host path config
          (transitionReply result, after)
  | .loadGithub =>
      match parseArgs Decoder.release member body with
      | .error error => ((.error error, []), host)
      | .ok (url, asset, sha256, config) =>
          let (result, after) := control.loadGithub host url asset sha256 config
          (transitionReply result, after)
  | .reinitializeModule =>
      match parseArgs (Decoder.two Decoder.string Decoder.any) member body with
      | .error error => ((.error error, []), host)
      | .ok (name, config) =>
          let (result, after) := control.reinitializeModule host name config
          ((result.map ModuleInfo.toValue, []), after)
  | .stop =>
      match parseArgs (Decoder.two Decoder.string Decoder.uint64) member body with
      | .error error => ((.error error, []), host)
      | .ok (name, deadline) =>
          let (result, after) := control.stop host name deadline
          ((result.map ModuleInfo.toValue, []), after)
  | .enable =>
      match parseArgs (Decoder.two Decoder.string Decoder.bool) member body with
      | .error error => ((.error error, []), host)
      | .ok (name, enabled) =>
          let (result, after) := control.enable host name enabled
          (transitionReply result, after)
  | .rescan =>
      match rescanArguments member body with
      | .error error => ((.error error, []), host)
      | .ok (paths, dryRun) =>
          match control.rescan host paths dryRun with
          | (.ok (infos, transitions), after) =>
              ((.ok (.array (infos.map ModuleInfo.toValue)),
                transitions.map moduleStateBody), after)
          | (.error error, after) => ((.error error, []), after)

/-- A module member, past the gate: admission precedes argument parsing. -/
def moduleMethod (control : ModuleControl Host) (broker : Broker Host)
    (caller : BusName) (member : MemberName) (body : Value)
    (operation : ModuleMember) : (Except Error Value × List Value) × Broker Host :=
  if denied broker.moduleController caller operation then
    ((.error moduleControlDenied, []), broker)
  else
    match broker.modules with
    | none => ((.error (.failed "module host is not installed"), []), broker)
    | some host =>
        let (reply, after) := moduleOperation control host member body operation
        (reply, { broker with modules := some after })

def unavailable (control : ModuleControl Host) (broker : Broker Host)
    (name : BusName) : Option Error :=
  broker.modules.bind (fun host => control.unavailableFor host name)

def decodeName (member : MemberName) (body : Value) : Except Error BusName :=
  parseArgs (Decoder.one (Decoder.tryFrom BusName.new)) member body

def nameOrNull (name : Option BusName) : Value := name.elim .null BusName.toValue

/-- Resolve the owner of a name, or say why a module that is known by it cannot
be called. -/
def resolveCallTarget (control : ModuleControl Host) (broker : Broker Host)
    (member : MemberName) (body : Value) : Except Error Value :=
  match decodeName member body with
  | .error error => .error error
  | .ok name =>
      match broker.router.ownerOf name with
      | some owner => .ok owner.toValue
      | none => .error ((broker.unavailable control name).getD (.nameHasNoOwner name))

structure TableReply where
  result : Except Error Value
  changes : List NameChange
  router : Router

def answer (router : Router) (result : Except Error Value) : TableReply :=
  ⟨result, [], router⟩

def nameReply (outcome : Except Error NameChange × Router) : TableReply :=
  match outcome with
  | (.ok change, after) => ⟨.ok (.bool true), [change], after⟩
  | (.error error, after) => ⟨.error error, [], after⟩

def matchReply (router : Router) (member : MemberName) (body : Value)
    (apply : MatchRule → Router) : TableReply :=
  match parseArgs (Decoder.one Decoder.string) member body with
  | .error error => answer router (.error error)
  | .ok text =>
      match MatchRule.parse text with
      | .error error => answer router (.error error)
      | .ok rule => answer (apply rule) (.ok .null)

def lookupReply (router : Router) (member : MemberName) (body : Value)
    (look : BusName → Value) : TableReply :=
  answer router ((decodeName member body).map look)

def Attestation.toValue (attestation : Attestation) : Value :=
  .object (present
    [("library_sha256", attestation.librarySha256.map Value.string),
      ("name", some attestation.name.toValue),
      ("sha256", some (.string attestation.sha256))])

def tableMethod (id : String) (router : Router) (source : PeerId)
    (sourceName : BusName) (member : MemberName) (body : Value) : TableReply :=
  match member.text with
  | "Hello" => answer router (.ok sourceName.toValue)
  | "GetId" => answer router (.ok (.string id))
  | "Ping" => answer router (.ok .null)
  | "RequestName" =>
      match decodeName member body with
      | .error error => answer router (.error error)
      | .ok name => nameReply (router.requestName source name)
  | "ReleaseName" =>
      match decodeName member body with
      | .error error => answer router (.error error)
      | .ok name => nameReply (router.releaseName source name)
  | "ListNames" => answer router (.ok (.array (router.listNames.map BusName.toValue)))
  | "Announce" =>
      match parseArgs (Decoder.one PeerManifest.decode) member body with
      | .error error => answer router (.error error)
      | .ok manifest => answer (router.setManifest source manifest) (.ok (.bool true))
  | "GetManifest" =>
      lookupReply router member body
        (fun name => (router.manifestOf name).elim .null PeerManifest.toValue)
  | "ListPeers" =>
      answer router (.ok (.array (router.peerRecords.map PeerRecord.toValue)))
  | "GetAttestation" =>
      lookupReply router member body
        (fun name => (router.attestationOf name).elim .null Attestation.toValue)
  | "GetNameOwner" =>
      lookupReply router member body (fun name => nameOrNull (router.ownerOf name))
  | "AddMatch" => matchReply router member body (router.addMatch source)
  | "RemoveMatch" => matchReply router member body (router.removeMatch source)
  | _ => answer router (.error (.unknownMethod busInterface member))

structure BusReply (Host : Type) where
  result : Except Error Value
  changes : List NameChange
  moduleStates : List Value
  broker : Broker Host

/-- The bus's own interface; whoever calls it is attached. -/
def busMethod (control : ModuleControl Host) (broker : Broker Host)
    (source : PeerId) (sourceName : BusName) (member : MemberName) (body : Value) :
    BusReply Host :=
  match broker.router.ensurePeerAttached source sourceName with
  | .error error => ⟨.error error, [], [], broker⟩
  | .ok () =>
      match moduleMember member with
      | some operation =>
          let (reply, after) :=
            moduleMethod control broker sourceName member body operation
          ⟨reply.1, [], reply.2, after⟩
      | none =>
          if member.text = "ResolveCallTarget" then
            ⟨resolveCallTarget control broker member body, [], [], broker⟩
          else
            let reply :=
              tableMethod broker.id broker.router source sourceName member body
            ⟨reply.result, reply.changes, [], { broker with router := reply.router }⟩

def busSignal (member : MemberName) (body : Value) : Message :=
  let signal := Message.signal busPath busInterface member body
  { signal with header := { signal.header with sender := some busName } }

def nameOwnerChanged : MemberName := ⟨"NameOwnerChanged", by rfl⟩
def pingMember : MemberName := ⟨"Ping", by rfl⟩
def requestNameMember : MemberName := ⟨"RequestName", by rfl⟩

def announcement (change : NameChange) : Message :=
  busSignal nameOwnerChanged
    (.array [change.name.toValue, nameOrNull change.oldOwner, nameOrNull change.newOwner])

def busReplyMessage (call : Header) (result : Except Error Value) : Message :=
  match result with
  | .ok value => Message.methodReturn call value
  | .error error => Message.errorReply call error

def refusalReply (call : Header) (error : Error) : Message :=
  (Message.errorReply call error).stamp busName

def busMembers : List String :=
  ["Hello", "GetId", "Ping", "RequestName", "ReleaseName", "ListNames", "Announce",
    "GetManifest", "ListPeers", "GetAttestation", "GetNameOwner", "AddMatch",
    "RemoveMatch", "ResolveCallTarget", "ListModules", "GetModule",
    "GetModuleManifest", "LoadModule", "LoadGithubModule", "ReinitializeModule",
    "StopModule", "EnableModule", "RescanModules"]

/-- One signal of the bus itself, to every peer that matches it. -/
def broadcast (router : Router) (signal : Message) : List (Outbox × Message) :=
  (router.broadcastTargets signal).map (fun target => (target, signal))

/-- A change from a name to itself is not announced. -/
def announcements (router : Router) (changes : List NameChange) :
    List (Outbox × Message) :=
  (changes.filter (fun change => change.oldOwner != change.newOwner)).flatMap
    (fun change => broadcast router (announcement change))

def moduleAnnouncements (router : Router) (states : List Value) :
    List (Outbox × Message) :=
  states.flatMap (fun body =>
    broadcast router (busSignal ⟨"ModuleStateChanged", by rfl⟩ body))

/-- What handling one message leaves, sends and returns; `executed` is the
member of the bus that ran for it. -/
structure Handled (Host : Type) where
  broker : Broker Host
  sends : List (Outbox × Message)
  executed : Option MemberName
  outcome : Except Error Unit

def executedMember (broker : Broker Host) (source : PeerId) (sourceName : BusName)
    (member : MemberName) : Option MemberName :=
  if broker.router.isAttached source sourceName && busMembers.contains member.text then
    some member
  else none

/-- Answer a message addressed at the bus, and announce what it changed.  The
announcements are lost where the caller is gone by the time of the answer. -/
def handleBusCall (control : ModuleControl Host) (broker : Broker Host)
    (source : PeerId) (sourceName : BusName) (message : Message) : Handled Host :=
  match message.header.member with
  | none => ⟨broker, [], none, .error (.protocol "bus call has no member")⟩
  | some member =>
      let reply := busMethod control broker source sourceName member message.body
      let executed := executedMember broker source sourceName member
      match reply.broker.router.resolve sourceName with
      | .error error => ⟨reply.broker, [], executed, .error error⟩
      | .ok outbox =>
          ⟨reply.broker,
            (outbox, busReplyMessage message.header reply.result) ::
              (announcements reply.broker.router reply.changes ++
                moduleAnnouncements reply.broker.router reply.moduleStates),
            executed, .ok ()⟩

def handle (control : ModuleControl Host) (broker : Broker Host) (source : PeerId)
    (sourceName : BusName) (message : Message) : Handled Host :=
  match route broker.router (broker.unavailable control) source sourceName message with
  | .error error => ⟨broker, [], none, .error error⟩
  | .ok (.fanOut targets signal) =>
      ⟨broker, targets.map (fun target => (target, signal)), none, .ok ()⟩
  | .ok (.notify target signal) => ⟨broker, [(target, signal)], none, .ok ()⟩
  | .ok (.deliver target forwarded) => ⟨broker, [(target, forwarded)], none, .ok ()⟩
  | .ok (.bus stamped) => handleBusCall control broker source sourceName stamped

end Broker

end TinyBus
