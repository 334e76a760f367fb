/-
What the module host publishes about one module: its lifecycle state and its
manifest, with their wire form.
-/

import TinyBus.Version

namespace TinyBus

inductive ModuleState where
  | discovered
  | rejected (reason : String)
  | unresolved (reason : String)
  | resolved
  | initializing
  | ready
  | serving
  | faulted (reason : String)
  | failed (reason : String)
  | stopped
  | disabled
  deriving DecidableEq

def stateName : ModuleState → String
  | .discovered => "discovered"
  | .rejected _ => "rejected"
  | .unresolved _ => "unresolved"
  | .resolved => "resolved"
  | .initializing => "initializing"
  | .ready => "ready"
  | .serving => "serving"
  | .faulted _ => "faulted"
  | .failed _ => "failed"
  | .stopped => "stopped"
  | .disabled => "disabled"

def stateDetail : ModuleState → Option String
  | .rejected reason => some reason
  | .unresolved reason => some reason
  | .faulted reason => some reason
  | .failed reason => some reason
  | _ => none

structure ModuleIdentity where
  name : String
  version : Version
  description : String
  homepage : Option String
  license : String
  deriving DecidableEq

structure ProvidedInterface where
  version : InterfaceVersion
  methods : List MemberName
  signals : List MemberName
  deriving DecidableEq

structure Dependency where
  interface : InterfaceVersion
  optional : Bool
  reason : String
  deriving DecidableEq

structure EnvSpec where
  name : String
  required : Bool
  description : String
  deriving DecidableEq

structure Capability where
  name : String
  description : String
  deriving DecidableEq

inductive PanicPolicy where
  | detach
  | reply
  deriving DecidableEq

/-- A module's declared bus surface and load behavior. -/
structure ModuleManifest where
  schema : UInt32
  module : ModuleIdentity
  busName : BusName
  objectPath : ObjectPath
  provides : List ProvidedInterface
  requires : List Dependency
  environment : List EnvSpec
  capabilities : List Capability
  lazyInit : Bool
  workerThreads : UInt32
  onPanic : PanicPolicy
  deriving DecidableEq

structure ModuleInfo where
  name : String
  version : String
  file : String
  state : ModuleState
  manifest : ModuleManifest
  rustcVersion : String
  rustcMismatch : Bool
  enabled : Bool
  deriving DecidableEq

abbrev ModuleTransition := String × ModuleState × ModuleState

def nonEmptyString (text : String) : Option Value :=
  if text.isEmpty then none else some (.string text)

def optionToValue (text : Option String) : Value :=
  match text with
  | some text => .string text
  | none => .null

def membersToValue (members : List MemberName) : Value :=
  .array (members.map (fun member => .string member.text))

def u32ToValue (value : UInt32) : Value := .number (.posInt value.toUInt64)

def ModuleIdentity.toValue (identity : ModuleIdentity) : Value :=
  .object (present
    [("description", nonEmptyString identity.description),
      ("homepage", identity.homepage.map Value.string),
      ("license", nonEmptyString identity.license),
      ("name", some (.string identity.name)),
      ("version", some (.string identity.version.text))])

def ProvidedInterface.toValue (provided : ProvidedInterface) : Value :=
  .object
    [("accepts", .string provided.version.accepts.text),
      ("interface", .string provided.version.interface.text),
      ("methods", membersToValue provided.methods),
      ("signals", membersToValue provided.signals),
      ("speaks", .string provided.version.speaks.text)]

def Dependency.toValue (dependency : Dependency) : Value :=
  .object (present
    [("interface", some dependency.interface.toValue),
      ("optional", some (.bool dependency.optional)),
      ("reason", nonEmptyString dependency.reason)])

def EnvSpec.toValue (spec : EnvSpec) : Value :=
  .object (present
    [("description", nonEmptyString spec.description),
      ("name", some (.string spec.name)),
      ("required", some (.bool spec.required))])

def Capability.toValue (capability : Capability) : Value :=
  .object (present
    [("description", nonEmptyString capability.description),
      ("name", some (.string capability.name))])

def PanicPolicy.toValue : PanicPolicy → Value
  | .detach => .string "detach"
  | .reply => .string "reply"

def ModuleManifest.toValue (manifest : ModuleManifest) : Value :=
  .object
    [("bus_name", manifest.busName.toValue),
      ("capabilities", .array (manifest.capabilities.map Capability.toValue)),
      ("environment", .array (manifest.environment.map EnvSpec.toValue)),
      ("lazy_init", .bool manifest.lazyInit),
      ("module", manifest.module.toValue),
      ("object_path", .string manifest.objectPath.text),
      ("on_panic", manifest.onPanic.toValue),
      ("provides", .array (manifest.provides.map ProvidedInterface.toValue)),
      ("requires", .array (manifest.requires.map Dependency.toValue)),
      ("tinybus_manifest", u32ToValue manifest.schema),
      ("worker_threads", u32ToValue manifest.workerThreads)]

def ModuleInfo.toValue (info : ModuleInfo) : Value :=
  .object (present
    [("detail", (stateDetail info.state).map
        (fun reason => .object [("reason", .string reason)])),
      ("enabled", some (.bool info.enabled)),
      ("file", some (.string info.file)),
      ("manifest", some info.manifest.toValue),
      ("name", some (.string info.name)),
      ("rustc_mismatch", some (.bool info.rustcMismatch)),
      ("rustc_version", some (.string info.rustcVersion)),
      ("state", some (.string (stateName info.state))),
      ("version", some (.string info.version))])

/-- The body of a `ModuleStateChanged` announcement. -/
def moduleStateBody : ModuleTransition → Value
  | (module, old, new) =>
      .array [.string module, .string (stateName old), .string (stateName new),
        optionToValue (stateDetail new)]

end TinyBus
