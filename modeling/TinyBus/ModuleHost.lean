/-
The records of the module host: the loaded modules with what the host reads of
their transports, and the manifests it refused.  The host answers for a name
from the first record that declares it.
-/

import TinyBus.ModuleInfo

namespace TinyBus

structure TransportView where
  initFailed : Bool
  faulted : Bool
  ready : Bool
  initStarted : Bool
  inflight : Nat
  lifecyclePending : Bool
  stopSpawned : Bool
  deriving DecidableEq

/-- `descriptor` is the compiler version a lazily loaded library reported, and
whether it differs from the host's. -/
structure LoadedModule where
  info : ModuleInfo
  transport : TransportView
  uniqueName : BusName
  descriptor : Option (String × Bool)
  transitionFrom : Option ModuleState
  lifecycleBusy : Bool
  deriving DecidableEq

structure ModuleHost where
  loaded : List LoadedModule
  rejected : List ModuleInfo

namespace ModuleState

def unavailable : ModuleState → Bool
  | .rejected _ => true
  | .faulted _ => true
  | .failed _ => true
  | .stopped => true
  | .disabled => true
  | _ => false

def terminal : ModuleState → Bool
  | .stopped => true
  | .faulted _ => true
  | .failed _ => true
  | _ => false

def final : ModuleState → Bool
  | .stopped => true
  | .disabled => true
  | _ => false

end ModuleState

def initializationFailed : ModuleState := .failed "module initialization failed"

def unrecoverableFault : ModuleState := .faulted "module reported an unrecoverable fault"

namespace LoadedModule

def busName (module : LoadedModule) : BusName := module.info.manifest.busName

def observedState (state : ModuleState) (transport : TransportView) : ModuleState :=
  if transport.initFailed && !state.final then initializationFailed
  else if transport.faulted && !state.final then unrecoverableFault
  else if (transport.ready && (state = .resolved || state = .initializing)) ||
      (state = .ready || state = .serving) then
    if transport.inflight = 0 then .ready else .serving
  else if transport.initStarted && state = .resolved then .initializing
  else state

def snapshot (module : LoadedModule) : ModuleInfo :=
  { module.info with
    rustcVersion := (module.descriptor.map Prod.fst).getD module.info.rustcVersion
    rustcMismatch := (module.descriptor.map Prod.snd).getD module.info.rustcMismatch
    state := observedState module.info.state module.transport }

def declares (name : BusName) (module : LoadedModule) : Bool := module.busName = name

def refuses (module : LoadedModule) : Bool := module.snapshot.state.unavailable

end LoadedModule

inductive RefusalClass where
  | rejected
  | unresolved
  | failed
  deriving DecidableEq

def RefusalClass.state (reason : String) : RefusalClass → ModuleState
  | .rejected => .rejected reason
  | .unresolved => .unresolved reason
  | .failed => .failed reason

def sanitizeUntrusted (value : String) : String :=
  String.ofList ((value.toList.filter (fun c =>
    c.isAlphanum || c == '.' || c == '_' || c == '+' || c == '-')).take 32)

/-- How the native stop of a module ended. -/
inductive StopOutcome where
  | stopped
  | notStarted (error : Error)
  | started (error : Error)

inductive Selector where
  | named (name : String)
  | peer (unique : BusName)
  deriving DecidableEq

def Selector.selects : Selector → LoadedModule → Bool
  | .named name, module => module.info.name = name
  | .peer unique, module => module.uniqueName = unique

def updateFirst (test : LoadedModule → Bool) (update : LoadedModule → LoadedModule) :
    List LoadedModule → List LoadedModule
  | [] => []
  | head :: rest =>
      if test head then update head :: rest else head :: updateFirst test update rest

namespace ModuleHost

def empty : ModuleHost := { loaded := [], rejected := [] }

def update (host : ModuleHost) (selector : Selector)
    (change : LoadedModule → LoadedModule) : ModuleHost :=
  { host with loaded := updateFirst selector.selects change host.loaded }

def select (host : ModuleHost) (selector : Selector) : Option LoadedModule :=
  host.loaded.find? selector.selects

/-- The loaded record and the refused manifest that a name is looked up in. -/
def loadedFor (host : ModuleHost) (name : BusName) : Option LoadedModule :=
  host.loaded.find? (fun module =>
    if name.isUnique then module.uniqueName = name else module.declares name)

def rejectedFor (host : ModuleHost) (name : BusName) : Option ModuleInfo :=
  host.rejected.find? (fun info => info.manifest.busName = name)

def refusalOf (info : ModuleInfo) : Option Error :=
  if info.state.unavailable then
    some (.moduleUnavailable info.name (stateName info.state)
      ((stateDetail info.state).getD "module is not accepting calls"))
  else none

def unavailableFor (host : ModuleHost) (name : BusName) : Option Error :=
  match host.loadedFor name with
  | some module => refusalOf module.snapshot
  | none => (host.rejectedFor name).bind refusalOf

def recordRejected (host : ModuleHost) (info : ModuleInfo) : ModuleHost :=
  { host with
    rejected :=
      if host.rejected.any (fun known => known.file = info.file) then
        replaceFirst info host.rejected
      else host.rejected ++ [info] }
where
  replaceFirst (info : ModuleInfo) : List ModuleInfo → List ModuleInfo
    | [] => []
    | known :: rest =>
        if known.file = info.file then info :: rest else known :: replaceFirst info rest

def recordManifestRejection (host : ModuleHost) (error : Error)
    (manifest : ModuleManifest) (refusal : RefusalClass) : ModuleHost :=
  match error with
  | .moduleRefused file reason =>
      host.recordRejected
        { name := sanitizeUntrusted manifest.module.name,
          version := sanitizeUntrusted manifest.module.version.text, file := file,
          state := refusal.state reason, manifest := manifest, rustcVersion := "",
          rustcMismatch := false, enabled := false }
  | _ => host

def manifestSchema : UInt32 := 1

def speechName : BusName := ⟨"ai.tinyhumans.openhuman.Speech", by rfl⟩

def rejectionInfo (file reason : String) : ModuleInfo :=
  { name := file, version := "", file := file, state := .rejected reason,
    manifest :=
      { schema := manifestSchema,
        module := ⟨file, ⟨0, 0, 0, none⟩, "", none, ""⟩,
        busName := ⟨"ai.tinyhumans.module.Rejected", by rfl⟩,
        objectPath := ⟨"/ai/tinyhumans/module/Rejected", by rfl⟩,
        provides := [], requires := [], environment := [], capabilities := [],
        lazyInit := false, workerThreads := 1, onPanic := .detach },
    rustcVersion := "", rustcMismatch := false, enabled := false }

/-- A file refused before its manifest was read keeps the record it has. -/
def recordRejection (host : ModuleHost) (error : Error) : ModuleHost :=
  match error with
  | .moduleRefused file reason =>
      if host.rejected.any (fun known => known.file = file) then host
      else { host with rejected := host.rejected ++ [rejectionInfo file reason] }
  | _ => host

@[simp] theorem recordManifestRejection_loaded (host : ModuleHost) (error : Error)
    (manifest : ModuleManifest) (refusal : RefusalClass) :
    (host.recordManifestRejection error manifest refusal).loaded = host.loaded := by
  cases error <;> rfl

@[simp] theorem recordRejection_loaded (host : ModuleHost) (error : Error) :
    (host.recordRejection error).loaded = host.loaded := by
  cases error
  case moduleRefused file reason =>
    unfold recordRejection
    dsimp only
    split <;> rfl
  all_goals rfl

/-- The record of an admitted module whose peer is staged. -/
def published (info : ModuleInfo) (unique : BusName) (transport : TransportView) :
    LoadedModule :=
  { info := info, transport := transport, uniqueName := unique, descriptor := none,
    transitionFrom := none, lifecycleBusy := false }

def publish (host : ModuleHost) (info : ModuleInfo) (unique : BusName)
    (transport : TransportView) : ModuleHost :=
  { host with loaded := host.loaded ++ [published info unique transport] }

def unpublish (host : ModuleHost) (unique : BusName) : ModuleHost :=
  { host with loaded := host.loaded.eraseP (fun module => module.uniqueName = unique) }

end ModuleHost

namespace LoadedModule

/-- The part of a stop that precedes the native one. -/
def beginStop (module : LoadedModule) : Except Error Unit × LoadedModule :=
  let old := module.snapshot.state
  if module.lifecycleBusy then
    (.error (.failed "module lifecycle operation is already running"), module)
  else if old.terminal then
    (.error (.moduleUnavailable module.info.name (stateName old)
      ((stateDetail old).getD "module is terminal")), module)
  else
    (.ok (), { module with
      transitionFrom := some (module.transitionFrom.getD old), lifecycleBusy := true })

/-- The part of a stop that follows the native one. -/
def finishStop (outcome : StopOutcome) (module : LoadedModule) :
    Except Error ModuleInfo × LoadedModule :=
  match outcome with
  | .started error => (.error error, module)
  | .notStarted error =>
      (.error error,
        if module.transport.stopSpawned then module
        else { module with transitionFrom := none })
  | .stopped =>
      let state : ModuleState :=
        if module.transport.faulted then
          if module.transport.initFailed then initializationFailed else unrecoverableFault
        else .stopped
      let info : ModuleInfo := { module.info with state := state }
      (.ok info, { module with info := info })

/-- The end of a lifecycle operation, with the abandoned transition cleared. -/
def endLifecycle (ofStop : Bool) (module : LoadedModule) : LoadedModule :=
  { module with
    lifecycleBusy := false
    transitionFrom :=
      if ofStop && !module.transport.stopSpawned then none else module.transitionFrom }

def enable (enabled : Bool) (module : LoadedModule) :
    Except Error (ModuleInfo × Option ModuleTransition) × LoadedModule :=
  let old := module.snapshot.state
  if module.lifecycleBusy || module.transport.lifecyclePending then
    (.error (.failed "module lifecycle operation is already running"), module)
  else if old.terminal then
    (.error (.moduleUnavailable module.info.name (stateName old)
      ((stateDetail old).getD "module is terminal")), module)
  else
    let state : ModuleState :=
      if enabled then if module.transport.ready then .ready else .resolved
      else .disabled
    let after : LoadedModule :=
      { module with info := { module.info with enabled := enabled, state := state } }
    let info := after.snapshot
    (.ok (info, if old = info.state then none else some (info.name, old, info.state)), after)

def stateBeforeFault (module : LoadedModule) : ModuleState :=
  if module.transport.ready then
    if module.transport.inflight = 0 then .ready else .serving
  else if module.transport.initStarted && module.info.state = .resolved then .initializing
  else module.info.state

/-- The module's peer is gone: a stop under way is done, a fault is recorded. -/
def peerDetached (module : LoadedModule) : Option ModuleTransition × LoadedModule :=
  if module.transport.faulted then
    if module.info.state.final then (none, module)
    else
      let state := if module.transport.initFailed then initializationFailed
        else unrecoverableFault
      (some (module.info.name, module.stateBeforeFault, state),
        { module with info := { module.info with state := state } })
  else
    match module.transitionFrom with
    | some old =>
        (some (module.info.name, old, .stopped),
          { module with
            transitionFrom := none, info := { module.info with state := .stopped } })
    | none => (none, module)

end LoadedModule

inductive ModuleMove where
  | transport (view : TransportView)
  | describe (rustcVersion : String) (rustcMismatch : Bool)
  | beginStop
  | finishStop (outcome : StopOutcome)
  | endLifecycle (ofStop : Bool)
  | enable (enabled : Bool)
  | peerDetached

def LoadedModule.move (module : LoadedModule) : ModuleMove → LoadedModule
  | .transport view => { module with transport := view }
  | .describe rustcVersion rustcMismatch =>
      { module with descriptor := some (rustcVersion, rustcMismatch) }
  | .beginStop => module.beginStop.2
  | .finishStop outcome => (module.finishStop outcome).2
  | .endLifecycle ofStop => module.endLifecycle ofStop
  | .enable enabled => (module.enable enabled).2
  | .peerDetached => module.peerDetached.2

end TinyBus
