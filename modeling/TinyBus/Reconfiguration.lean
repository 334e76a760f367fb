import TinyBus.Library.Tasks

/-
Configuration-sensitive access to one module.  Callers take turns under the
transition lock; `invalidate` takes no turn.  A caller compares the remembered
fingerprint, reconfigures the module where it differs and then asks for a proxy.

What was acknowledged, invalidated and handed out is kept beside the state of
the code, for what is to be said of it.
-/

namespace TinyBus

open TransitionSystem

/-- How a configuration change is delivered. -/
inductive Reconfigure where
  | lifecycle
  | member (name : String)

inductive ModuleCallError where
  | unavailable
  | incompatibleContract
  | transportFailed
  | moduleFault
  deriving DecidableEq

inductive Reason where
  | unknownModule
  | disabled
  | resolutionFailed
  | incompatibleContract
  | transportFailed
  | moduleFault
  | moduleUnavailable
  deriving DecidableEq

inductive ReconfigureFailure where
  | initializing
  | unavailable
  | failed
  | unsupported
  deriving DecidableEq

inductive ProxyFailure where
  | transport
  | contract
  deriving DecidableEq

/-- The settings of a coordinator; `retryAttempts` is never zero. -/
structure ReconfigureSettings where
  strategy : Reconfigure
  retryAttempts : Nat
  retryDelayed : Bool
  markFaulted : Bool

/-- A proxy that was handed out, with what was known of the module then. -/
structure Handover (Config : Type) where
  config : Config
  acknowledged : Option Config
  invalidated : Bool
  unsettled : Bool

/-- The state that the callers share.  The last fields are a history: the last
acknowledged configuration, whether the module was invalidated since that
acknowledgement began, or since the last call to the module began, and whether a
call failed or was abandoned after the last acknowledgement. -/
structure ReconfigurableModule (Config Fingerprint : Type) where
  transition : Option Nat
  fingerprint : Option Fingerprint
  memberUncertain : Bool
  markedFaulted : Bool
  acknowledged : Option Config
  invalidated : Bool
  interrupted : Bool
  unsettled : Bool
  handed : List (Handover Config)

/-- Where a caller is: `turn` waits for the lock and `held` has it between two
requests; from `ensuring` on a request for a proxy is under way, each phase at one
of its waits. -/
inductive ProxyPhase (Config : Type) where
  | turn
  | held
  | ensuring (config : Config)
  | reinit (config : Config) (attempt : Nat)
  | memberEnsuring (config : Config) (attempt : Nat)
  | memberProxying (config : Config) (attempt : Nat)
  | memberCalling (config : Config) (attempt : Nat)
  | sleeping (config : Config) (attempt : Nat)
  | proxying (config : Config)
  | gone

/-- A caller of `proxy` asks for the configuration it was called with; one of
`exclusive` for as many as it likes.  `result` is the answer to its last request. -/
structure ProxyCaller (Config : Type) where
  config : Option Config
  phase : ProxyPhase Config
  result : Option (Except (ModuleCallError × Reason) Unit)

/-- What a caller's wait comes to.  A request or a whole caller may be dropped
wherever it waits. -/
inductive ProxyChoice (Config : Type) where
  | lock
  | request (config : Config) (known enabled : Bool)
  | ensured (loaded encoded known enabled : Bool)
  | memberReady (loaded : Bool)
  | memberProxied (outcome : Except ProxyFailure Unit)
  | answered (outcome : Except ReconfigureFailure Unit) (known enabled : Bool)
  | slept (known enabled : Bool)
  | proxied (outcome : Except ProxyFailure Unit)
  | dropRequest
  | drop

/-- `proxy(config)` or `exclusive()`. -/
inductive ProxyCall (Config : Type) where
  | proxy (config : Config)
  | exclusive

def reasonFor : ModuleCallError → Reason
  | .unavailable => .moduleUnavailable
  | .incompatibleContract => .incompatibleContract
  | .transportFailed => .transportFailed
  | .moduleFault => .moduleFault

namespace ReconfigurableModule

variable {Config Fingerprint : Type}

def new : ReconfigurableModule Config Fingerprint :=
  { transition := none, fingerprint := none, memberUncertain := false, markedFaulted := false,
    acknowledged := none, invalidated := false, interrupted := false, unsettled := false,
    handed := [] }

def recordLoadedWith (module : ReconfigurableModule Config Fingerprint)
    (fingerprint : Fingerprint) (config : Config) : ReconfigurableModule Config Fingerprint :=
  { module with fingerprint := some fingerprint, acknowledged := some config }

def invalidate (module : ReconfigurableModule Config Fingerprint) :
    ReconfigurableModule Config Fingerprint :=
  { module with fingerprint := none, invalidated := true, interrupted := true }

def begun (module : ReconfigurableModule Config Fingerprint) :
    ReconfigurableModule Config Fingerprint :=
  { module with interrupted := false }

def acknowledge (module : ReconfigurableModule Config Fingerprint) (config : Config)
    (fingerprint : Option Fingerprint) : ReconfigurableModule Config Fingerprint :=
  { module with
    fingerprint := fingerprint, acknowledged := some config,
    invalidated := module.interrupted, unsettled := false }

def release (module : ReconfigurableModule Config Fingerprint) :
    ReconfigurableModule Config Fingerprint :=
  { module with transition := none }

def handOver (module : ReconfigurableModule Config Fingerprint) (config : Config) :
    ReconfigurableModule Config Fingerprint :=
  { module with
    handed := module.handed ++
      [⟨config, module.acknowledged, module.invalidated, module.unsettled⟩] }

end ReconfigurableModule

namespace ProxyCaller

variable {Config Fingerprint : Type}

abbrev Shared (Config Fingerprint : Type) := ReconfigurableModule Config Fingerprint

def start : ProxyCall Config → ProxyCaller Config
  | .proxy config => { config := some config, phase := .turn, result := none }
  | .exclusive => { config := none, phase := .turn, result := none }

def goTo (caller : ProxyCaller Config) (phase : ProxyPhase Config) : ProxyCaller Config :=
  { caller with phase := phase }

/-- A request is answered: `proxy` releases the lock, a guard keeps it. -/
def finish (shared : Shared Config Fingerprint) (caller : ProxyCaller Config)
    (result : Except (ModuleCallError × Reason) Unit) :
    Shared Config Fingerprint × ProxyCaller Config :=
  match caller.config with
  | some _ => (shared.release, { caller with phase := .gone, result := some result })
  | none => (shared, { caller with phase := .held, result := some result })

/-- The first part of `proxy_locked`, up to the wait for the load. -/
def proxyLocked (shared : Shared Config Fingerprint) (caller : ProxyCaller Config) (config : Config)
    (known enabled : Bool) : Shared Config Fingerprint × ProxyCaller Config :=
  if shared.memberUncertain then
    finish shared caller (.error (.unavailable, .moduleUnavailable))
  else if !known then finish shared caller (.error (.unavailable, .unknownModule))
  else if !enabled then finish shared caller (.error (.unavailable, .disabled))
  else (shared, caller.goTo (.ensuring config))

/-- What `reconfigure` makes of its last failure. -/
def giveUp (settings : ReconfigureSettings) (shared : Shared Config Fingerprint)
    (caller : ProxyCaller Config) (failure : ReconfigureFailure) (reported : Option Reason) :
    Shared Config Fingerprint × ProxyCaller Config :=
  let down := failure = .unavailable ∨ failure = .initializing
  let error : ModuleCallError := if down then .unavailable else .moduleFault
  finish
    (if down ∧ settings.markFaulted = true then { shared with markedFaulted := true } else shared)
    caller (.error (error, reported.getD (reasonFor error)))

/-- One attempt begins: the call of the lifecycle is sent at once, the call of a
member after a look at the module. -/
def attempt (settings : ReconfigureSettings) (shared : Shared Config Fingerprint)
    (caller : ProxyCaller Config) (config : Config) (number : Nat) (known enabled : Bool) :
    Shared Config Fingerprint × ProxyCaller Config :=
  match settings.strategy with
  | .lifecycle => (shared.begun, caller.goTo (.reinit config number))
  | .member _ =>
      if !known || !enabled then giveUp settings shared caller .unavailable none
      else (shared, caller.goTo (.memberEnsuring config number))

/-- `proxy_locked` once the module is loaded: an equal fingerprint goes straight to
the proxy, another one is cleared before the operation. -/
def compare [DecidableEq Fingerprint] (settings : ReconfigureSettings)
    (of : Config → Option Fingerprint) (shared : Shared Config Fingerprint)
    (caller : ProxyCaller Config) (config : Config) (encoded known enabled : Bool) :
    Shared Config Fingerprint × ProxyCaller Config :=
  match of config with
  | none => finish shared caller (.error (.moduleFault, .moduleFault))
  | some fingerprint =>
      if shared.fingerprint = some fingerprint then (shared, caller.goTo (.proxying config))
      else
        let cleared := { shared with fingerprint := none }
        if !encoded then finish cleared caller (.error (.moduleFault, .moduleFault))
        else attempt settings cleared caller config 0 known enabled

/-- The answer to a call that reconfigures the module. -/
def answered (settings : ReconfigureSettings) (of : Config → Option Fingerprint)
    (shared : Shared Config Fingerprint) (caller : ProxyCaller Config) (config : Config)
    (number : Nat) (outcome : Except ReconfigureFailure Unit) (known enabled : Bool) :
    Shared Config Fingerprint × ProxyCaller Config :=
  match outcome with
  | .ok () => (shared.acknowledge config (of config), caller.goTo (.proxying config))
  | .error failure =>
      let failed := { shared with unsettled := true }
      if failure = .initializing ∧ number + 1 < settings.retryAttempts then
        if settings.retryDelayed then (failed, caller.goTo (.sleeping config (number + 1)))
        else attempt settings failed caller config (number + 1) known enabled
      else giveUp settings failed caller failure none

def fenced (shared : Shared Config Fingerprint) :
    Except ReconfigureFailure Unit → Shared Config Fingerprint
  | .ok () => { shared with memberUncertain := false }
  | .error _ => shared

def proxyError : ProxyFailure → ModuleCallError × Reason
  | .transport => (.transportFailed, .transportFailed)
  | .contract => (.incompatibleContract, .incompatibleContract)

/-- A caller or a request that is dropped: a call under way may still reach the
module.  A guard outlives the requests made through it. -/
def dropped (shared : Shared Config Fingerprint) (phase : ProxyPhase Config) :
    Shared Config Fingerprint :=
  match phase with
  | .reinit _ _ => { shared with unsettled := true }
  | .memberCalling _ _ => { shared with unsettled := true }
  | _ => shared

def hasLock : ProxyPhase Config → Bool
  | .turn => false
  | .gone => false
  | _ => true

def step [DecidableEq Fingerprint] (settings : ReconfigureSettings)
    (of : Config → Option Fingerprint) (id : Nat) (choice : ProxyChoice Config)
    (shared : Shared Config Fingerprint) (caller : ProxyCaller Config) :
    Option (Shared Config Fingerprint × ProxyCaller Config) :=
  match caller.phase, choice with
  | .turn, .lock =>
      if shared.transition = none then
        some ({ shared with transition := some id }, caller.goTo .held)
      else none
  | .held, .request config known enabled =>
      some (proxyLocked shared caller (caller.config.getD config) known enabled)
  | .ensuring config, .ensured loaded encoded known enabled =>
      if loaded then some (compare settings of shared caller config encoded known enabled)
      else some (finish shared caller (.error (.unavailable, .resolutionFailed)))
  | .memberEnsuring config number, .memberReady loaded =>
      if loaded then some (shared, caller.goTo (.memberProxying config number))
      else some (giveUp settings shared caller .unavailable (some .resolutionFailed))
  | .memberProxying config number, .memberProxied outcome =>
      match outcome with
      | .ok () =>
          some ({ shared.begun with memberUncertain := true },
            caller.goTo (.memberCalling config number))
      | .error _ => some (giveUp settings shared caller .failed none)
  | .reinit config number, .answered outcome known enabled =>
      some (answered settings of shared caller config number outcome known enabled)
  | .memberCalling config number, .answered outcome known enabled =>
      some (answered settings of (fenced shared outcome) caller config number outcome known
        enabled)
  | .sleeping config number, .slept known enabled =>
      some (attempt settings shared caller config number known enabled)
  | .proxying config, .proxied outcome =>
      match outcome with
      | .ok () => some (finish (shared.handOver config) caller (.ok ()))
      | .error failure => some (finish shared caller (.error (proxyError failure)))
  | phase, .dropRequest =>
      if hasLock phase ∧ caller.config.isNone then
        some (dropped shared phase, caller.goTo .held)
      else none
  | phase, .drop =>
      some (if hasLock phase then (dropped shared phase).release else shared,
        caller.goTo .gone)
  | _, _ => none

end ProxyCaller

namespace ReconfigurableModule

variable {Config Fingerprint : Type}

abbrev State (Config Fingerprint : Type) :=
  Tasks (ReconfigurableModule Config Fingerprint) (ProxyCaller Config)

/-- The surroundings invalidate the module whenever they like. -/
abbrev Event (Config : Type) := Tasks.Event (ProxyCall Config) (ProxyChoice Config) Unit

variable [DecidableEq Fingerprint]

def kind (settings : ReconfigureSettings) (of : Config → Option Fingerprint) :
    Tasks.Kind (ReconfigurableModule Config Fingerprint) (ProxyCaller Config) (ProxyCall Config)
      (ProxyChoice Config) Unit where
  start := ProxyCaller.start
  step := ProxyCaller.step settings of
  outside := fun _ state => state.shared.invalidate

def Initial (of : Config → Option Fingerprint)
    (module : ReconfigurableModule Config Fingerprint) : Prop :=
  module = new ∨ ∃ config fingerprint, of config = some fingerprint ∧
    module = new.recordLoadedWith fingerprint config

def system (settings : ReconfigureSettings) (of : Config → Option Fingerprint) :
    System (State Config Fingerprint) (Event Config) :=
  Tasks.system (kind settings of) (Initial of)

end ReconfigurableModule

end TinyBus
