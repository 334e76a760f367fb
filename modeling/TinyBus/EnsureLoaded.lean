/-
The resolver's question whether a registered module is loaded and serving.  It is
asked once more of the records whenever the table says that the module was found:
a record of the module's bus name that has failed answers for it, whichever
artifact it is the record of.
-/

import Mathlib.Data.List.Infix
import TinyBus.Loading
import TinyBus.Resolution

namespace TinyBus

/-- What the registry pins for one module. -/
structure ReleaseRecord where
  id : String
  busName : String
  objectPath : String
  deriving DecidableEq

inductive LoadError where
  | failed (reason : String)
  | disabled (label : String)
  deriving DecidableEq

structure Resolver where
  enabled : Bool
  gate : String → Option String
  records : List ReleaseRecord
  terminalMarker : String

def containsText (text part : String) : Bool := decide (part.toList <:+: text.toList)

namespace ModuleState

/-- From resolved to serving. -/
def live : ModuleState → Bool
  | .resolved => true
  | .initializing => true
  | .ready => true
  | .serving => true
  | _ => false

def broken : ModuleState → Bool
  | .faulted _ => true
  | .failed _ => true
  | _ => false

end ModuleState

def ModuleInfo.named (info : ModuleInfo) (record : ReleaseRecord) : Bool :=
  info.manifest.busName.text = record.busName

def isLiveMatch (info : ModuleInfo) (record : ReleaseRecord) : Bool :=
  info.enabled && info.named record &&
    decide (info.manifest.objectPath.text = record.objectPath) && info.state.live

def setupDeadlineSecs : Nat := 30

/-- Why a module is not serving, where it is not. -/
def setupOutcome (info : ModuleInfo) (id : String) : Except String Unit :=
  match info.state with
  | .faulted reason => .error ("module '" ++ id ++ "' faulted during setup: " ++ reason)
  | .failed reason => .error ("module '" ++ id ++ "' faulted during setup: " ++ reason)
  | .rejected reason => .error ("module '" ++ id ++ "' was refused: " ++ reason)
  | .unresolved reason => .error ("module '" ++ id ++ "' was refused: " ++ reason)
  | .stopped => .error ("module '" ++ id ++ "' is not running")
  | .disabled => .error ("module '" ++ id ++ "' is not running")
  | .initializing => .error ("module '" ++ id ++ "' did not finish setup within " ++
      toString setupDeadlineSecs ++ " seconds")
  | .discovered => .ok ()
  | .resolved => .ok ()
  | .ready => .ok ()
  | .serving => .ok ()

def recoverAdmission (result : Except String Unit) (modules : List ModuleInfo)
    (record : ReleaseRecord) : Except String Unit :=
  match result with
  | .ok () => .ok ()
  | .error reason =>
      if modules.any (fun info => isLiveMatch info record) then .ok () else .error reason

namespace ModuleHost

/-- The loaded records as they are now, then the refused ones. -/
def list (host : ModuleHost) : List ModuleInfo :=
  host.loaded.map LoadedModule.snapshot ++ host.rejected

def firstNamed (host : ModuleHost) (record : ReleaseRecord) : Option ModuleInfo :=
  (host.loaded.find? (fun module => module.info.named record)).map LoadedModule.snapshot

/-- The record of a bus name once its module is ready, has failed or has had its
time; one that nobody has called yet is not waited for. -/
def settle (settling settled : ModuleHost) (record : ReleaseRecord) : Option ModuleInfo :=
  match settling.firstNamed record with
  | none => none
  | some info => if info.state = .resolved then some info else settled.firstNamed record

end ModuleHost

/-- What a call meets outside the resolver: whether the resolution could be started,
the outcome another caller published, what the rungs that load an artifact come to,
and the records at each look. -/
structure Surroundings where
  started : Except String Unit
  awaited : Resolution
  below : Except String Unit
  first : ModuleHost
  settling : ModuleHost
  settled : ModuleHost
  checked : ModuleHost

/-- How a call ended, what it left in the table and whether it tried to load an
artifact. -/
structure EnsureOutcome where
  result : Except LoadError Unit
  table : ResolutionTable
  tried : Bool

namespace Resolver

def find (resolver : Resolver) (id : String) : Option ReleaseRecord :=
  resolver.records.find? (fun record => record.id = id)

def markTerminal (resolver : Resolver) (error : String) : String :=
  if resolver.terminalMarker.isEmpty || containsText error resolver.terminalMarker then error
  else error ++ ". " ++ resolver.terminalMarker ++ "; restart the app to try again"

def failure (host : ModuleHost) (record : ReleaseRecord) : Option String :=
  host.list.findSome? (fun info =>
    if info.named record && info.state.broken then
      match setupOutcome info record.id with
      | .error reason => some reason
      | .ok () => none
    else none)

def stillServing (resolver : Resolver) (table : ResolutionTable) (host : ModuleHost)
    (record : ReleaseRecord) : Except LoadError Unit × ResolutionTable :=
  match failure host record with
  | none => (.ok (), table)
  | some reason =>
      (.error (.failed (resolver.markTerminal reason)),
        table.markFaulted record.id (resolver.markTerminal reason))

/-- A module that is already there is not loaded again; what the other rungs come to
is forgiven where the module is there in the end. -/
def loadRungs (world : Surroundings) (record : ReleaseRecord) : Except String Unit × Bool :=
  if world.first.list.any (fun info => isLiveMatch info record) then (.ok (), false)
  else (recoverAdmission world.below world.settling.list record, true)

def ladder (world : Surroundings) (record : ReleaseRecord) : Except String Unit × Bool :=
  let (loaded, tried) := loadRungs world record
  (match loaded with
    | .error reason => .error reason
    | .ok () =>
        match ModuleHost.settle world.settling world.settled record with
        | none => .ok ()
        | some info => setupOutcome info record.id,
    tried)

/-- The outcome of a resolution of one's own. -/
def resolution (resolver : Resolver) (world : Surroundings) (record : ReleaseRecord) :
    Resolution × Bool :=
  match world.started with
  | .error reason => (.failed reason, false)
  | .ok () =>
      let (outcome, tried) := ladder world record
      (match outcome with
        | .ok () => .ready
        | .error reason => .failed (resolver.markTerminal reason),
        tried)

def conclude (resolver : Resolver) (table : ResolutionTable) (world : Surroundings)
    (record : ReleaseRecord) (tried : Bool) : Resolution → EnsureOutcome
  | .ready =>
      let (result, after) := resolver.stillServing table world.checked record
      ⟨result, after, tried⟩
  | .failed reason => ⟨.error (.failed reason), table, tried⟩

def ensureLoaded (resolver : Resolver) (table : ResolutionTable) (caller : Nat) (id : String)
    (world : Surroundings) : EnsureOutcome :=
  if resolver.enabled = false then
    ⟨.error (.failed ("module '" ++ id ++
      "' is unavailable: modules are disabled in configuration")), table, false⟩
  else
    match resolver.find id with
    | none => ⟨.error (.failed ("unknown module '" ++ id ++ "'")), table, false⟩
    | some record =>
        match resolver.gate id with
        | some label => ⟨.error (.disabled label), table, false⟩
        | none =>
            match table.claim caller id with
            | (.done resolution, claimed) =>
                resolver.conclude claimed world record false resolution
            | (.wait _, claimed) => resolver.conclude claimed world record false world.awaited
            | (.run channel, claimed) =>
                let (resolution, tried) := resolver.resolution world record
                resolver.conclude (claimed.complete id resolution channel) world record tried
                  resolution

end Resolver

def ModuleHost.Holds (host : ModuleHost) (record : ReleaseRecord) : Prop :=
  ∃ module ∈ host.loaded, isLiveMatch module.snapshot record = true

/-- The module is there at each look of the call. -/
structure Surroundings.Hold (world : Surroundings) (record : ReleaseRecord) : Prop where
  first : world.first.Holds record
  settling : world.settling.Holds record
  settled : world.settled.Holds record
  checked : world.checked.Holds record

/-- The call succeeds, loads nothing, and the second look confirms it. -/
structure Resolver.Finds (resolver : Resolver) (table : ResolutionTable) (caller : Nat)
    (world : Surroundings) (record : ReleaseRecord) : Prop where
  succeeds : (resolver.ensureLoaded table caller record.id world).result = .ok ()
  untried : (resolver.ensureLoaded table caller record.id world).tried = false
  confirmed : (resolver.stillServing table world.checked record).1 = .ok ()

def ModuleHost.Unbroken (host : ModuleHost) (record : ReleaseRecord) : Prop :=
  ∀ info ∈ host.list, info.named record = true → info.state.broken = false

def Surroundings.Settles (world : Surroundings) (record : ReleaseRecord) : Prop :=
  ∀ info, ModuleHost.settle world.settling world.settled record = some info →
    info.state = .discovered ∨ info.state = .resolved ∨ info.state = .ready ∨
      info.state = .serving

/-- The table holds no failure for the module, another caller's resolution does not
end in one, and a resolution of one's own can start and settles. -/
def Surroundings.Resolves (world : Surroundings) (table : ResolutionTable)
    (record : ReleaseRecord) : Prop :=
  match table.slots.lookup record.id with
  | some (.done resolution) => resolution = .ready
  | some (.inFlight _) => world.awaited = .ready
  | none => world.started = .ok () ∧ world.Settles record

/-- The module is switched on, its resolution holds no failure, and none of the
records of its bus name is a broken one. -/
structure Resolver.Clear (resolver : Resolver) (table : ResolutionTable)
    (world : Surroundings) (record : ReleaseRecord) : Prop where
  enabled : resolver.enabled = true
  admitted : resolver.gate record.id = none
  resolves : world.Resolves table record
  unbroken : world.checked.Unbroken record

theorem setupOutcome_ok_iff {info : ModuleInfo} {id : String} :
    setupOutcome info id = .ok () ↔
      info.state = .discovered ∨ info.state = .resolved ∨ info.state = .ready ∨
        info.state = .serving := by
  unfold setupOutcome
  cases info.state <;> simp

theorem setupOutcome_broken {info : ModuleInfo} (id : String)
    (broken : info.state.broken = true) : ∃ reason, setupOutcome info id = .error reason := by
  unfold setupOutcome
  cases state : info.state with
  | faulted reason => exact ⟨_, rfl⟩
  | failed reason => exact ⟨_, rfl⟩
  | _ =>
      rw [state] at broken
      cases broken

namespace Resolver

variable {resolver : Resolver} {table : ResolutionTable} {world : Surroundings}
  {record : ReleaseRecord} {host : ModuleHost}

theorem failure_none_iff : failure host record = none ↔ host.Unbroken record := by
  unfold failure ModuleHost.Unbroken
  rw [List.findSome?_eq_none_iff]
  constructor
  · intro none info listed named
    have quiet := none info listed
    cases broken : info.state.broken with
    | false => rfl
    | true =>
        obtain ⟨reason, fails⟩ := setupOutcome_broken record.id broken
        rw [named, broken, fails] at quiet
        cases quiet
  · intro unbroken info listed
    cases named : info.named record with
    | false => rfl
    | true =>
        rw [unbroken info listed named]
        rfl

theorem stillServing_iff :
    (resolver.stillServing table host record).1 = .ok () ↔ host.Unbroken record := by
  rw [← failure_none_iff]
  unfold stillServing
  cases failure host record with
  | none => simp
  | some reason => simp

theorem conclude_iff {tried : Bool} {resolution : Resolution} :
    (resolver.conclude table world record tried resolution).result = .ok () ↔
      resolution = .ready ∧ world.checked.Unbroken record := by
  cases resolution with
  | ready =>
      unfold conclude
      dsimp only
      rw [stillServing_iff]
      simp
  | failed reason =>
      unfold conclude
      simp

theorem conclude_tried {tried : Bool} {resolution : Resolution} :
    (resolver.conclude table world record tried resolution).tried = tried := by
  cases resolution with
  | ready => rfl
  | failed reason => rfl

theorem loadRungs_of_holds (holds : world.first.Holds record) :
    loadRungs world record = (.ok (), false) := by
  obtain ⟨module, member, live⟩ := holds
  have found : world.first.list.any (fun info => isLiveMatch info record) = true := by
    refine List.any_eq_true.mpr ⟨module.snapshot, ?_, live⟩
    exact List.mem_append_left _ (List.mem_map.mpr ⟨module, member, rfl⟩)
  unfold loadRungs
  rw [if_pos found]

theorem ladder_of_holds (holds : world.first.Holds record) :
    (ladder world record).2 = false ∧
      ((ladder world record).1 = .ok () ↔ world.Settles record) := by
  unfold ladder Surroundings.Settles
  rw [loadRungs_of_holds holds]
  dsimp only
  refine ⟨rfl, ?_⟩
  cases ModuleHost.settle world.settling world.settled record with
  | none => simp
  | some info =>
      dsimp only
      rw [setupOutcome_ok_iff]
      simp

theorem resolution_of_holds (resolver : Resolver) (holds : world.first.Holds record) :
    (resolver.resolution world record).2 = false ∧
      ((resolver.resolution world record).1 = .ready ↔
        world.started = .ok () ∧ world.Settles record) := by
  obtain ⟨untried, settles⟩ := ladder_of_holds holds
  unfold resolution
  cases started : world.started with
  | error reason => simp
  | ok =>
      dsimp only
      refine ⟨untried, ?_⟩
      rw [← settles]
      cases (ladder world record).1 with
      | ok => simp
      | error reason => simp

/-- The call finds a live module exactly where its record is clear. -/
theorem finds_iff_clear {caller : Nat} (registered : resolver.find record.id = some record)
    (hold : world.Hold record) :
    resolver.Finds table caller world record ↔ resolver.Clear table world record := by
  have parts : (resolver.ensureLoaded table caller record.id world).result = .ok () ∧
      (resolver.ensureLoaded table caller record.id world).tried = false ↔
      resolver.enabled = true ∧ resolver.gate record.id = none ∧
        world.Resolves table record ∧ world.checked.Unbroken record := by
    unfold ensureLoaded
    cases enabled : resolver.enabled with
    | false => simp
    | true =>
        rw [if_neg (by simp), registered]
        dsimp only
        cases gated : resolver.gate record.id with
        | some label => simp
        | none =>
            unfold ResolutionTable.claim Surroundings.Resolves
            cases table.slots.lookup record.id with
            | none =>
                obtain ⟨untried, ready⟩ := resolution_of_holds resolver hold.first
                dsimp only
                rw [conclude_iff, conclude_tried, ready, untried]
                simp
            | some slot =>
                cases slot with
                | inFlight channel =>
                    dsimp only
                    rw [conclude_iff, conclude_tried]
                    simp
                | done resolution =>
                    dsimp only
                    rw [conclude_iff, conclude_tried]
                    simp
  constructor
  · rintro ⟨succeeds, untried, _⟩
    obtain ⟨enabled, admitted, resolves, unbroken⟩ := parts.mp ⟨succeeds, untried⟩
    exact ⟨enabled, admitted, resolves, unbroken⟩
  · rintro ⟨enabled, admitted, resolves, unbroken⟩
    obtain ⟨succeeds, untried⟩ := parts.mpr ⟨enabled, admitted, resolves, unbroken⟩
    exact ⟨succeeds, untried, stillServing_iff.mpr unbroken⟩

end Resolver

def voiceRecord : ReleaseRecord :=
  ⟨"voice", ModuleBus.voiceManifest.busName.text, ModuleBus.voiceManifest.objectPath.text⟩

def voiceResolver : Resolver :=
  ⟨true, fun _ => none, [voiceRecord], "This is terminal for the running process"⟩

def readyTransport : TransportView := { ModuleBus.quietTransport with ready := true }

/-- The manifest of another file was refused for what it says. -/
def voiceHost : ModuleHost :=
  (ModuleHost.empty.recordManifestRejection
    (.moduleRefused "libvoice-avx.so" "manifest identity does not match descriptor")
    ModuleBus.voiceManifest .rejected).publish ModuleBus.voiceInfo (BusName.unique 1) readyTransport

def fallbackHost : ModuleHost :=
  (ModuleHost.empty.recordManifestRejection
    (.moduleRefused "libvoice-avx.so" "module initialization failed")
    ModuleBus.voiceManifest .failed).publish ModuleBus.voiceInfo (BusName.unique 1) readyTransport

def settledTable : ResolutionTable :=
  { slots := (∅ : Table String ResolutionSlot).insert "voice" (.done .ready), channels := [] }

def steady (host : ModuleHost) : Surroundings :=
  ⟨.ok (), .ready, .ok (), host, host, host, host⟩

theorem voiceHost_found :
    voiceResolver.Finds settledTable 0 (steady voiceHost) voiceRecord := by
  have holds : voiceHost.Holds voiceRecord := ⟨_, List.mem_singleton_self _, by decide⟩
  apply (Resolver.finds_iff_clear (by decide) ⟨holds, holds, holds, holds⟩).mpr
  refine ⟨rfl, rfl, rfl, ?_⟩
  intro info listed _
  rcases List.mem_append.mp listed with loaded | refused
  · cases List.mem_singleton.mp loaded
    rfl
  · cases List.mem_singleton.mp refused
    rfl

theorem fallbackHost_lost :
    ¬ ∀ (resolver : Resolver) (table : ResolutionTable) (caller : Nat)
      (world : Surroundings) (record : ReleaseRecord), resolver.find record.id = some record →
      world.Hold record → resolver.enabled = true → resolver.gate record.id = none →
        table.slots.lookup record.id = some (.done .ready) →
          resolver.Finds table caller world record := by
  intro always
  have holds : fallbackHost.Holds voiceRecord := ⟨_, List.mem_singleton_self _, by decide⟩
  have found := always voiceResolver settledTable 0 (steady fallbackHost) voiceRecord
    (by decide) ⟨holds, holds, holds, holds⟩ rfl rfl (by decide)
  have unbroken : fallbackHost.Unbroken voiceRecord := Resolver.stillServing_iff.mp found.confirmed
  have quiet := unbroken _ (List.mem_append_right _ (List.mem_singleton_self _)) rfl
  cases quiet

end TinyBus
