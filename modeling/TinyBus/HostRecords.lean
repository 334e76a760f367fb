import TinyBus.Loading

/-
The records of loaded modules over whole histories of a host.  A load adds one
record at the end of the list or none; everything else changes one record in
its place.  A reported end is final, because the operations that would leave it
look at the reported state and the flags of a transport are never taken back.
-/

namespace TinyBus

open TransitionSystem

/-! ### What a load comes to -/

inductive LoadRequest.Refusal (request : LoadRequest) : String → Prop
  | missing (needs : request.admission.ensuresDependencies = true ∧ request.manifest.needed ≠ []) :
      request.Refusal "a required interface has no provider"
  | invalid {reason : String} (validated : request.validated = .error reason) :
      request.Refusal reason
  | uninitialized {reason : String} (initialized : request.initialized = .error reason) :
      request.Refusal reason
  | owned (taken : request.nameFree = false) : request.Refusal "module bus name is already owned"
  | unstarted (stuck : request.starts = false) :
      request.Refusal "module transport could not start"

inductive ModuleHost.Loads (host : ModuleHost) (request : LoadRequest) :
    Except Error ModuleInfo → List LoadedModule → Prop
  | refused {reason : String} (refusal : request.Refusal reason) :
      host.Loads request (.error (request.refused reason)) host.loaded
  | duplicate {info : ModuleInfo} (validated : request.validated = .ok info)
      (known : ∃ module ∈ host.loaded, module.info.name = info.name) :
      host.Loads request (.error (request.refused "module name is already loaded")) host.loaded
  | loaded {info : ModuleInfo} (state : ModuleState) (validated : request.validated = .ok info)
      (unknown : ∀ module ∈ host.loaded, module.info.name ≠ info.name) :
      host.Loads request (.ok { info with state := state })
        (host.loaded ++ [published { info with state := state } request.unique request.transport])

namespace ModuleHost

theorem refuseLoad_loaded (host : ModuleHost) (request : LoadRequest) (recorded : Bool)
    (reason : String) (refusal : RefusalClass) :
    (host.refuseLoad request recorded reason refusal).2.loaded = host.loaded := by
  unfold refuseLoad
  cases recorded
  · rfl
  · simp

variable {host : ModuleHost}

theorem unpublish_publish {info : ModuleInfo} {unique : BusName} {transport : TransportView}
    (fresh : ∀ module ∈ host.loaded, module.uniqueName ≠ unique) :
    ((host.publish info unique transport).unpublish unique).loaded = host.loaded := by
  unfold publish unpublish
  dsimp only
  rw [List.eraseP_append_right]
  · simp [published]
  · intro module member
    simpa using fresh module member

theorem attachTransport_loads {request : LoadRequest} {info : ModuleInfo} (state : ModuleState)
    (validated : request.validated = .ok info)
    (unknown : ∀ module ∈ host.loaded, module.info.name ≠ info.name)
    (fresh : ∀ module ∈ host.loaded, module.uniqueName ≠ request.unique) :
    host.Loads request (host.attachTransport request { info with state := state }).1
      (host.attachTransport request { info with state := state }).2.loaded := by
  unfold attachTransport
  split
  · rename_i taken
    rw [refuseLoad_loaded]
    exact .refused (.owned taken)
  · dsimp only
    split
    · exact .loaded state validated unknown
    · rename_i stuck
      rw [refuseLoad_loaded, unpublish_publish fresh]
      exact .refused (.unstarted (eq_false_of_ne_true stuck))

theorem activate_loads {request : LoadRequest}
    (fresh : ∀ module ∈ host.loaded, module.uniqueName ≠ request.unique) :
    host.Loads request (host.activate request).1.result (host.activate request).2.loaded := by
  unfold activate
  cases validated : request.validated with
  | error reason =>
      dsimp only
      rw [refuseLoad_loaded]
      exact .refused (.invalid validated)
  | ok info =>
      dsimp only
      split
      · rename_i known
        obtain ⟨module, member, same⟩ := List.any_eq_true.mp known
        rw [refuseLoad_loaded]
        exact .duplicate validated ⟨module, member, by simpa using same⟩
      · rename_i unknown
        have others : ∀ module ∈ host.loaded, module.info.name ≠ info.name := by
          intro module member same
          exact unknown (List.any_eq_true.mpr ⟨module, member, by simpa using same⟩)
        split
        · rename_i reason eager initialized
          dsimp only
          rw [refuseLoad_loaded]
          exact .refused (.uninitialized initialized)
        · exact attachTransport_loads _ validated others fresh

theorem load_loads {request : LoadRequest}
    (fresh : ∀ module ∈ host.loaded, module.uniqueName ≠ request.unique) :
    host.Loads request (host.load request).1.result (host.load request).2.loaded := by
  have attempted : host.Loads request (host.attempt request).1.result
      (host.attempt request).2.loaded := by
    unfold attempt
    split
    · rename_i asks
      unfold ensureDependencies
      split
      · rename_i missing
        split at missing
        · rename_i lacks
          cases missing
          have needs : request.manifest.needed ≠ [] := by
            intro none
            rw [none] at lacks
            cases lacks
          split
          · rw [recordManifestRejection_loaded]
            exact .refused (.missing ⟨asks, needs⟩)
          · exact .refused (.missing ⟨asks, needs⟩)
        · cases missing
      · exact activate_loads fresh
    · exact activate_loads fresh
  have same : (host.load request).1 = (host.attempt request).1 ∧
      (host.load request).2.loaded = (host.attempt request).2.loaded := by
    unfold load
    dsimp only
    split
    · exact ⟨rfl, rfl⟩
    · constructor
      · rfl
      · split
        · exact recordRejection_loaded _ _
        · rfl
  rw [same.1, same.2]
  exact attempted

end ModuleHost

/-! ### What happens to one record -/

namespace LoadedModule

/-- A reinitialization reserves the record of a ready module, or of one whose
initialization is deferred to the first call. -/
def beginReinitialization (configKept deferred : Bool) (module : LoadedModule) :
    Except Error Unit × LoadedModule :=
  let state := module.snapshot.state
  if configKept = false then
    (.error (.failed "scoped callback configuration is immutable"), module)
  else if module.lifecycleBusy then
    (.error (.failed "module lifecycle operation is already running"), module)
  else if state ≠ .ready ∧ state ≠ .serving ∧ ¬ (state = .resolved ∧ deferred = true) then
    (.error (.moduleUnavailable module.info.name (stateName state)
      "module must be ready before reinitialization"), module)
  else (.ok (), { module with lifecycleBusy := true })

end LoadedModule

/-- The moves of a record, with the reservation of a reinitialization and the
stop that fails while it drains the callbacks. -/
inductive RecordMove where
  | module (move : ModuleMove)
  | drainFailed
  | beginReinitialization (configKept deferred : Bool)

def LoadedModule.perform (module : LoadedModule) : RecordMove → LoadedModule
  | .module move => module.move move
  | .drainFailed => { module with transitionFrom := none }
  | .beginReinitialization configKept deferred => (module.beginReinitialization configKept deferred).2

def RecordMove.Allowed (module : LoadedModule) : RecordMove → Prop
  | .module (.transport view) =>
      (module.transport.faulted = true → view.faulted = true) ∧
        (module.transport.initFailed = true → view.initFailed = true)
  | _ => True

namespace LoadedModule

/-- The host reports the module stopped, faulted or failed. -/
def Ended (module : LoadedModule) : Prop := module.snapshot.state.terminal = true

theorem observedState_failed {state : ModuleState} {transport : TransportView}
    (flagged : transport.faulted = true ∨ transport.initFailed = true)
    (open_ : state.final = false) : (observedState state transport).terminal = true := by
  unfold observedState
  rw [open_]
  rcases flagged with faulted | failed
  · rw [faulted]
    cases transport.initFailed <;> rfl
  · rw [failed]
    rfl

theorem observedState_final {state : ModuleState} (final : state.final = true)
    (transport : TransportView) : observedState state transport = state := by
  unfold observedState
  cases state <;> simp [ModuleState.final] at final ⊢

theorem observedState_sound {state : ModuleState} {transport : TransportView}
    (faulted : transport.faulted = false) (failed : transport.initFailed = false) :
    (observedState state transport).terminal = state.terminal := by
  have serving : (if transport.inflight = 0 then ModuleState.ready else .serving).terminal =
      false := by
    split <;> rfl
  unfold observedState
  cases state <;> simp [faulted, failed, serving, apply_ite ModuleState.terminal]
  all_goals simp [ModuleState.terminal]

variable {module : LoadedModule}

theorem ended_iff :
    module.Ended ↔ module.info.state.terminal = true ∨
      (module.transport.faulted = true ∨ module.transport.initFailed = true) ∧
        module.info.state.final = false := by
  unfold Ended snapshot
  dsimp only
  cases final : module.info.state.final with
  | true =>
      rw [observedState_final final]
      simp
  | false =>
      by_cases flagged : module.transport.faulted = true ∨ module.transport.initFailed = true
      · simp [observedState_failed flagged final, flagged]
      · obtain ⟨faulted, failed⟩ := not_or.mp flagged
        rw [observedState_sound (eq_false_of_ne_true faulted) (eq_false_of_ne_true failed)]
        simp [faulted, failed]

theorem ended_of_terminal (terminal : module.info.state.terminal = true) :
    module.Ended := ended_iff.mpr (.inl terminal)

/-! ### No move of an ended record reopens it -/

theorem Ended.transport (ended : module.Ended) {view : TransportView}
    (allowed : (RecordMove.module (.transport view)).Allowed module) :
    { module with transport := view }.Ended := by
  rcases ended_iff.mp ended with terminal | ⟨flagged, final⟩
  · exact ended_of_terminal terminal
  · refine ended_iff.mpr (.inr ⟨?_, final⟩)
    rcases flagged with faulted | failed
    · exact .inl (allowed.1 faulted)
    · exact .inr (allowed.2 failed)

theorem Ended.beginStop (ended : module.Ended) :
    module.beginStop.2 = module := by
  unfold LoadedModule.beginStop
  dsimp only
  split
  · rfl
  · rw [if_pos (show module.snapshot.state.terminal = true from ended)]

theorem Ended.finishStop (ended : module.Ended) (outcome : StopOutcome) :
    (module.finishStop outcome).2.Ended := by
  cases outcome with
  | started error => exact ended
  | notStarted error =>
      unfold LoadedModule.finishStop
      dsimp only
      split
      · exact ended
      · exact ended
  | stopped =>
      apply ended_of_terminal
      unfold LoadedModule.finishStop
      dsimp only
      split
      · split <;> rfl
      · rfl

theorem Ended.enable (ended : module.Ended) (enabled : Bool) :
    (module.enable enabled).2 = module := by
  unfold LoadedModule.enable
  dsimp only
  split
  · rfl
  · rw [if_pos (show module.snapshot.state.terminal = true from ended)]

theorem Ended.peerDetached (ended : module.Ended) :
    module.peerDetached.2.Ended := by
  unfold LoadedModule.peerDetached
  split
  · split
    · exact ended
    · apply ended_of_terminal
      dsimp only
      split <;> rfl
  · split
    · exact ended_of_terminal rfl
    · exact ended

theorem Ended.beginReinitialization (ended : module.Ended) (configKept deferred : Bool) :
    (module.beginReinitialization configKept deferred).2.Ended := by
  unfold LoadedModule.beginReinitialization
  dsimp only
  split
  · exact ended
  · split
    · exact ended
    · split
      · exact ended
      · exact ended

theorem Ended.perform (ended : module.Ended) {move : RecordMove}
    (allowed : move.Allowed module) : (module.perform move).Ended := by
  cases move with
  | drainFailed => exact ended
  | beginReinitialization configKept deferred => exact ended.beginReinitialization configKept deferred
  | module move =>
      cases move with
      | transport view => exact ended.transport allowed
      | describe rustcVersion rustcMismatch => exact ended
      | beginStop =>
          change module.beginStop.2.Ended
          rw [ended.beginStop]
          exact ended
      | finishStop outcome => exact ended.finishStop outcome
      | endLifecycle ofStop => exact ended
      | enable enabled =>
          change (module.enable enabled).2.Ended
          rw [ended.enable]
          exact ended
      | peerDetached => exact ended.peerDetached

/-! ### No move renames a record -/

theorem perform_same (module : LoadedModule) (move : RecordMove) :
    module.SameRecord (module.perform move) := by
  cases move with
  | module move => exact module.move_same move
  | drainFailed => exact ⟨rfl, rfl, rfl⟩
  | beginReinitialization configKept deferred =>
      change module.SameRecord (module.beginReinitialization configKept deferred).2
      unfold LoadedModule.beginReinitialization
      dsimp only
      split
      · exact .refl module
      · split
        · exact .refl module
        · split
          · exact .refl module
          · exact ⟨rfl, rfl, rfl⟩

end LoadedModule

/-! ### Histories -/

/-- What happens to a host: loads, scans that put their loads in order, refusals,
everything that changes the record of one module, and the end of a load with
callbacks that takes its own record back. -/
inductive RecordEvent where
  | load (request : LoadRequest)
  | scan (requests : List LoadRequest)
  | loadNext
  | reject (error : Error) (manifest : ModuleManifest) (refusal : RefusalClass)
  | rejectFile (error : Error)
  | withdraw (unique : BusName)
  | record (selector : Selector) (move : RecordMove)

def RecordEvent.OfRecord : RecordEvent → Prop
  | .record _ _ => True
  | _ => False

/-- A host with the names that the broker gave to the peers of its loads. -/
structure HostHistory where
  loader : Loader
  issued : List BusName

namespace HostHistory

def empty : HostHistory := ⟨Loader.empty, []⟩

def records (history : HostHistory) : List LoadedModule := history.loader.host.loaded

/-- A load that the event is. -/
def request (history : HostHistory) : RecordEvent → Option LoadRequest
  | .load request => some request
  | .loadNext => history.loader.queue.head?
  | _ => none

def changeHost (loader : Loader) (change : ModuleHost → ModuleHost) : Loader :=
  { loader with host := change loader.host }

def forward (loader : Loader) : RecordEvent → Loader
  | .load request => loader.next (.load request)
  | .scan requests => loader.next (.scan requests)
  | .loadNext => loader.next .loadNext
  | .reject error manifest refusal => loader.next (.host (.reject error manifest refusal))
  | .rejectFile error => loader.next (.host (.rejectFile error))
  | .withdraw unique => changeHost loader (fun host => { host with
      loaded := host.loaded.filter (fun module => module.uniqueName ≠ unique) })
  | .record selector move => changeHost loader (fun host =>
      host.update selector (fun module => module.perform move))

def next (history : HostHistory) (event : RecordEvent) : HostHistory :=
  { loader := forward history.loader event
    issued := history.issued ++ ((history.request event).map LoadRequest.unique).toList }

/-- The broker gives each load a name that none had, and flags stay set. -/
def Possible (history : HostHistory) (event : RecordEvent) : Prop :=
  (∀ request, history.request event = some request → request.unique ∉ history.issued) ∧
    ∀ selector move, event = .record selector move →
      ∀ module, history.loader.host.select selector = some module → move.Allowed module

def system : System HostHistory RecordEvent :=
  (System.ofFunction (· = empty) next).restrict Possible

/-! ### One step of a history -/

/-- What a step does to the records: one is added at the end, with a name that
none of them has, moved in its place or taken off. -/
inductive Stepped (history : HostHistory) (event : RecordEvent) : List LoadedModule → Prop
  | same : Stepped history event history.records
  | added {request : LoadRequest} {module : LoadedModule}
      (loads : history.request event = some request)
      (peer : module.uniqueName = request.unique)
      (unknown : ∀ known ∈ history.records, known.info.name ≠ module.info.name) :
      Stepped history event (history.records ++ [module])
  | moved (selector : Selector) (move : RecordMove)
      (allowed : ∀ module, history.records.find? selector.selects = some module →
        move.Allowed module) :
      Stepped history event
        (updateFirst selector.selects (fun module => module.perform move) history.records)
  | withdrawn (unique : BusName) :
      Stepped history event
        (history.records.filter (fun module => module.uniqueName ≠ unique))

variable {event : RecordEvent} {history : HostHistory}

theorem perform_stepped {request : LoadRequest} (loads : history.request event = some request)
    (fresh : ∀ module ∈ history.records, module.uniqueName ≠ request.unique) :
    Stepped history event (history.loader.perform request).host.loaded := by
  change Stepped history event (history.loader.host.load request).2.loaded
  generalize result : (history.loader.host.load request).1.result = outcome
  have ends := ModuleHost.load_loads fresh
  change ModuleHost.Loads _ _ (history.loader.host.load request).1.result
    (history.loader.host.load request).2.loaded at ends
  rw [result] at ends
  generalize (history.loader.host.load request).2.loaded = after at ends ⊢
  cases ends with
  | refused refusal => exact .same
  | duplicate validated known => exact .same
  | loaded state validated unknown => exact .added loads rfl unknown

theorem scan_records (host : ModuleHost) (requests : List LoadRequest) :
    (host.scan requests).1.loaded = host.loaded := by
  unfold ModuleHost.scan
  dsimp only
  generalize (resolve (requests.map LoadRequest.manifest) host.providedInterfaces).unresolved =
    refused
  induction refused generalizing host with
  | nil => rfl
  | cons first rest ih =>
      rw [List.foldl_cons, ih]
      split
      · rfl
      · exact ModuleHost.refuseLoad_loaded _ _ _ _ _

structure Sound (history : HostHistory) : Prop where
  names : (history.records.map (fun module => module.info.name)).Nodup
  peers : (history.records.map LoadedModule.uniqueName).Nodup
  issued : ∀ module ∈ history.records, module.uniqueName ∈ history.issued

theorem next_stepped (sound : history.Sound)
    (possible : history.Possible event) : Stepped history event (history.next event).records := by
  have fresh (request : LoadRequest) (loads : history.request event = some request) :
      ∀ module ∈ history.records, module.uniqueName ≠ request.unique := by
    intro module member same
    exact possible.1 request loads (same ▸ sound.issued module member)
  cases event with
  | load request => exact perform_stepped rfl (fresh request rfl)
  | scan requests =>
      change Stepped history _ (history.loader.host.scan requests).1.loaded
      rw [scan_records]
      exact .same
  | loadNext =>
      change Stepped history _ (history.loader.next .loadNext).host.loaded
      unfold Loader.next
      dsimp only
      cases queued : history.loader.queue with
      | nil => exact .same
      | cons request rest =>
          have head : history.request .loadNext = some request := by
            unfold HostHistory.request
            rw [queued]
            rfl
          exact perform_stepped head (fresh request head)
  | reject error manifest refusal =>
      change Stepped history _ (history.loader.host.recordManifestRejection error manifest
        refusal).loaded
      rw [ModuleHost.recordManifestRejection_loaded]
      exact .same
  | rejectFile error =>
      change Stepped history _ (history.loader.host.recordRejection error).loaded
      rw [ModuleHost.recordRejection_loaded]
      exact .same
  | withdraw unique => exact .withdrawn unique
  | record selector move => exact .moved selector move (possible.2 selector move rfl)

structure Outlives (module later : LoadedModule) : Prop where
  same : module.SameRecord later
  ended : module.Ended → later.Ended

theorem Outlives.refl (module : LoadedModule) : Outlives module module := ⟨.refl module, id⟩

structure Follows (before after : HostHistory) : Prop where
  issued : ∀ unique ∈ before.issued, unique ∈ after.issued
  outlived : ∀ later ∈ after.records, later.uniqueName ∈ before.issued →
    ∃ module ∈ before.records, Outlives module later

theorem Follows.refl (history : HostHistory) : Follows history history where
  issued := fun _ member => member
  outlived := fun later member _ => ⟨later, member, .refl later⟩

theorem Follows.trans (first middle last : HostHistory) (early : Follows first middle)
    (late : Follows middle last) : Follows first last where
  issued := fun unique member => late.issued unique (early.issued unique member)
  outlived := by
    intro later member named
    obtain ⟨between, listed, next⟩ := late.outlived later member (early.issued _ named)
    have same : later.uniqueName = between.uniqueName := next.same.2.2
    obtain ⟨module, had, outlived⟩ := early.outlived between listed (same ▸ named)
    exact ⟨module, had, outlived.same.trans next.same,
      fun ended => next.ended (outlived.ended ended)⟩

theorem next_issued (history : HostHistory) (event : RecordEvent) :
    ∀ unique ∈ history.issued, unique ∈ (history.next event).issued :=
  fun _ member => List.mem_append_left _ member

theorem next_follows (sound : history.Sound)
    (possible : history.Possible event) : Follows history (history.next event) where
  issued := history.next_issued event
  outlived := by
    have stepped := next_stepped sound possible
    generalize (history.next event).records = after at stepped
    intro later member named
    cases stepped with
    | same => exact ⟨later, member, .refl later⟩
    | @added request module loads peer unknown =>
        rcases List.mem_append.mp member with old | new
        · exact ⟨later, old, .refl later⟩
        · cases List.mem_singleton.mp new
          rw [peer] at named
          exact absurd named (possible.1 request loads)
    | moved selector move allowed =>
        rcases of_mem_updateFirst member with old | ⟨module, found, listed, rfl⟩
        · exact ⟨later, old, .refl later⟩
        · exact ⟨module, listed, module.perform_same move,
            fun ended => ended.perform (allowed module found)⟩
    | withdrawn unique => exact ⟨later, (List.mem_filter.mp member).1, .refl later⟩

theorem nodup_added {α : Type} {key : LoadedModule → α} {records : List LoadedModule}
    (distinct : (records.map key).Nodup) {module : LoadedModule}
    (unknown : ∀ known ∈ records, key known ≠ key module) :
    ((records ++ [module]).map key).Nodup := by
  rw [List.map_append, List.nodup_append]
  refine ⟨distinct, List.nodup_singleton _, ?_⟩
  intro value known other new
  obtain ⟨record, member, named⟩ := List.mem_map.mp known
  rw [← named, List.mem_singleton.mp new]
  exact unknown record member

theorem next_sound (sound : history.Sound)
    (possible : history.Possible event) : (history.next event).Sound := by
  have stepped := next_stepped sound possible
  have kept := history.next_issued event
  have own (request : LoadRequest) (loads : history.request event = some request) :
      request.unique ∈ (history.next event).issued := by
    apply List.mem_append_right
    rw [loads]
    exact List.mem_singleton.mpr rfl
  generalize after : (history.next event).records = records at stepped
  cases stepped with
  | same =>
      exact { names := by rw [after]; exact sound.names
              peers := by rw [after]; exact sound.peers
              issued := by
                rw [after]
                exact fun module member => kept _ (sound.issued module member) }
  | @added request module loads peer unknown =>
      have others : ∀ known ∈ history.records, known.uniqueName ≠ module.uniqueName := by
        intro known member same
        rw [peer] at same
        exact possible.1 request loads (same ▸ sound.issued known member)
      exact { names := by rw [after]; exact nodup_added sound.names unknown
              peers := by rw [after]; exact nodup_added sound.peers others
              issued := by
                rw [after]
                intro record member
                rcases List.mem_append.mp member with old | new
                · exact kept _ (sound.issued record old)
                · rw [List.mem_singleton.mp new, peer]
                  exact own request loads }
  | moved selector move allowed =>
      have same := fun module : LoadedModule => module.perform_same move
      exact { names := by
                rw [after, updateFirst_map _ _ (fun module => (same module).1)]
                exact sound.names
              peers := by
                rw [after, updateFirst_map _ _ (fun module => (same module).2.2)]
                exact sound.peers
              issued := by
                rw [after]
                intro record member
                rcases of_mem_updateFirst member with old | ⟨module, _, listed, rfl⟩
                · exact kept _ (sound.issued record old)
                · rw [(same module).2.2]
                  exact kept _ (sound.issued module listed) }
  | withdrawn unique =>
      exact { names := by
                rw [after]
                exact sound.names.sublist (List.filter_sublist.map _)
              peers := by
                rw [after]
                exact sound.peers.sublist (List.filter_sublist.map _)
              issued := by
                rw [after]
                intro record member
                exact kept _ (sound.issued record (List.mem_filter.mp member).1) }

/-! ### Whole histories -/

theorem reachable_sound (reached : system.Reachable history) :
    history.Sound := by
  apply reached.invariant
  · rintro first rfl
    exact { names := List.nodup_nil
            peers := List.nodup_nil
            issued := fun module member => absurd member List.not_mem_nil }
  · rintro before event after ⟨possible, rfl⟩ sound
    exact next_sound sound possible

theorem run_follows {before after : HostHistory} {events : List RecordEvent}
    (run : system.Run before events after) (sound : before.Sound) : Follows before after := by
  refine run.relation Follows Follows.refl Follows.trans ?_ ?_ sound
  · rintro first event last ⟨possible, rfl⟩ held
    exact next_sound held possible
  · rintro first event last ⟨possible, rfl⟩ held
    exact next_follows held possible

theorem run_ofRecord {before after : HostHistory} {events : List RecordEvent}
    (run : system.Run before events after) (ofRecord : ∀ event ∈ events, event.OfRecord) :
    after.records.map LoadedModule.uniqueName = before.records.map LoadedModule.uniqueName ∧
      after.loader.host.rejected = before.loader.host.rejected := by
  induction run with
  | nil => exact ⟨rfl, rfl⟩
  | @snoc middle last events event earlier stepped ih =>
      obtain ⟨_, rfl⟩ := stepped
      have before := ih (fun event member => ofRecord event (List.mem_append_left _ member))
      have own := ofRecord event (List.mem_append_right _ (List.mem_singleton.mpr rfl))
      cases event with
      | record selector move =>
          rw [← before.1, ← before.2]
          exact ⟨updateFirst_map _ _ (fun module => (module.perform_same move).2.2) _, rfl⟩
      | _ => exact own.elim

/-- The host reports a record as ended for good: each later record of its peer is
the same one and has ended, and it and the refused records stay listed as long as
nothing is loaded or withdrawn. -/
structure Final (before after : HostHistory) (events : List RecordEvent) : Prop where
  ended : ∀ module ∈ before.records, module.Ended →
    ∀ later ∈ after.records, later.uniqueName = module.uniqueName →
      module.SameRecord later ∧ later.Ended
  listed : (∀ event ∈ events, event.OfRecord) →
    after.records.map LoadedModule.uniqueName = before.records.map LoadedModule.uniqueName ∧
      after.loader.host.rejected = before.loader.host.rejected

/-- In every history the names of the loaded records are distinct, and a record
that has ended stays ended whatever follows. -/
theorem ended_records_final {history : HostHistory} (reached : system.Reachable history) :
    (history.records.map (fun module => module.info.name)).Nodup ∧
      ∀ events after, system.Run history events after → Final history after events := by
  have sound := reachable_sound reached
  refine ⟨sound.names, ?_⟩
  intro events after run
  constructor
  · intro module member ended later listed same
    obtain ⟨source, had, outlived⟩ := (run_follows run sound).outlived later listed
      (same ▸ sound.issued module member)
    have identical : source = module :=
      List.inj_on_of_nodup_map sound.peers had member (outlived.same.2.2.symm.trans same)
    subst identical
    exact ⟨outlived.same, outlived.ended ended⟩
  · exact run_ofRecord run

/-! ### A module that faults after it was loaded -/

def faultedTransport : TransportView :=
  { ModuleBus.quietTransport with faulted := true }

/-- A module is loaded, faults and loses its peer. -/
def faulting : List RecordEvent :=
  [.load (Loader.loadOf "speech" Loader.speechManifest 1),
    .record (.named "speech") (.module (.transport faultedTransport)),
    .record (.peer (BusName.unique 1)) (.module .peerDetached)]

/-- An operator tries to enable, to stop and to reinitialize it. -/
def revivals : List RecordEvent :=
  [.record (.named "speech") (.module (.enable true)),
    .record (.named "speech") (.module .beginStop),
    .record (.named "speech") (.beginReinitialization true false)]

def allows (module : LoadedModule) : RecordMove → Bool
  | .module (.transport view) => (!module.transport.faulted || view.faulted) &&
      (!module.transport.initFailed || view.initFailed)
  | _ => true

theorem allowed_of_allows {module : LoadedModule} {move : RecordMove}
    (allowed : allows module move = true) : move.Allowed module := by
  cases move with
  | module move =>
      cases move with
      | transport view => simpa [allows, RecordMove.Allowed, imp_iff_not_or] using allowed
      | _ => exact trivial
  | _ => exact trivial

def admits (history : HostHistory) (event : RecordEvent) : Bool :=
  (history.request event).all (fun request => !history.issued.contains request.unique) &&
    match event with
    | .record selector move =>
        (history.loader.host.select selector).all (fun module => allows module move)
    | _ => true

theorem possible_of_admits (history : HostHistory) (event : RecordEvent)
    (admitted : history.admits event = true) : history.Possible event := by
  unfold admits at admitted
  obtain ⟨fresh, flags⟩ := (Bool.and_eq_true _ _).mp admitted
  constructor
  · intro request loads member
    rw [loads] at fresh
    simp [member] at fresh
  · rintro selector move rfl module found
    dsimp only at flags
    rw [found] at flags
    exact allowed_of_allows flags

/-- The fault stands, whatever the operator tries. -/
theorem faulted_final :
    (revivals.foldl next (faulting.foldl next empty)).records.any
        (fun later => later.uniqueName = BusName.unique 1) = true ∧
      ∀ later ∈ (revivals.foldl next (faulting.foldl next empty)).records,
        later.uniqueName = BusName.unique 1 → later.Ended := by
  have loaded : system.Run empty faulting (faulting.foldl next empty) :=
    .of_checked possible_of_admits (by decide)
  have tried : system.Run (faulting.foldl next empty) revivals
      (revivals.foldl next (faulting.foldl next empty)) :=
    .of_checked possible_of_admits (by decide)
  obtain ⟨_, final⟩ := ended_records_final ⟨empty, _, rfl, loaded⟩
  refine ⟨by decide, ?_⟩
  intro later listed same
  exact ((final _ _ tried).ended _ (List.mem_singleton.mpr rfl) rfl later listed same).2

end HostHistory

end TinyBus
