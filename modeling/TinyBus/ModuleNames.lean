import Mathlib.Data.List.Induction
import TinyBus.ModuleIdentity
import TinyBus.PinnedLoads

/-
Loads of modules with ids of their own.  Each record carries the first 32
characters of an id; as long as these tell the modules apart, none is refused as
another and none is reported or found under the name of another.
-/

namespace TinyBus

namespace ModuleHost

variable {descriptor : TbAbiDescriptor} {manifest : ModuleManifest}

theorem validate_ok {build : HostBuild} {strict : Bool} {file : String} {info : ModuleInfo}
    (valid : validate build strict file descriptor manifest = .ok info) :
    info.name = sanitizeUntrusted manifest.module.name ∧ info.manifest = manifest := by
  unfold validate at valid
  split at valid
  · cases valid
  · cases valid
  · split at valid
    · cases valid
    · split at valid
      · cases valid
      · split at valid
        · cases valid
        · rename_i identified
          split at valid
          · cases valid
          · split at valid
            · cases valid
            · cases valid
              exact ⟨by rw [not_not.mp (not_or.mp identified).2], rfl⟩

theorem provisionalInfo_ok {file : String} {info : ModuleInfo}
    (valid : provisionalInfo file manifest = .ok info) :
    info.name = sanitizeUntrusted manifest.module.name ∧ info.manifest = manifest := by
  unfold provisionalInfo at valid
  dsimp only at valid
  split at valid
  · cases valid
  · cases valid
    exact ⟨rfl, rfl⟩

def duplicateReason : String := "module name is already loaded"

theorem refuseFirst_error {path : String} {checks : List (Bool × String)} {error : Error}
    (failed : refuseFirst path checks = .error error)
    (others : ∀ check ∈ checks, check.2 ≠ duplicateReason) :
    ∃ reason, error = .moduleRefused path reason ∧ reason ≠ duplicateReason := by
  unfold refuseFirst at failed
  split at failed
  · rename_i check reason found
    cases failed
    exact ⟨reason, rfl, others _ (List.mem_of_find?_eq_some found)⟩
  · cases failed

theorem descriptorChecks_other (build : HostBuild) (descriptor : TbAbiDescriptor)
    (strict : Bool) : ∀ check ∈ descriptorChecks build descriptor strict,
      check.2 ≠ duplicateReason := by
  intro check member same
  -- The two reasons that name a version or a feature differ at once or after `module `.
  have start := congrArg (fun text : String => text.toList.take 8) same
  unfold descriptorChecks at member
  simp only [List.mem_cons, List.not_mem_nil, or_false] at member
  rcases member with rfl | rfl | rfl | rfl | rfl | rfl | rfl
  all_goals simp [duplicateReason, String.toList_append] at start

theorem gateDescriptor_error {build : HostBuild} {path : String} {strict : Bool} {error : Error}
    (failed : gateDescriptor build path descriptor strict = .error error) :
    ∃ reason, error = .moduleRefused path reason ∧ reason ≠ duplicateReason := by
  unfold gateDescriptor at failed
  cases gated : gatePrefix path descriptor.magic descriptor.abiRevision
      descriptor.descriptorSize with
  | error refusal =>
      rw [gated] at failed
      cases failed
      refine refuseFirst_error gated ?_
      intro check member
      simp only [List.mem_cons, List.not_mem_nil, or_false] at member
      rcases member with rfl | rfl | rfl | rfl
      all_goals simp [duplicateReason]
  | ok passed =>
      rw [gated] at failed
      exact refuseFirst_error failed (descriptorChecks_other build descriptor strict)

theorem validate_error {build : HostBuild} {strict : Bool} {file : String} {reason : String}
    (invalid : validate build strict file descriptor manifest = .error reason) :
    reason ≠ duplicateReason := by
  unfold validate at invalid
  split at invalid
  · rename_i gated
    cases invalid
    obtain ⟨other, same, different⟩ := gateDescriptor_error gated
    cases same
    exact different
  · rename_i refusal unnamed gated
    obtain ⟨other, same, _⟩ := gateDescriptor_error gated
    exact absurd same (unnamed file other)
  · split at invalid
    · cases invalid
      simp [duplicateReason]
    · split at invalid
      · cases invalid
        simp [duplicateReason]
      · split at invalid
        · cases invalid
          simp [duplicateReason]
        · split at invalid
          · cases invalid
            simp [duplicateReason]
          · split at invalid
            · cases invalid
              simp [duplicateReason]
            · cases invalid

theorem provisionalInfo_error {file : String} {reason : String}
    (invalid : provisionalInfo file manifest = .error reason) : reason ≠ duplicateReason := by
  unfold provisionalInfo at invalid
  dsimp only at invalid
  split at invalid
  · cases invalid
    simp [duplicateReason]
  · cases invalid

end ModuleHost

namespace LoadRequest

def id (request : LoadRequest) : String := request.manifest.module.name

structure Genuine (build : HostBuild) (request : LoadRequest) : Prop where
  identity : (∃ strict descriptor, request.validated =
      ModuleHost.validate build strict request.file descriptor request.manifest) ∨
    request.validated = ModuleHost.provisionalInfo request.file request.manifest
  initializer : ∀ reason, request.initialized = .error reason →
    reason = "module returned an invalid vtable" ∨ reason = "module initialization failed"

/-- Nothing but the name can have the request refused. -/
structure Unhindered (request : LoadRequest) : Prop where
  valid : ∃ info, request.validated = .ok info
  supplied : request.admission.ensuresDependencies = false ∨ request.manifest.needed = []
  initialized : request.initialized = .ok ()
  free : request.nameFree = true
  starts : request.starts = true

variable {build : HostBuild} {request : LoadRequest}

theorem Genuine.named (genuine : request.Genuine build) {info : ModuleInfo}
    (validated : request.validated = .ok info) :
    info.name = sanitizeUntrusted request.id ∧ info.manifest = request.manifest := by
  rcases genuine.identity with ⟨strict, descriptor, checked⟩ | checked
  · exact ModuleHost.validate_ok (checked.symm.trans validated)
  · exact ModuleHost.provisionalInfo_ok (checked.symm.trans validated)

theorem Genuine.refusal (genuine : request.Genuine build) {reason : String}
    (refusal : request.Refusal reason) : reason ≠ ModuleHost.duplicateReason := by
  cases refusal with
  | missing needs => simp [ModuleHost.duplicateReason]
  | invalid validated =>
      rcases genuine.identity with ⟨strict, descriptor, checked⟩ | checked
      · exact ModuleHost.validate_error (checked.symm.trans validated)
      · exact ModuleHost.provisionalInfo_error (checked.symm.trans validated)
  | uninitialized failed =>
      rcases genuine.initializer _ failed with rfl | rfl
      · simp [ModuleHost.duplicateReason]
      · simp [ModuleHost.duplicateReason]
  | owned taken => simp [ModuleHost.duplicateReason]
  | unstarted stuck => simp [ModuleHost.duplicateReason]

theorem Unhindered.refusal (unhindered : request.Unhindered) {reason : String}
    (refusal : request.Refusal reason) : False := by
  cases refusal with
  | missing needs =>
      rcases unhindered.supplied with none | none
      · rw [none] at needs
        cases needs.1
      · exact needs.2 none
  | invalid validated =>
      obtain ⟨info, valid⟩ := unhindered.valid
      rw [validated] at valid
      cases valid
  | uninitialized failed =>
      rw [unhindered.initialized] at failed
      cases failed
  | owned taken =>
      rw [unhindered.free] at taken
      cases taken
  | unstarted stuck =>
      rw [unhindered.starts] at stuck
      cases stuck

end LoadRequest

namespace ModuleHost

def loadAll (requests : List LoadRequest) : ModuleHost :=
  requests.foldl (fun host request => (host.load request).2) empty

theorem loadAll_snoc (requests : List LoadRequest) (request : LoadRequest) :
    loadAll (requests ++ [request]) = ((loadAll requests).load request).2 := by
  unfold loadAll
  rw [List.foldl_append]
  rfl

/-- Requests for modules with ids and bus names of their own, each with a peer of
its own. -/
structure Eligible (build : HostBuild) (requests : List LoadRequest) : Prop where
  canonical : ∀ request ∈ requests, canonicalModuleId request.id = true
  genuine : ∀ request ∈ requests, request.Genuine build
  ids : (requests.map LoadRequest.id).Nodup
  busNames : (requests.map (fun request => request.manifest.busName)).Nodup
  peers : (requests.map LoadRequest.unique).Nodup

/-- The part of an id that a record carries tells the modules apart. -/
def Apart (requests : List LoadRequest) : Prop :=
  requests.Pairwise (fun left right => left.id.toList.take 32 ≠ right.id.toList.take 32)

/-- No module is taken for another: at each of the loads, and of the records
after them.  A record shows a module by its manifest, and not under the id of another, as a
whole or cut to what a record carries. -/
structure Distinguished (requests : List LoadRequest) : Prop where
  accepts : ∀ early request late, requests = early ++ request :: late →
    ((loadAll early).load request).1.result ≠ .error (request.refused duplicateReason)
  reports : ∀ early late, requests = early ++ late → ∀ info ∈ (loadAll early).list,
    ∀ request ∈ requests, ∀ other ∈ requests, info.manifest = request.manifest →
      other.id ≠ request.id → info.name ≠ other.id ∧ info.name ≠ sanitizeUntrusted other.id
  addresses : ∀ early late, requests = early ++ late → ∀ module ∈ (loadAll early).loaded,
    (loadAll early).select (.named module.info.name) = some module

theorem sanitize_canonical {value : String} (canonical : canonicalModuleId value = true) :
    (sanitizeUntrusted value).toList = value.toList.take 32 := by
  unfold canonicalModuleId at canonical
  unfold sanitizeUntrusted
  rw [Bool.and_eq_true] at canonical
  have kept : value.toList.filter isNameChar = value.toList :=
    List.filter_eq_self.mpr (List.all_eq_true.mp canonical.2)
  rw [String.toList_ofList]
  exact congrArg (List.take 32) kept

def Named (info : ModuleInfo) : Prop :=
  info.name = sanitizeUntrusted info.manifest.module.name ∨
    info.name = info.manifest.module.name

def Honest (host : ModuleHost) : Prop := ∀ info ∈ host.rejected, Named info

theorem mem_replaceFirst {info other : ModuleInfo} {records : List ModuleInfo}
    (member : other ∈ recordRejected.replaceFirst info records) :
    other = info ∨ other ∈ records := by
  induction records with
  | nil => cases member
  | cons head rest ih =>
      unfold recordRejected.replaceFirst at member
      split at member
      · rcases List.mem_cons.mp member with same | old
        · exact .inl same
        · exact .inr (List.mem_cons_of_mem _ old)
      · rcases List.mem_cons.mp member with same | old
        · exact .inr (List.mem_cons.mpr (.inl same))
        · rcases ih old with same | kept
          · exact .inl same
          · exact .inr (List.mem_cons_of_mem _ kept)

variable {host : ModuleHost} {early late : List LoadRequest} {request : LoadRequest}

theorem Honest.recordRejected (honest : host.Honest) {info : ModuleInfo}
    (named : Named info) : (host.recordRejected info).Honest := by
  intro other member
  unfold ModuleHost.recordRejected at member
  dsimp only at member
  split at member
  · rcases mem_replaceFirst member with rfl | old
    · exact named
    · exact honest other old
  · rcases List.mem_append.mp member with old | new
    · exact honest other old
    · rw [List.mem_singleton.mp new]
      exact named

theorem Honest.recordManifestRejection (honest : host.Honest) (error : Error)
    (manifest : ModuleManifest) (refusal : RefusalClass) :
    (host.recordManifestRejection error manifest refusal).Honest := by
  cases error
  case moduleRefused file reason => exact honest.recordRejected (.inl rfl)
  all_goals exact honest

theorem Honest.recordRejection (honest : host.Honest) (error : Error) :
    (host.recordRejection error).Honest := by
  cases error
  case moduleRefused file reason =>
    unfold ModuleHost.recordRejection
    dsimp only
    split
    · exact honest
    · intro info member
      rcases List.mem_append.mp member with old | new
      · exact honest info old
      · rw [List.mem_singleton.mp new]
        exact .inr rfl
  all_goals exact honest

theorem Honest.refuseLoad (honest : host.Honest) (request : LoadRequest) (recorded : Bool)
    (reason : String) (refusal : RefusalClass) :
    (host.refuseLoad request recorded reason refusal).2.Honest := by
  unfold ModuleHost.refuseLoad
  dsimp only
  split
  · exact honest.recordManifestRejection _ _ _
  · exact honest

theorem Honest.attachTransport (honest : host.Honest) (request : LoadRequest)
    (info : ModuleInfo) : (host.attachTransport request info).2.Honest := by
  unfold ModuleHost.attachTransport
  split
  · exact honest.refuseLoad _ _ _ _
  · dsimp only
    split
    · exact honest
    · have published : ((host.publish info request.unique request.transport).unpublish
          request.unique).Honest := honest
      exact published.refuseLoad _ _ _ _

theorem Honest.activate (honest : host.Honest) (request : LoadRequest) :
    (host.activate request).2.Honest := by
  unfold ModuleHost.activate
  dsimp only
  split
  · exact honest.refuseLoad _ _ _ _
  · split
    · exact honest.refuseLoad _ _ _ _
    · split
      · exact honest.refuseLoad _ _ _ _
      · exact honest.attachTransport _ _

theorem Honest.load (honest : host.Honest) (request : LoadRequest) :
    (host.load request).2.Honest := by
  have attempted : (host.attempt request).2.Honest := by
    unfold attempt
    split
    · split
      · split
        · exact honest.recordManifestRejection _ _ _
        · exact honest
      · exact honest.activate request
    · exact honest.activate request
  unfold ModuleHost.load
  dsimp only
  split
  · exact attempted
  · dsimp only
    split
    · exact attempted.recordRejection _
    · exact attempted

structure Entered (early : List LoadRequest) (host : ModuleHost) : Prop where
  known : ∀ module ∈ host.loaded, ∃ request ∈ early, module.info.manifest = request.manifest ∧
    module.info.name = sanitizeUntrusted request.id ∧ module.uniqueName = request.unique
  names : (host.loaded.map (fun module => module.info.name)).Nodup
  honest : host.Honest

variable {build : HostBuild} {requests : List LoadRequest}

theorem Eligible.fresh (eligible : Eligible build requests)
    (split : requests = early ++ request :: late) (entered : Entered early (loadAll early)) :
    ∀ module ∈ (loadAll early).loaded, module.uniqueName ≠ request.unique := by
  intro module member same
  obtain ⟨earlier, before, _, _, peer⟩ := entered.known module member
  have distinct := eligible.peers
  rw [split, List.map_append, List.nodup_append] at distinct
  exact distinct.2.2 earlier.unique (List.mem_map_of_mem before) request.unique
    (List.mem_map_of_mem List.mem_cons_self) (peer.symm.trans same)

theorem Eligible.entered (eligible : Eligible build requests)
    (split : requests = early ++ late) : Entered early (loadAll early) := by
  induction early using List.reverseRecOn generalizing late with
  | nil =>
      exact { known := fun module member => absurd member List.not_mem_nil
              names := List.nodup_nil
              honest := fun info member => absurd member List.not_mem_nil }
  | append_singleton early request ih =>
      have here : requests = early ++ request :: late := by
        rw [split, List.append_assoc]
        rfl
      have entered := ih here
      have loads := load_loads (eligible.fresh here entered)
      have genuine := eligible.genuine request (by rw [here]; simp)
      rw [loadAll_snoc]
      have honest := entered.honest.load request
      generalize ((loadAll early).load request).1.result = result at loads
      generalize ((loadAll early).load request).2 = after at loads honest ⊢
      have old : ∀ module ∈ (loadAll early).loaded, ∃ request' ∈ early ++ [request],
          module.info.manifest = request'.manifest ∧
            module.info.name = sanitizeUntrusted request'.id ∧
            module.uniqueName = request'.unique := by
        intro module member
        obtain ⟨earlier, before, same⟩ := entered.known module member
        exact ⟨earlier, List.mem_append_left _ before, same⟩
      generalize ends : after.loaded = records at loads
      cases loads with
      | refused refusal =>
          exact { known := by rw [ends]; exact old
                  names := by rw [ends]; exact entered.names
                  honest := honest }
      | duplicate validated known =>
          exact { known := by rw [ends]; exact old
                  names := by rw [ends]; exact entered.names
                  honest := honest }
      | @loaded info state validated unknown =>
          obtain ⟨name, manifest⟩ := genuine.named validated
          exact { known := by
                    rw [ends]
                    intro module member
                    rcases List.mem_append.mp member with before | new
                    · exact old module before
                    · rw [List.mem_singleton.mp new]
                      exact ⟨request, by simp, manifest, name, rfl⟩
                  names := by
                    rw [ends]
                    exact HostHistory.nodup_added entered.names unknown
                  honest := honest }

theorem Apart.names (apart : Apart requests) (eligible : Eligible build requests)
    {other : LoadRequest} (member : request ∈ requests) (listed : other ∈ requests)
    (different : other.id ≠ request.id) :
    (sanitizeUntrusted request.id).toList ≠ (sanitizeUntrusted other.id).toList := by
  rw [sanitize_canonical (eligible.canonical request member),
    sanitize_canonical (eligible.canonical other listed)]
  have symmetric : Std.Symm (fun left right : LoadRequest =>
      left.id.toList.take 32 ≠ right.id.toList.take 32) := ⟨fun _ _ apart same => apart same.symm⟩
  exact List.Pairwise.forall apart member listed
    (fun equal => different (congrArg LoadRequest.id equal.symm))

theorem Apart.name_ne (apart : Apart requests) (eligible : Eligible build requests)
    {other : LoadRequest} (member : request ∈ requests) (listed : other ∈ requests)
    (different : other.id ≠ request.id) : sanitizeUntrusted request.id ≠ other.id := by
  intro same
  apply apart.names eligible member listed different
  have short := congrArg String.toList same
  rw [sanitize_canonical (eligible.canonical request member)] at short ⊢
  rw [sanitize_canonical (eligible.canonical other listed), ← short, List.take_take, min_self]

theorem Apart.shows (apart : Apart requests) (eligible : Eligible build requests)
    {other : LoadRequest} (member : request ∈ requests) (listed : other ∈ requests)
    (different : other.id ≠ request.id) {name : String}
    (shown : name = sanitizeUntrusted request.id ∨ name = request.id) :
    name ≠ other.id ∧ name ≠ sanitizeUntrusted other.id := by
  rcases shown with rfl | rfl
  · refine ⟨apart.name_ne eligible member listed different, fun same => ?_⟩
    exact apart.names eligible member listed different (congrArg String.toList same)
  · refine ⟨different.symm, fun same => ?_⟩
    exact apart.name_ne eligible listed member different.symm same.symm

theorem Apart.distinguished (apart : Apart requests) (eligible : Eligible build requests) :
    Distinguished requests where
  accepts := by
    intro early request late split result
    have entered := eligible.entered split
    have member : request ∈ requests := by rw [split]; simp
    have genuine := eligible.genuine request member
    have loads := load_loads (eligible.fresh split entered)
    rw [result] at loads
    generalize ((loadAll early).load request).2.loaded = after at loads
    generalize refused : request.refused duplicateReason = error at loads
    cases loads with
    | refused refusal =>
        cases refused
        exact genuine.refusal refusal rfl
    | @duplicate info validated known =>
        obtain ⟨module, listed, same⟩ := known
        obtain ⟨earlier, before, _, name, _⟩ := entered.known module listed
        have old : earlier ∈ requests := by
          rw [split]
          exact List.mem_append_left _ before
        have different : request.id ≠ earlier.id := by
          have distinct := eligible.ids
          rw [split, List.map_append, List.nodup_append] at distinct
          exact (distinct.2.2 earlier.id (List.mem_map_of_mem before) request.id
            (List.mem_map_of_mem List.mem_cons_self)).symm
        apply apart.names eligible old member different
        rw [← name, same, (genuine.named validated).1]
  reports := by
    intro early late split info listed request member other also shows different
    have entered := eligible.entered split
    have names : info.name = sanitizeUntrusted info.manifest.module.name ∨
        info.name = info.manifest.module.name := by
      rcases List.mem_append.mp listed with loaded | rejected
      · obtain ⟨module, present, snapshot⟩ := List.mem_map.mp loaded
        obtain ⟨source, _, manifest, name, _⟩ := entered.known module present
        subst snapshot
        left
        change module.info.name = sanitizeUntrusted module.info.manifest.module.name
        rw [manifest, name]
        rfl
      · exact entered.honest info rejected
    rw [shows] at names
    exact apart.shows eligible member also different names
  addresses := by
    intro early late split module listed
    have entered := eligible.entered split
    unfold select
    cases found : (loadAll early).loaded.find? (Selector.named module.info.name).selects with
    | none =>
        have own := List.find?_eq_none.mp found module listed
        exact absurd (by simp [Selector.selects]) own
    | some first =>
        have selected := List.find?_some found
        have same : first.info.name = module.info.name := by
          simpa [Selector.selects] using selected
        rw [List.inj_on_of_nodup_map entered.names (List.mem_of_find?_eq_some found) listed same]

theorem Distinguished.prefixes (distinguished : Distinguished requests)
    (eligible : Eligible build requests) (unhindered : ∀ request ∈ requests, request.Unhindered)
    (split : requests = early ++ late) :
    (loadAll early).loaded.map (fun module => module.info.name) =
        early.map (fun request => sanitizeUntrusted request.id) ∧ Apart early := by
  induction early using List.reverseRecOn generalizing late with
  | nil => exact ⟨rfl, List.Pairwise.nil⟩
  | append_singleton early request ih =>
      have here : requests = early ++ request :: late := by
        rw [split, List.append_assoc]
        rfl
      obtain ⟨names, apart⟩ := ih here
      have member : request ∈ requests := by rw [here]; simp
      have accepted := distinguished.accepts early request late here
      have loads := load_loads (eligible.fresh here (eligible.entered here))
      rw [loadAll_snoc]
      generalize ((loadAll early).load request).1.result = result at loads accepted
      generalize ((loadAll early).load request).2.loaded = after at loads ⊢
      cases loads with
      | refused refusal => exact ((unhindered request member).refusal refusal).elim
      | duplicate validated known => exact absurd rfl accepted
      | @loaded info state validated unknown =>
          have own := ((eligible.genuine request member).named validated).1
          constructor
          · rw [List.map_append, List.map_append, names]
            exact congrArg (fun name => _ ++ [name]) own
          · refine List.pairwise_append.mpr ⟨apart, List.pairwise_singleton _ _, ?_⟩
            intro other before last only same
            cases List.mem_singleton.mp only
            have listed : other ∈ requests := by
              rw [here]
              exact List.mem_append_left _ before
            have present : sanitizeUntrusted other.id ∈
                (loadAll early).loaded.map (fun module => module.info.name) := by
              rw [names]
              exact List.mem_map_of_mem before
            obtain ⟨module, loaded, name⟩ := List.mem_map.mp present
            apply unknown module loaded
            rw [name, own]
            apply String.toList_inj.mp
            rw [sanitize_canonical (eligible.canonical other listed),
              sanitize_canonical (eligible.canonical request member), same]

/-- Modules whose ids differ in their first 32 characters are never taken for one
another, in whatever order they are loaded; where nothing but its name can have a
module refused, they are taken for one another as soon as two ids agree in them. -/
theorem distinguished_iff_apart (eligible : Eligible build requests) :
    (Apart requests → Distinguished requests) ∧
      ((∀ request ∈ requests, request.Unhindered) →
        (Distinguished requests ↔ Apart requests)) := by
  constructor
  · intro apart
    exact apart.distinguished eligible
  · intro unhindered
    constructor
    · intro distinguished
      exact (distinguished.prefixes eligible unhindered (List.append_nil _).symm).2
    · intro apart
      exact apart.distinguished eligible

def lazyRequest (name : String) (bus : BusName) (unique : Nat) : LoadRequest :=
  let manifest := { ModuleBus.voiceManifest with
    module := ⟨name, ⟨1, 0, 0, none⟩, "", none, ""⟩, busName := bus, lazyInit := true }
  { admission := .lazyFile, file := "module.so", manifest := manifest,
    validated := provisionalInfo "module.so" manifest, initialized := .ok (), nameFree := true,
    starts := true, unique := BusName.unique unique, transport := ModuleBus.quietTransport }

def recognizer : LoadRequest :=
  lazyRequest "tinyhumans-openhuman-speech-recognizer"
    ⟨"ai.tinyhumans.openhuman.Recognizer", by rfl⟩ 1

def recorder : LoadRequest :=
  lazyRequest "tinyhumans-openhuman-speech-recorder"
    ⟨"ai.tinyhumans.openhuman.Recorder", by rfl⟩ 2

def player : LoadRequest :=
  lazyRequest "tinyhumans-openhuman-audio-player" playerName 3

theorem lazyRequest_genuine (name : String) (bus : BusName) (unique : Nat) :
    (lazyRequest name bus unique).Genuine linuxBuild where
  identity := .inr rfl
  initializer := by
    intro reason failed
    cases failed

theorem lazy_eligible {requests : List LoadRequest}
    (canonical : requests.all (fun request => canonicalModuleId request.id) = true)
    (lazy : ∀ request ∈ requests, ∃ name bus unique, request = lazyRequest name bus unique)
    (ids : (requests.map LoadRequest.id).Nodup)
    (busNames : (requests.map (fun request => request.manifest.busName)).Nodup)
    (peers : (requests.map LoadRequest.unique).Nodup) : Eligible linuxBuild requests where
  canonical := List.all_eq_true.mp canonical
  genuine := by
    intro request member
    obtain ⟨name, bus, unique, rfl⟩ := lazy request member
    exact lazyRequest_genuine name bus unique
  ids := ids
  busNames := busNames
  peers := peers

/-- The ids of the two share their first 32 characters; the second is refused. -/
theorem recorder_refused :
    ¬ ∀ requests, Eligible linuxBuild requests → Distinguished requests := by
  intro always
  have lazy : ∀ request ∈ [recognizer, recorder],
      ∃ name bus unique, request = lazyRequest name bus unique := by
    intro request member
    rcases List.mem_pair.mp member with rfl | rfl
    · exact ⟨_, _, _, rfl⟩
    · exact ⟨_, _, _, rfl⟩
  have eligible : Eligible linuxBuild [recognizer, recorder] :=
    lazy_eligible (by decide) lazy (by decide) (by decide) (by decide)
  exact (always _ eligible).accepts [recognizer] recorder [] rfl rfl

theorem player_distinguished : Distinguished [recorder, player] := by
  have lazy : ∀ request ∈ [recorder, player],
      ∃ name bus unique, request = lazyRequest name bus unique := by
    intro request member
    rcases List.mem_pair.mp member with rfl | rfl
    · exact ⟨_, _, _, rfl⟩
    · exact ⟨_, _, _, rfl⟩
  have eligible : Eligible linuxBuild [recorder, player] :=
    lazy_eligible (by decide) lazy (by decide) (by decide) (by decide)
  apply (distinguished_iff_apart eligible).1
  exact List.pairwise_pair.mpr (by decide)

end ModuleHost

end TinyBus
