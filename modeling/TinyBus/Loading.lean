/-
Loading modules: the interfaces that the loaded records list, the order in which a
batch of manifests is loaded, and the way from a request to a published record.
A record stays listed when its module stops, fails or is disabled, and the loader
asks it for the names of the interfaces only.
-/

import TinyBus.ModuleRouting
import TinyBus.VersionOrder

namespace TinyBus

open TransitionSystem

def InterfaceVersion.compatible (provider consumer : InterfaceVersion) : Bool :=
  consumer.accepts.accepts provider.speaks && provider.accepts.accepts consumer.speaks

namespace ModuleManifest

def needs (manifest : ModuleManifest) : List Dependency :=
  manifest.requires.filter (fun dependency => !dependency.optional)

def needed (manifest : ModuleManifest) : List String :=
  manifest.needs.map (fun dependency => dependency.interface.interface.text)

def provided (manifest : ModuleManifest) : List String :=
  manifest.provides.map (fun provided => provided.version.interface.text)

end ModuleManifest

/-! ### The order of a batch -/

/-- Indices of a batch in the order they are loaded, and those left out. -/
structure LoadOrder where
  order : List Nat
  unresolved : List (Nat × String)

structure BatchOrder where
  pending : List Nat
  available : List String
  placed : LoadOrder

namespace BatchOrder

variable (manifests : Nat → ModuleManifest)

def ready (state : BatchOrder) (index : Nat) : Bool :=
  (manifests index).needed.all (fun name => state.available.contains name)

def declared (state : BatchOrder) : List String :=
  state.pending.flatMap (fun index => (manifests index).provided)

def missing (state : BatchOrder) (index : Nat) : Option String :=
  (manifests index).needed.find?
    (fun name => !state.available.contains name && !(state.declared manifests).contains name)

def place (state : BatchOrder) (index : Nat) : BatchOrder :=
  { pending := state.pending.erase index
    available := state.available ++ (manifests index).provided
    placed := { state.placed with order := state.placed.order ++ [index] } }

def refuse (state : BatchOrder) (index : Nat) (reason : String) : BatchOrder :=
  { state with
    pending := state.pending.erase index
    placed := { state.placed with
      unresolved := state.placed.unresolved ++ [(index, reason)] } }

/-- One turn: the first ready manifest is placed; where none is, the first that can
never be is left out, so that its interfaces mask no other; what is left then
depends on itself. -/
def step (state : BatchOrder) : BatchOrder :=
  match state.pending.find? (state.ready manifests) with
  | some index => state.place manifests index
  | none =>
      match state.pending.findSome? (fun index =>
          (state.missing manifests index).map (fun name => (index, name))) with
      | some (index, name) =>
          state.refuse index ("required interface " ++ name ++ " has no provider")
      | none =>
          { state with
            pending := []
            placed := { state.placed with
              unresolved := state.placed.unresolved ++
                state.pending.map (fun index => (index, "module dependency cycle detected")) } }

def turns : Nat → BatchOrder → BatchOrder
  | 0, state => state
  | more + 1, state => turns more (state.step manifests)

end BatchOrder

def duplicates (values : List String) : List String :=
  values.filter (fun value => decide (1 < values.count value))

def clash (manifests : List ModuleManifest) (manifest : ModuleManifest) : Option String :=
  let modules := duplicates (manifests.map (fun manifest => manifest.module.name))
  let busNames := duplicates (manifests.map (fun manifest => manifest.busName.text))
  if modules.contains manifest.module.name then
    some "two artifacts declare the same module name"
  else if busNames.contains manifest.busName.text then
    some "two modules claim the same bus name"
  else none

def separate (manifests : List ModuleManifest) : List Nat × List (Nat × String) :=
  ((manifests.zipIdx.filter (fun entry => (clash manifests entry.1).isNone)).map Prod.snd,
    manifests.zipIdx.filterMap
      (fun entry => (clash manifests entry.1).map (fun reason => (entry.2, reason))))

def manifestAt (manifests : List ModuleManifest) (index : Nat) : ModuleManifest :=
  manifests.getD index (ModuleHost.rejectionInfo "" "").manifest

/-- Each turn shortens what is pending, so as many turns as are pending settle it. -/
def resolve (manifests : List ModuleManifest) (initiallyAvailable : List String) : LoadOrder :=
  let (pending, unresolved) := separate manifests
  (BatchOrder.turns (manifestAt manifests) pending.length
    ⟨pending, initiallyAvailable, ⟨[], unresolved⟩⟩).placed

namespace BatchOrder

variable {manifests : Nat → ModuleManifest} {state : BatchOrder}

inductive Turn (manifests : Nat → ModuleManifest) (state : BatchOrder) : BatchOrder → Prop
  | placed {index : Nat} (member : index ∈ state.pending)
      (ready : state.ready manifests index = true) :
      Turn manifests state (state.place manifests index)
  | refused {index : Nat} {name : String} (member : index ∈ state.pending)
      (missing : state.missing manifests index = some name) :
      Turn manifests state
        (state.refuse index ("required interface " ++ name ++ " has no provider"))
  | cyclic : Turn manifests state
      { state with
        pending := []
        placed := { state.placed with
          unresolved := state.placed.unresolved ++
            state.pending.map (fun index => (index, "module dependency cycle detected")) } }

theorem step_turn (manifests : Nat → ModuleManifest) (state : BatchOrder) :
    Turn manifests state (state.step manifests) := by
  unfold step
  split
  · rename_i index found
    exact .placed (List.mem_of_find?_eq_some found) (List.find?_some found)
  · split
    · rename_i index name found
      obtain ⟨blocked, member, same⟩ := List.exists_of_findSome?_eq_some found
      obtain ⟨missed, missing, pair⟩ := Option.map_eq_some_iff.mp same
      cases pair
      exact .refused member missing
    · exact .cyclic

theorem Turn.shortens {after : BatchOrder} (turn : Turn manifests state after)
    (left : state.pending ≠ []) : after.pending.length < state.pending.length := by
  have positive := List.length_pos_of_ne_nil left
  cases turn with
  | placed member =>
      unfold place
      have erased := List.length_erase_of_mem member
      dsimp only
      omega
  | refused member =>
      unfold refuse
      have erased := List.length_erase_of_mem member
      dsimp only
      omega
  | cyclic => exact positive

theorem turns_settle (manifests : Nat → ModuleManifest) (more : Nat) (state : BatchOrder)
    (enough : state.pending.length ≤ more) : (turns manifests more state).pending = [] := by
  induction more generalizing state with
  | zero => exact List.eq_nil_of_length_eq_zero (Nat.le_zero.mp enough)
  | succ more ih =>
      unfold turns
      apply ih
      have turn := step_turn manifests state
      by_cases left : state.pending = []
      · have empty : (state.step manifests).pending = [] := by
          generalize state.step manifests = after at turn
          cases turn with
          | placed member =>
              rw [left] at member
              exact absurd member List.not_mem_nil
          | refused member =>
              rw [left] at member
              exact absurd member List.not_mem_nil
          | cyclic => rfl
        rw [empty]
        exact Nat.zero_le more
      · have shorter := turn.shortens left
        omega

/-- What is placed needs only what was available at first or is provided by what is
placed before it. -/
structure Grounded (manifests : Nat → ModuleManifest) (first : List String)
    (state : BatchOrder) : Prop where
  available : ∀ name ∈ state.available, name ∈ first ∨
    ∃ index ∈ state.placed.order, name ∈ (manifests index).provided
  ordered : ∀ early index late, state.placed.order = early ++ index :: late →
    ∀ name ∈ (manifests index).needed, name ∈ first ∨
      ∃ earlier ∈ early, name ∈ (manifests earlier).provided

theorem Turn.grounded {first : List String} {after : BatchOrder}
    (turn : Turn manifests state after) (grounded : Grounded manifests first state) :
    Grounded manifests first after := by
  cases turn with
  | @placed index member ready =>
      refine ⟨?_, ?_⟩
      · intro name listed
        rcases List.mem_append.mp listed with old | new
        · rcases grounded.available name old with initial | ⟨earlier, placed, provides⟩
          · exact .inl initial
          · exact .inr ⟨earlier, List.mem_append_left _ placed, provides⟩
        · exact .inr ⟨index, List.mem_append_right _ (List.mem_singleton_self index), new⟩
      · intro early found late split name needed
        rcases List.eq_nil_or_concat late with rfl | ⟨front, last, ends⟩
        · obtain ⟨rfl, same⟩ := List.append_inj' split rfl
          cases same
          exact grounded.available name
            (List.contains_iff_mem.mp (List.all_eq_true.mp ready name needed))
        · rw [List.concat_eq_append] at ends
          subst ends
          have whole : state.placed.order ++ [index] = (early ++ found :: front) ++ [last] := by
            rw [List.append_assoc]
            exact split
          obtain ⟨before, _⟩ := List.append_inj' whole rfl
          exact grounded.ordered early found front before name needed
  | refused => exact ⟨grounded.available, grounded.ordered⟩
  | cyclic => exact ⟨grounded.available, grounded.ordered⟩

theorem turns_grounded {first : List String} (more : Nat)
    (grounded : Grounded manifests first state) :
    Grounded manifests first (turns manifests more state) := by
  induction more generalizing state with
  | zero => exact grounded
  | succ more ih => exact ih ((step_turn manifests state).grounded grounded)

def Covers (state : BatchOrder) (index : Nat) : Prop :=
  index ∈ state.pending ∨ index ∈ state.placed.order ∨
    ∃ reason, (index, reason) ∈ state.placed.unresolved

theorem Turn.covers {after : BatchOrder} {index : Nat} (turn : Turn manifests state after)
    (covered : state.Covers index) : after.Covers index := by
  unfold Covers at covered ⊢
  cases turn with
  | @placed chosen member ready =>
      unfold place
      dsimp only
      by_cases same : index = chosen
      · exact .inr (.inl (List.mem_append_right _ (List.mem_singleton.mpr same)))
      · rcases covered with pending | placed | left
        · exact .inl ((List.mem_erase_of_ne same).mpr pending)
        · exact .inr (.inl (List.mem_append_left _ placed))
        · exact .inr (.inr left)
  | @refused chosen name member missing =>
      unfold refuse
      dsimp only
      by_cases same : index = chosen
      · exact .inr (.inr ⟨_, List.mem_append_right _ (List.mem_singleton.mpr (by rw [same]))⟩)
      · rcases covered with pending | placed | ⟨reason, left⟩
        · exact .inl ((List.mem_erase_of_ne same).mpr pending)
        · exact .inr (.inl placed)
        · exact .inr (.inr ⟨reason, List.mem_append_left _ left⟩)
  | cyclic =>
      rcases covered with pending | placed | ⟨reason, left⟩
      · exact .inr (.inr ⟨_, List.mem_append_right _ (List.mem_map.mpr ⟨index, pending, rfl⟩)⟩)
      · exact .inr (.inl placed)
      · exact .inr (.inr ⟨reason, List.mem_append_left _ left⟩)

theorem turns_covers (manifests : Nat → ModuleManifest) (more : Nat) {index : Nat}
    (covered : state.Covers index) :
    (turns manifests more state).Covers index := by
  induction more generalizing state with
  | zero => exact covered
  | succ more ih => exact ih ((step_turn manifests state).covers covered)

end BatchOrder

theorem resolve_covers (manifests : List ModuleManifest) (initiallyAvailable : List String)
    {index : Nat} (listed : index < manifests.length) :
    index ∈ (resolve manifests initiallyAvailable).order ∨
      ∃ reason, (index, reason) ∈ (resolve manifests initiallyAvailable).unresolved := by
  have entry : (manifests[index], index) ∈ manifests.zipIdx :=
    List.mem_zipIdx_iff_getElem?.mpr (List.getElem?_eq_getElem listed)
  have covered : BatchOrder.Covers
      ⟨(separate manifests).1, initiallyAvailable, ⟨[], (separate manifests).2⟩⟩ index := by
    unfold separate BatchOrder.Covers
    dsimp only
    cases clashes : clash manifests manifests[index] with
    | none =>
        refine .inl (List.mem_map.mpr ⟨_, List.mem_filter.mpr ⟨entry, ?_⟩, rfl⟩)
        rw [clashes]
        rfl
    | some reason =>
        refine .inr (.inr ⟨reason, List.mem_filterMap.mpr ⟨_, entry, ?_⟩⟩)
        rw [clashes]
        rfl
  have settled := BatchOrder.turns_settle (manifestAt manifests) (separate manifests).1.length
    ⟨(separate manifests).1, initiallyAvailable, ⟨[], (separate manifests).2⟩⟩ (Nat.le_refl _)
  rcases BatchOrder.turns_covers (manifestAt manifests)
    (separate manifests).1.length covered with pending | placed
  · rw [settled] at pending
    exact absurd pending List.not_mem_nil
  · exact placed

theorem resolve_ordered (manifests : List ModuleManifest) (initiallyAvailable : List String)
    {early late : List Nat} {index : Nat}
    (placed : (resolve manifests initiallyAvailable).order = early ++ index :: late)
    {name : String} (needed : name ∈ (manifestAt manifests index).needed) :
    name ∈ initiallyAvailable ∨
      ∃ earlier ∈ early, name ∈ (manifestAt manifests earlier).provided := by
  have grounded : BatchOrder.Grounded (manifestAt manifests) initiallyAvailable
      ⟨(separate manifests).1, initiallyAvailable, ⟨[], (separate manifests).2⟩⟩ := by
    refine ⟨fun name listed => .inl listed, ?_⟩
    intro early index late split
    cases early with
    | nil => cases split
    | cons => cases split
  exact (BatchOrder.turns_grounded _ grounded).ordered early index late placed name needed

/-! ### From a request to a record -/

/-- The entry points of the loader. -/
inductive Admission where
  | file
  | sidecar
  | linked
  | linkedSetup
  | lazyFile
  | directory
  | callbacks
  | requirements
  deriving DecidableEq

namespace Admission

/-- Whether the entry point asks for the providers of what a module needs;
`load_file_with_requirements` leaves that to `activate`, which does not. -/
def ensuresDependencies : Admission → Bool
  | .requirements => false
  | _ => true

/-- Whether `record_rejection` sees the error that the entry point returns. -/
def recordsErrors : Admission → Bool
  | .file => true
  | .sidecar => true
  | .directory => true
  | _ => false

def recordsMissing : Admission → Bool
  | .file => true
  | .directory => true
  | _ => false

def recordsRefusals : Admission → Bool
  | .callbacks => false
  | _ => true

def defersSetup : Admission → Bool
  | .linkedSetup => true
  | .callbacks => true
  | _ => false

end Admission

/-- A load with what its surroundings make of it: the outcome of the identity
checks, of an eager initializer, of the reservation of the name and of the start
of the transport. -/
structure LoadRequest where
  admission : Admission
  file : String
  manifest : ModuleManifest
  validated : Except String ModuleInfo
  initialized : Except String Unit
  nameFree : Bool
  starts : Bool
  unique : BusName
  transport : TransportView

namespace LoadRequest

def eager (request : LoadRequest) : Bool :=
  !request.admission.defersSetup && !request.manifest.lazyInit

def refused (request : LoadRequest) (reason : String) : Error :=
  .moduleRefused request.file reason

end LoadRequest

/-- How a load ended, and whether it came as far as the module's initializer or its
registration for a later one. -/
structure LoadResult where
  result : Except Error ModuleInfo
  activated : Bool

namespace ModuleHost

/-- The interfaces of every record, whatever has become of its module. -/
def providedInterfaces (host : ModuleHost) : List String :=
  host.loaded.flatMap (fun module => module.info.manifest.provided)

def ensureDependencies (host : ModuleHost) (manifest : ModuleManifest) (file : String) :
    Except Error Unit :=
  if manifest.needed.any (fun name => !host.providedInterfaces.contains name) then
    .error (.moduleRefused file "a required interface has no provider")
  else .ok ()

def refuseLoad (host : ModuleHost) (request : LoadRequest) (recorded : Bool)
    (reason : String) (refusal : RefusalClass) : Except Error ModuleInfo × ModuleHost :=
  let error := request.refused reason
  (.error error,
    if recorded then host.recordManifestRejection error request.manifest refusal else host)

/-- The peer is staged and the name reserved before the record is published. -/
def attachTransport (host : ModuleHost) (request : LoadRequest) (admitted : ModuleInfo) :
    Except Error ModuleInfo × ModuleHost :=
  if request.nameFree = false then
    host.refuseLoad request true "module bus name is already owned" .unresolved
  else
    let published := host.publish admitted request.unique request.transport
    if request.starts then (.ok admitted, published)
    else (published.unpublish request.unique).refuseLoad request true
      "module transport could not start" .failed

def activate (host : ModuleHost) (request : LoadRequest) : LoadResult × ModuleHost :=
  let recorded := request.admission.recordsRefusals
  match request.validated with
  | .error reason =>
      let (result, after) := host.refuseLoad request recorded reason .rejected
      (⟨result, false⟩, after)
  | .ok info =>
      if host.loaded.any (fun loaded => loaded.info.name = info.name) then
        let (result, after) :=
          host.refuseLoad request recorded "module name is already loaded" .unresolved
        (⟨result, false⟩, after)
      else
        match request.eager, request.initialized with
        | true, .error reason =>
            let (result, after) := host.refuseLoad request recorded reason .failed
            (⟨result, true⟩, after)
        | eager, _ =>
            let (result, after) := host.attachTransport request
              { info with state := if eager then .initializing else .resolved }
            (⟨result, true⟩, after)

/-- A load, up to the error that its entry point records. -/
def attempt (host : ModuleHost) (request : LoadRequest) : LoadResult × ModuleHost :=
  if request.admission.ensuresDependencies then
    match host.ensureDependencies request.manifest request.file with
    | .error error =>
        (⟨.error error, false⟩,
          if request.admission.recordsMissing then
            host.recordManifestRejection error request.manifest .unresolved
          else host)
    | .ok () => host.activate request
  else host.activate request

def load (host : ModuleHost) (request : LoadRequest) : LoadResult × ModuleHost :=
  let (outcome, after) := host.attempt request
  match outcome.result with
  | .ok _ => (outcome, after)
  | .error error =>
      (outcome, if request.admission.recordsErrors then after.recordRejection error else after)

/-- Order a batch by what is provided now; what is left out is recorded. -/
def scan (host : ModuleHost) (requests : List LoadRequest) : ModuleHost × List LoadRequest :=
  let resolution := resolve (requests.map LoadRequest.manifest) host.providedInterfaces
  (resolution.unresolved.foldl (fun host (index, reason) =>
      match requests[index]? with
      | none => host
      | some request => (host.refuseLoad request true reason .unresolved).2) host,
    resolution.order.filterMap (fun index =>
      (requests[index]?).map (fun request => { request with admission := .directory })))

end ModuleHost

/-! ### Loads among everything else -/

/-- What happens to a host: a load, a scan of a directory, the load of the next
manifest that a scan put in order, and every other change of its records. -/
inductive LoaderEvent where
  | load (request : LoadRequest)
  | scan (requests : List LoadRequest)
  | loadNext
  | host (event : HostEvent)

/-- A host with what its scans have still to load, and the modules that were
activated, each with the host it met. -/
structure Loader where
  host : ModuleHost
  queue : List LoadRequest
  activations : List (ModuleManifest × ModuleHost)

namespace Loader

def empty : Loader := { host := ModuleHost.empty, queue := [], activations := [] }

def perform (loader : Loader) (request : LoadRequest) : Loader :=
  { loader with
    host := (loader.host.load request).2
    activations :=
      if (loader.host.load request).1.activated then
        loader.activations ++ [(request.manifest, loader.host)]
      else loader.activations }

def next (loader : Loader) : LoaderEvent → Loader
  | .load request => loader.perform request
  | .scan requests =>
      { loader with
        host := (loader.host.scan requests).1
        queue := loader.queue ++ (loader.host.scan requests).2 }
  | .loadNext =>
      match loader.queue with
      | [] => loader
      | request :: rest => { loader.perform request with queue := rest }
  | .host event => { loader with host := loader.host.next event }

def system : System Loader LoaderEvent := System.ofFunction (· = empty) next

/-- The load that an event is. -/
def request (loader : Loader) : LoaderEvent → Option LoadRequest
  | .load request => some request
  | .loadNext => loader.queue.head?
  | _ => none

end Loader

/-- A live module, one whose calls are not refused, provides what is needed at a
version that both sides accept. -/
def ModuleHost.Provides (host : ModuleHost) (dependency : Dependency) : Prop :=
  ∃ module ∈ host.loaded, module.refuses = false ∧
    ∃ provided ∈ module.info.manifest.provides,
      provided.version.interface = dependency.interface.interface ∧
        provided.version.compatible dependency.interface = true

/-- Every module that was activated had its needs provided at that moment. -/
def Loader.Supported (loader : Loader) : Prop :=
  ∀ manifest host, (manifest, host) ∈ loader.activations →
    ∀ dependency ∈ manifest.requires, dependency.optional = false → host.Provides dependency

/-- The records of a host are right about what a manifest needs: whoever lists such
an interface is live and provides it at a compatible version. -/
def ModuleHost.RightAbout (host : ModuleHost) (manifest : ModuleManifest) : Prop :=
  ∀ module ∈ host.loaded, ∀ provided ∈ module.info.manifest.provides,
    ∀ dependency ∈ manifest.requires, dependency.optional = false →
      provided.version.interface = dependency.interface.interface →
        module.refuses = false ∧ provided.version.compatible dependency.interface = true

/-- A load goes through an entry point that asks for providers, at a host whose
records are right about them. -/
def Loader.Careful (loader : Loader) (event : LoaderEvent) : Prop :=
  ∀ request, loader.request event = some request →
    request.admission.ensuresDependencies = true ∧ loader.host.RightAbout request.manifest

namespace ModuleHost

theorem ensureDependencies_ok {host : ModuleHost} {manifest : ModuleManifest} {file : String}
    (ensured : host.ensureDependencies manifest file = .ok ()) {dependency : Dependency}
    (needed : dependency ∈ manifest.requires) (required : dependency.optional = false) :
    ∃ module ∈ host.loaded, ∃ provided ∈ module.info.manifest.provides,
      provided.version.interface = dependency.interface.interface := by
  unfold ensureDependencies at ensured
  split at ensured
  · cases ensured
  · rename_i complete
    have listed : dependency.interface.interface.text ∈ manifest.needed := by
      unfold ModuleManifest.needed ModuleManifest.needs
      refine List.mem_map.mpr ⟨dependency, List.mem_filter.mpr ⟨needed, ?_⟩, rfl⟩
      rw [required]
      rfl
    have provided : host.providedInterfaces.contains dependency.interface.interface.text =
        true := by
      by_contra missing
      apply complete
      refine List.any_eq_true.mpr ⟨_, listed, ?_⟩
      rw [Bool.not_eq_true] at missing
      rw [missing]
      rfl
    obtain ⟨module, member, lists⟩ := List.mem_flatMap.mp (List.contains_iff_mem.mp provided)
    obtain ⟨offer, offered, same⟩ := List.mem_map.mp lists
    refine ⟨module, member, offer, offered, ?_⟩
    cases first : offer.version.interface with
    | mk text valid =>
        rw [first] at same
        cases second : dependency.interface.interface with
        | mk other validOther =>
            rw [second] at same
            dsimp only at same
            subst same
            rfl

theorem load_ensured {host : ModuleHost} {request : LoadRequest}
    (asks : request.admission.ensuresDependencies = true)
    (activated : (host.load request).1.activated = true) :
    host.ensureDependencies request.manifest request.file = .ok () := by
  have same : (host.load request).1 = (host.attempt request).1 := by
    unfold load
    dsimp only
    split
    · rfl
    · rfl
  rw [same] at activated
  unfold attempt at activated
  rw [if_pos asks] at activated
  split at activated
  · cases activated
  · rename_i ensured
    exact ensured

theorem RightAbout.provides {host : ModuleHost} {manifest : ModuleManifest} {file : String}
    (right : host.RightAbout manifest)
    (ensured : host.ensureDependencies manifest file = .ok ()) {dependency : Dependency}
    (needed : dependency ∈ manifest.requires) (required : dependency.optional = false) :
    host.Provides dependency := by
  obtain ⟨module, member, provided, offered, same⟩ :=
    ensureDependencies_ok ensured needed required
  obtain ⟨live, compatible⟩ :=
    right module member provided offered dependency needed required same
  exact ⟨module, member, live, provided, offered, same, compatible⟩

end ModuleHost

namespace Loader

theorem perform_supported {loader : Loader} (supported : loader.Supported)
    {request : LoadRequest} (asks : request.admission.ensuresDependencies = true)
    (right : loader.host.RightAbout request.manifest) :
    (loader.perform request).Supported := by
  intro manifest host member dependency needed required
  unfold perform at member
  dsimp only at member
  split at member
  · rename_i activated
    rcases List.mem_append.mp member with old | new
    · exact supported manifest host old dependency needed required
    · cases List.mem_singleton.mp new
      exact right.provides (ModuleHost.load_ensured asks activated) needed required
  · exact supported manifest host member dependency needed required

/-- In a run whose loads are careful every activated module was supported. -/
theorem careful_supported {loader : Loader}
    (reached : (system.restrict Careful).Reachable loader) : loader.Supported := by
  apply reached.invariant
  · rintro first rfl manifest host member
    exact absurd member List.not_mem_nil
  · rintro before event after ⟨careful, rfl⟩ supported
    cases event with
    | load request =>
        obtain ⟨asks, right⟩ := careful request rfl
        exact perform_supported supported asks right
    | scan requests => exact supported
    | loadNext =>
        change (match before.queue with
          | [] => before
          | request :: rest => { before.perform request with queue := rest }).Supported
        cases queued : before.queue with
        | nil => exact supported
        | cons request rest =>
            have head : before.request .loadNext = some request := by
              unfold Loader.request
              rw [queued]
              rfl
            obtain ⟨asks, right⟩ := careful request head
            exact perform_supported supported asks right
    | host event => exact supported

/-! ### A module that needs another -/

def speech : InterfaceVersion :=
  ⟨⟨"ai.tinyhumans.openhuman.Speech", by rfl⟩, ⟨1, 0, 0, none⟩,
    Version.compatibleSeries ⟨1, 0, 0, none⟩⟩

def speechManifest : ModuleManifest :=
  { ModuleBus.voiceManifest with
    module := ⟨"speech", ⟨1, 0, 0, none⟩, "", none, ""⟩
    busName := ModuleHost.speechName
    provides := [⟨speech, [], []⟩] }

def chatManifest : ModuleManifest :=
  { ModuleBus.voiceManifest with
    module := ⟨"chat", ⟨1, 0, 0, none⟩, "", none, ""⟩
    busName := ⟨"ai.tinyhumans.openhuman.Chat", by rfl⟩
    requires := [⟨{ speech with accepts := Version.caret ⟨1, 0, 0, none⟩ }, false, ""⟩] }

def loadOf (name : String) (manifest : ModuleManifest) (unique : Nat) : LoadRequest :=
  { admission := .file, file := name, manifest := manifest,
    validated := .ok { ModuleBus.voiceInfo with name := name, file := name, manifest := manifest },
    initialized := .ok (), nameFree := true, starts := true, unique := BusName.unique unique,
    transport := ModuleBus.quietTransport }

def provided : Loader := empty.next (.load (loadOf "speech" speechManifest 1))

def chatLoaded : Loader := provided.next (.load (loadOf "chat" chatManifest 2))

theorem chatLoaded_supported :
    chatLoaded.activations.map (fun entry => entry.1.module.name) = ["speech", "chat"] ∧
      chatLoaded.Supported := by
  have first : (system.restrict Careful).step empty
      (.load (loadOf "speech" speechManifest 1)) provided := by
    refine ⟨?_, rfl⟩
    rintro request same
    cases same
    exact ⟨rfl, fun module member => absurd member List.not_mem_nil⟩
  have second : (system.restrict Careful).step provided
      (.load (loadOf "chat" chatManifest 2)) chatLoaded := by
    refine ⟨?_, rfl⟩
    rintro request same
    cases same
    refine ⟨rfl, ?_⟩
    intro module member offer offered dependency needed required named
    cases List.mem_singleton.mp member
    cases List.mem_singleton.mp offered
    cases List.mem_singleton.mp needed
    decide
  exact ⟨by decide, careful_supported ⟨empty, _, rfl, .snoc (.snoc .nil first) second⟩⟩

def chatStranded : Loader :=
  (provided.next (.host (.module (.named "speech") (.finishStop .stopped)))).next
    (.load (loadOf "chat" chatManifest 2))

theorem chatStranded_activated :
    ¬ ∀ loader : Loader, system.Reachable loader → loader.Supported := by
  intro always
  have reached : system.Reachable chatStranded :=
    ⟨empty, _, rfl, .snoc (.snoc (.snoc .nil rfl) rfl) rfl⟩
  have activated : (chatManifest,
      (provided.next (.host (.module (.named "speech") (.finishStop .stopped)))).host) ∈
      chatStranded.activations := List.mem_cons_of_mem _ (List.mem_singleton.mpr rfl)
  obtain ⟨module, member, live, _⟩ :=
    always _ reached _ _ activated _ (List.mem_singleton.mpr rfl) rfl
  cases List.mem_singleton.mp member
  cases live

end Loader

end TinyBus
