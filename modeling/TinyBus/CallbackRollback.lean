import TinyBus.CallbackLoads
import TinyBus.CallbackPeers

/-
What a failed load leaves of the other modules.  Each stage of a load and of its
rollback spares every module that was loaded before, unless the binding of the
load belongs to that module.
-/

namespace TinyBus

open TransitionSystem

namespace CallbackHost

open Bindings

/-! ### What a load leaves of a module -/

/-- The record of the module, its peer, names and attestations and its bindings
are what they were. -/
structure Keeps (before after : CallbackHost) (module : LoadedModule) : Prop where
  record : module ∈ after.host.loaded
  callbackState : after.callbackStates.lookup module.uniqueName =
    before.callbackStates.lookup module.uniqueName
  bindings : Spares module.uniqueName before.bindings after.bindings

theorem Keeps.trans {first middle last : CallbackHost} {module : LoadedModule}
    (early : Keeps first middle module) (late : Keeps middle last module) :
    Keeps first last module where
  record := late.record
  callbackState := late.callbackState.trans early.callbackState
  bindings := early.bindings.trans late.bindings

/-- In the course of a load: the modules that were there before, apart from the
binding of the load and from the peer it attaches. -/
structure Course (olds : List LoadedModule) (id : CallbackId) (unique : BusName)
    (host : CallbackHost) : Prop where
  placed : Placed host.bindings host.moduleNames
  listed : ∀ module ∈ olds, module ∈ host.host.loaded
  foreign : ∀ module ∈ olds, host.bindings.Foreign module.uniqueName id
  fresh : ∀ module ∈ olds, module.uniqueName ≠ unique
  owned : ∀ other capability, host.bindings.router.callbacks.lookup other = some capability →
    capability.destination ≠ unique
  minted : unique.isUnique = true

def Stays (before after : CallbackHost) : Prop :=
  ∀ id capability, before.bindings.router.callbacks.lookup id = some capability →
    ∃ later, after.bindings.router.callbacks.lookup id = some later ∧
      (capability.revoked = true → later.revoked = true)

structure Advances (olds : List LoadedModule) (id : CallbackId) (unique : BusName)
    (before after : CallbackHost) : Prop where
  course : Course olds id unique after
  keeps : ∀ module ∈ olds, Keeps before after module
  stays : Stays before after

variable {olds : List LoadedModule} {id : CallbackId} {unique : BusName}
  {host before middle after : CallbackHost} {load : CallbackLoad}

theorem Stays.of_bindings (same : after.bindings.router = before.bindings.router) :
    Stays before after := by
  intro id capability found
  exact ⟨capability, same ▸ found, fun revoked => revoked⟩

theorem Advances.trans (early : Advances olds id unique before middle)
    (late : Advances olds id unique middle after) : Advances olds id unique before after where
  course := late.course
  keeps := fun module member => (early.keeps module member).trans (late.keeps module member)
  stays := by
    intro other capability found
    obtain ⟨held, here, first⟩ := early.stays other capability found
    obtain ⟨later, there, second⟩ := late.stays other held here
    exact ⟨later, there, fun revoked => second (first revoked)⟩

theorem Course.member (course : Course olds id unique host) {module : LoadedModule}
    (old : module ∈ olds) : module.uniqueName ∈ host.moduleNames :=
  List.mem_map.mpr ⟨module, course.listed module old, rfl⟩

theorem Course.steady (course : Course olds id unique host) {bindings : Bindings}
    (steady : Steady host.bindings bindings) (moves : Moves host.bindings bindings)
    (spares : ∀ module ∈ olds, Spares module.uniqueName host.bindings bindings) :
    Advances olds id unique host { host with bindings := bindings } where
  course :=
    { placed := course.placed.steady steady (moves.lawful course.placed.lawful)
        (fun _ member => member)
      listed := course.listed
      foreign := by
        intro module old capability found bound
        obtain ⟨held, had, _, same⟩ := steady.origin id capability found
        exact course.foreign module old held had (same.symm.trans bound)
      fresh := course.fresh
      owned := by
        intro other capability found
        obtain ⟨held, had, same, _⟩ := steady.origin other capability found
        rw [same]
        exact course.owned other held had
      minted := course.minted }
  keeps := fun module old => ⟨course.listed module old, rfl, spares module old⟩
  stays := fun _ _ found => moves.stays course.placed.lawful found

theorem Course.event (course : Course olds id unique host) {event : BindingEvent}
    (possible : host.bindings.Possible event) (makes : event.makes = false)
    (spares : ∀ module ∈ olds,
      Spares module.uniqueName host.bindings (host.bindings.after event)) :
    Advances olds id unique host { host with bindings := host.bindings.after event } :=
  course.steady (after_steady possible makes) (after_moves course.placed.lawful possible) spares

theorem Course.attach (course : Course olds id unique host) (outbox : Outbox) :
    Advances olds id unique host (host.routed (.attach outbox)) :=
  course.event ⟨trivial, rfl, fun _ _ _ _ removes => nomatch removes⟩ rfl
    (fun _ old => .attach course.placed (course.member old) outbox)

theorem Course.requestName (course : Course olds id unique host) (name : BusName) :
    Advances olds id unique host (host.routed (.requestNameForUnique unique name)) :=
  course.event ⟨trivial, rfl, fun _ _ _ _ removes => nomatch removes⟩ rfl
    (fun module old => .requestName course.placed (course.member old) course.minted
      (course.fresh module old).symm name)

theorem Course.setAttestation (course : Course olds id unique host)
    (attestation : Attestation) :
    Advances olds id unique host
      (host.routed (.setAttestationForUnique unique attestation)) :=
  course.event ⟨trivial, rfl, fun _ _ _ _ removes => nomatch removes⟩ rfl
    (fun module old => .setAttestation course.placed (course.member old) course.minted
      (course.fresh module old).symm attestation)

theorem Course.detachUnique (course : Course olds id unique host) {peer : BusName}
    (minted : peer.isUnique = true) (different : ∀ module ∈ olds, module.uniqueName ≠ peer)
    (closed : ∀ other capability,
      host.bindings.router.callbacks.lookup other = some capability →
        capability.destination = peer → capability.revoked = true)
    (elsewhere : ∀ module ∈ olds, ∀ other capability,
      host.bindings.router.callbacks.lookup other = some capability →
        capability.module = some module.uniqueName → capability.destination ≠ peer) :
    Advances olds id unique host (host.routed (.detachUnique peer)) := by
  refine course.event ⟨trivial, rfl, ?_⟩ rfl ?_
  · intro other capability found unrevoked removes
    have same := removes_detachUnique course.placed.lawful.consistent minted removes
    rw [closed other capability found same] at unrevoked
    cases unrevoked
  · intro module old
    exact .detachUnique course.placed (course.member old) minted (different module old).symm
      (elsewhere module old)

theorem Course.unattach (course : Course olds id unique host) :
    Advances olds id unique host (host.routed (.detachUnique unique)) :=
  course.detachUnique course.minted course.fresh
    (fun other capability found same => absurd same (course.owned other capability found))
    (fun _ _ other capability found _ => course.owned other capability found)

theorem Course.rejected (course : Course olds id unique host) (error : Error)
    (manifest : ModuleManifest) (refusal : RefusalClass) :
    Advances olds id unique host (host.rejected error manifest refusal) := by
  have loaded : (host.rejected error manifest refusal).host.loaded = host.host.loaded := by
    unfold CallbackHost.rejected ModuleHost.recordManifestRejection ModuleHost.recordRejected
    split <;> rfl
  have names : (host.rejected error manifest refusal).moduleNames = host.moduleNames :=
    congrArg (List.map LoadedModule.uniqueName) loaded
  refine ⟨⟨?_, ?_, course.foreign, course.fresh, course.owned, course.minted⟩, ?_,
    .of_bindings rfl⟩
  · rw [names]
    exact course.placed
  · intro module old
    rw [loaded]
    exact course.listed module old
  · intro module old
    refine ⟨?_, rfl, .refl _ _⟩
    rw [loaded]
    exact course.listed module old

theorem Course.forget (course : Course olds id unique host) :
    Advances olds id unique host (host.forget unique) := by
  have kept (module : LoadedModule) (old : module ∈ olds) :
      module ∈ (host.forget unique).host.loaded :=
    List.mem_filter.mpr ⟨course.listed module old, decide_eq_true (course.fresh module old)⟩
  refine ⟨⟨?_, kept, course.foreign, course.fresh, course.owned, course.minted⟩, ?_,
    .of_bindings rfl⟩
  · refine course.placed.steady (.of_callbacks (Nat.le_refl _) rfl) course.placed.lawful ?_
    intro name member
    obtain ⟨module, listed, rfl⟩ := List.mem_map.mp member
    exact List.mem_map.mpr ⟨module, List.mem_of_mem_filter listed, rfl⟩
  · intro module old
    refine ⟨kept module old, ?_, .refl _ _⟩
    exact AList.lookup_erase_ne (course.fresh module old)

theorem Course.revoke (course : Course olds id unique host) :
    Advances olds id unique host { host with bindings := host.bindings.revoke id } := by
  have possible : host.bindings.Possible (.revoke id) := trivial
  exact course.event possible rfl
    (fun module old => .revoke course.placed.lawful (course.foreign module old))

theorem Course.consume (course : Course olds id unique host) :
    Advances olds id unique host { host with bindings := (host.bindings.consume id).2 } := by
  have possible : host.bindings.Possible (.consume id) := trivial
  refine course.event possible rfl ?_
  intro module old
  change Spares module.uniqueName host.bindings (host.bindings.consume id).2
  rcases host.bindings.consume_cases id with ⟨error, failed⟩ | ⟨_, _, _, _, consumed⟩
  · rw [failed]
    exact .refl _ _
  · rw [consumed]
    exact .noted (course.foreign module old) _

theorem Course.publish (course : Course olds id unique host) {number : PeerId}
    (named : unique = BusName.unique number) (attached : number ≤ host.bindings.router.nextId)
    (info : ModuleInfo) (transport : TransportView) :
    Advances olds id unique host
      { host with host := host.host.publish info unique transport } := by
  have kept (module : LoadedModule) (old : module ∈ olds) :
      module ∈ (host.host.publish info unique transport).loaded :=
    List.mem_append_left _ (course.listed module old)
  have names : CallbackHost.moduleNames
      { host with host := host.host.publish info unique transport } =
        host.moduleNames ++ [unique] := List.map_append
  refine ⟨⟨?_, kept, course.foreign, course.fresh, course.owned, course.minted⟩,
    fun module old => ⟨kept module old, rfl, .refl _ _⟩, .of_bindings rfl⟩
  rw [names]
  refine ⟨course.placed.lawful, ?_, course.placed.destinations, ?_, course.placed.apart,
    course.placed.distinct⟩
  · intro name member
    rcases List.mem_append.mp member with old | new
    · exact course.placed.minted name old
    · exact ⟨number, (List.mem_singleton.mp new).trans named, attached⟩
  · intro other capability found member
    rcases List.mem_append.mp member with old | new
    · exact course.placed.owned other capability found old
    · exact course.owned other capability found (List.mem_singleton.mp new)

theorem Course.recorded (course : Course olds id unique host) (binding : CallbackId) :
    Advances olds id unique host
      { host with callbackStates := host.callbackStates.insert unique binding } where
  course := ⟨course.placed, course.listed, course.foreign, course.fresh, course.owned,
    course.minted⟩
  keeps := by
    intro module old
    refine ⟨course.listed module old, ?_, .refl _ _⟩
    exact AList.lookup_insert_ne (course.fresh module old)
  stays := .of_bindings rfl

theorem Course.bind (course : Course olds id unique host) {number : PeerId}
    (named : unique = BusName.unique number) (attached : number ≤ host.bindings.router.nextId)
    (live : Bool) :
    Advances olds id unique host
      { host with bindings := (host.bindings.bind id unique live).2 } := by
  have placed := course.placed.bind id live attached
    (fun other held found => named ▸ course.owned other held found)
  rw [← named] at placed
  have spares (module : LoadedModule) (_ : module ∈ olds) :
      Spares module.uniqueName host.bindings (host.bindings.bind id unique live).2 :=
    .bind id live
  have lookup (other : CallbackId) (held : CallbackState)
      (found : (host.bindings.bind id unique live).2.router.callbacks.lookup other = some held) :
      ∃ old, host.bindings.router.callbacks.lookup other = some old ∧
        held.destination = old.destination ∧
          (held.module = old.module ∨ held.module = some unique) := by
    rcases host.bindings.bind_cases id unique live with
      ⟨error, failed⟩ | ⟨capability, here, unrevoked, unbound, taken⟩
    · rw [failed] at found
      exact ⟨held, found, rfl, .inl rfl⟩
    · rw [taken] at found
      change (host.bindings.router.callbacks.modify id _).lookup other = some held at found
      rw [Table.lookup_modify] at found
      by_cases same : other = id
      · rw [if_pos same, here, Option.map_some, bindModule_of_free unrevoked unbound] at found
        cases found
        exact ⟨capability, same ▸ here, rfl, .inr rfl⟩
      · rw [if_neg same] at found
        exact ⟨held, found, rfl, .inl rfl⟩
  have possible : host.bindings.Possible (.bind id unique live) := ⟨number, named, attached⟩
  have moves := after_moves course.placed.lawful possible
  refine ⟨⟨placed, course.listed, ?_, course.fresh, ?_, course.minted⟩,
    fun module old => ⟨course.listed module old, rfl, spares module old⟩,
    fun _ _ found => moves.stays course.placed.lawful found⟩
  · intro module old capability found bound
    obtain ⟨held, had, _, same | other⟩ := lookup id capability found
    · exact course.foreign module old held had (same.symm.trans bound)
    · rw [other] at bound
      exact course.fresh module old (Option.some.inj bound).symm
  · intro other capability found
    obtain ⟨held, had, same, _⟩ := lookup other capability found
    rw [same]
    exact course.owned other held had

theorem Course.register (course : Course olds id unique host) :
    Advances olds id unique host
      { host with bindings := (host.bindings.register id).2 } := by
  have possible : host.bindings.Possible (.register id) := trivial
  exact course.event possible rfl (fun module old => .register (course.foreign module old))

private theorem mem_updateFirst {test : LoadedModule → Bool}
    (change : LoadedModule → LoadedModule) {module : LoadedModule}
    (spared : test module = false) {modules : List LoadedModule} (member : module ∈ modules) :
    module ∈ updateFirst test change modules := by
  induction modules with
  | nil => cases member
  | cons head rest ih =>
      unfold updateFirst
      split
      · rename_i chosen
        rcases List.mem_cons.mp member with first | later
        · rw [← first, spared] at chosen
          cases chosen
        · exact List.mem_cons_of_mem _ later
      · rcases List.mem_cons.mp member with first | later
        · exact List.mem_cons.mpr (.inl first)
        · exact List.mem_cons_of_mem _ (ih later)

theorem move_uniqueName (module : LoadedModule) (move : ModuleMove) :
    (module.move move).uniqueName = module.uniqueName := (module.move_same move).2.2

theorem Course.moved (course : Course olds id unique host) (move : ModuleMove) :
    Advances olds id unique host
      { host with
        host := host.host.update (.peer unique) (fun module => module.move move) } := by
  have kept (module : LoadedModule) (old : module ∈ olds) :
      module ∈ (host.host.update (.peer unique) (fun module => module.move move)).loaded :=
    mem_updateFirst _ (decide_eq_false (course.fresh module old)) (course.listed module old)
  have names : CallbackHost.moduleNames { host with
      host := host.host.update (.peer unique) (fun module => module.move move) } =
        host.moduleNames := updateFirst_map _ _ (fun module => move_uniqueName module move) _
  refine ⟨⟨?_, kept, course.foreign, course.fresh, course.owned, course.minted⟩,
    fun module old => ⟨kept module old, rfl, .refl _ _⟩, .of_bindings rfl⟩
  rw [names]
  exact course.placed

/-! ### The stages of a load -/

theorem Course.attachTransport (course : Course olds id host.nextPeer host)
    (load : CallbackLoad) (admitted : AdmittedArtifact) :
    Advances olds id host.nextPeer host (host.attachTransport load admitted).2 ∧
      host.bindings.router.nextId + 1 ≤
        (host.attachTransport load admitted).2.bindings.router.nextId := by
  have staged := course.attach load.outbox
  have later (before : CallbackHost) (op : RouterOp)
      (bound : host.bindings.router.nextId + 1 ≤ before.bindings.router.nextId) :
      host.bindings.router.nextId + 1 ≤ (before.routed op).bindings.router.nextId :=
    Nat.le_trans bound (Router.perform_nextId_le _ _)
  have first : host.bindings.router.nextId + 1 ≤
      (host.routed (.attach load.outbox)).bindings.router.nextId := Nat.le_refl _
  unfold CallbackHost.attachTransport
  dsimp only
  split
  · have refused := staged.course.rejected (load.refused "module bus name is already owned")
      admitted.manifest .unresolved
    exact ⟨(staged.trans refused).trans refused.course.unattach, later _ _ first⟩
  · have reserved := staged.course.requestName admitted.info.manifest.busName
    have attested := reserved.course.setAttestation admitted.attestation
    have attached := (staged.trans reserved).trans attested
    have bound := later _ (.setAttestationForUnique host.nextPeer admitted.attestation)
      (later _ (.requestNameForUnique host.nextPeer admitted.info.manifest.busName) first)
    split
    · exact ⟨attached.trans (attested.course.publish rfl bound _ _), bound⟩
    · have detached := attested.course.unattach
      exact ⟨(attached.trans detached).trans (detached.course.rejected _ _ _), later _ _ bound⟩

theorem Course.grant (course : Course olds load.binding unique host) {number : PeerId}
    (named : unique = BusName.unique number) (attached : number ≤ host.bindings.router.nextId) :
    Advances olds load.binding unique host (host.grant load unique).2 := by
  have bound := course.bind named attached load.live
  unfold CallbackHost.grant
  rcases host.bindings.bind_cases load.binding unique load.live with
    ⟨error, failed⟩ | ⟨capability, found, unrevoked, unbound, taken⟩
  · rw [failed]
    exact ⟨course, fun module old => ⟨course.listed module old, rfl, .refl _ _⟩,
      .of_bindings rfl⟩
  · rw [taken] at bound ⊢
    have recorded := bound.course.recorded load.binding
    have held := bound.trans recorded
    have registered := recorded.course.register
    dsimp only at held registered ⊢
    generalize ran : Bindings.register _ load.binding = outcome at registered ⊢
    obtain ⟨result, bindings⟩ := outcome
    cases result with
    | error error => exact held
    | ok done => exact held.trans registered

theorem Course.complete (course : Course olds load.binding unique host) :
    Advances olds load.binding unique host (host.complete load unique).2 := by
  unfold CallbackHost.complete
  cases load.completion with
  | initializationFailed =>
      have revoked := course.revoke
      exact revoked.trans revoked.course.forget
  | removed => exact course.forget
  | settled transport withdrawn =>
      have observed := course.moved (.transport transport)
      dsimp only
      split
      · exact observed
      · split
        · exact observed
        · exact observed

theorem Course.attempt (course : Course olds load.binding host.nextPeer host) :
    Advances olds load.binding host.nextPeer host (host.attempt load).host ∧
      ∀ peer, (host.attempt load).transport = some peer → peer = host.nextPeer := by
  unfold CallbackHost.attempt
  cases load.admission host.host with
  | error error =>
      exact ⟨⟨course, fun module old => ⟨course.listed module old, rfl, .refl _ _⟩,
        .of_bindings rfl⟩, fun _ none => nomatch none⟩
  | ok admitted =>
      dsimp only
      obtain ⟨attached, bound⟩ := course.attachTransport load admitted
      generalize made : host.attachTransport load admitted = outcome at attached bound ⊢
      obtain ⟨_ | _, after⟩ := outcome
      · exact ⟨attached, fun _ same => (Option.some.inj same).symm⟩
      · have granted := attached.course.grant rfl bound
        dsimp only at granted ⊢
        generalize gave : after.grant load host.nextPeer = outcome at granted ⊢
        obtain ⟨_ | _, later⟩ := outcome
        · exact ⟨attached.trans granted, fun _ same => (Option.some.inj same).symm⟩
        · exact ⟨(attached.trans granted).trans granted.course.complete,
            fun _ same => (Option.some.inj same).symm⟩

private theorem Course.close (course : Course olds id unique host)
    (revoked : ∀ capability, host.bindings.router.callbacks.lookup id = some capability →
      capability.revoked = true) :
    Advances olds id unique host
      (host.detached (host.bindings.router.destinationOf id)) := by
  unfold Router.destinationOf
  cases found : host.bindings.router.callbacks.lookup id with
  | none =>
      exact ⟨course, fun module old => ⟨course.listed module old, rfl, .refl _ _⟩,
        .of_bindings rfl⟩
  | some capability =>
      obtain ⟨number, name, _⟩ := course.placed.destinations id capability found
      refine course.detachUnique ?_ ?_ ?_ ?_
      · rw [name]
        exact BusName.isUnique_unique number
      · intro module old same
        exact course.placed.owned id capability found (same ▸ course.member old)
      · intro other held here same
        have binding := course.placed.distinct other held id capability here found same
        subst binding
        exact revoked held here
      · intro module old other held here bound same
        have binding := course.placed.distinct other held id capability here found same
        subst binding
        exact course.foreign module old held here bound

private theorem Course.withdraw (course : Course olds id unique host) :
    Advances olds id unique host (host.detached (host.rollbackPeer id unique)) := by
  unfold rollbackPeer modulePeer
  cases named : (host.bindings.router.callbacks.lookup id).bind CallbackState.module with
  | some peer =>
      obtain ⟨capability, found, bound⟩ := Option.bind_eq_some_iff.mp named
      obtain ⟨number, name, _⟩ := course.placed.lawful.minted id capability peer found bound
      refine course.detachUnique ?_ ?_ ?_ ?_
      · rw [name]
        exact BusName.isUnique_unique number
      · intro module old same
        exact course.foreign module old capability found (same ▸ bound)
      · intro other held here same
        exact absurd (same ▸ bound) (course.placed.apart other held id capability here found)
      · intro module old other held here _ same
        exact course.placed.apart other held id capability here found (same ▸ bound)
  | none =>
      rw [Option.none_or]
      split
      · exact course.unattach
      · exact ⟨course, fun module old => ⟨course.listed module old, rfl, .refl _ _⟩,
          .of_bindings rfl⟩

variable {transport : Option BusName}

private theorem Course.rollbackRest (course : Course olds id unique host)
    (attached : ∀ peer, transport = some peer → peer = unique) :
    Advances olds id unique { host with bindings := host.bindings.revoke id }
      (host.rollback id transport) := by
  have revoked := course.revoke
  have ended (capability : CallbackState)
      (found : (host.bindings.revoke id).router.callbacks.lookup id = some capability) :
      capability.revoked = true :=
    course.placed.lawful.revoke_ends (.inl rfl) capability found
  have closed := revoked.course.close ended
  unfold CallbackHost.rollback
  cases transport with
  | none => exact closed
  | some peer =>
      rw [attached peer rfl]
      have withdrawn := closed.trans closed.course.withdraw
      exact withdrawn.trans withdrawn.course.forget

theorem Course.rollback (course : Course olds id unique host)
    (attached : ∀ peer, transport = some peer → peer = unique) :
    Advances olds id unique host (host.rollback id transport) :=
  course.revoke.trans (course.rollbackRest attached)

theorem Course.rollback_revokes (course : Course olds id unique host)
    (attached : ∀ peer, transport = some peer → peer = unique) {capability : CallbackState}
    (found : host.bindings.router.callbacks.lookup id = some capability) :
    ∃ later, (host.rollback id transport).bindings.router.callbacks.lookup id = some later ∧
      later.revoked = true := by
  obtain ⟨middle, here, _⟩ := course.revoke.stays id capability found
  have ended := course.placed.lawful.revoke_ends (.inl rfl) middle here
  obtain ⟨later, there, stays⟩ := (course.rollbackRest attached).stays id middle here
  exact ⟨later, there, stays ended⟩

/-! ### The hosts that occur -/

/-- What can happen to a host, its loads included.  A module may come and go by
another entry point as well. -/
inductive Event where
  | binding (event : BindingEvent)
  | moved (selector : Selector) (move : ModuleMove)
  | published (info : ModuleInfo) (unique : BusName) (transport : TransportView)
  | removed (unique : BusName)
  | load (load : CallbackLoad)

def next (host : CallbackHost) : Event → CallbackHost
  | .binding event => { host with bindings := host.bindings.after event }
  | .moved selector move =>
      { host with host := host.host.update selector (fun module => module.move move) }
  | .published info unique transport =>
      { host with host := host.host.publish info unique transport }
  | .removed unique => host.forget unique
  | .load load => (host.loadFileWithHostCallbacks load).2

def empty : CallbackHost := ⟨.empty, .empty, ∅⟩

/-- A peer that a binding or a module is made for was attached for it alone, and
only a load gives a binding its module. -/
def Possible (host : CallbackHost) : Event → Prop
  | .binding (.prepare destination endpoints signals streamEndpoints) =>
      Unplaced host.bindings host.moduleNames destination ∧
        host.bindings.Possible (.prepare destination endpoints signals streamEndpoints)
  | .binding (.createChild id context endpoints destination) =>
      Unplaced host.bindings host.moduleNames destination ∧
        host.bindings.Possible (.createChild id context endpoints destination)
  | .binding (.bind ..) => False
  | .binding event => host.bindings.Possible event
  | .published _ unique _ => Unplaced host.bindings host.moduleNames unique
  | _ => True

def system : System CallbackHost Event :=
  (System.ofFunction (fun host => host = empty) next).restrict Possible

theorem start_course (placed : Placed host.bindings host.moduleNames)
    (listed : ∀ module ∈ olds, module ∈ host.host.loaded)
    (foreign : ∀ module ∈ olds, host.bindings.Foreign module.uniqueName id) :
    Course olds id host.nextPeer host where
  placed := placed
  listed := listed
  foreign := foreign
  fresh := by
    intro module old same
    obtain ⟨number, name, bound⟩ := placed.minted module.uniqueName
      (List.mem_map.mpr ⟨module, listed module old, rfl⟩)
    rw [name] at same
    rw [BusName.unique_injective same] at bound
    exact Nat.not_succ_le_self _ bound
  owned := by
    intro other capability found same
    obtain ⟨number, name, bound⟩ := placed.destinations other capability found
    rw [name] at same
    rw [BusName.unique_injective same] at bound
    exact Nat.not_succ_le_self _ bound
  minted := BusName.isUnique_unique _

/-! ### A whole load -/

/-- The binding passes the checks before its consumption. -/
def consumable (host : CallbackHost) (load : CallbackLoad) : Bool :=
  load.sameOwner && (host.bindings.find load.binding).any (fun held =>
    !held.2.used && !held.1.revoked &&
      held.2.served.length == requiredEndpointCount held.1.endpoints held.2.streamEndpoints)

private theorem consumable_iff (load : CallbackLoad) :
    host.consumable load = true ↔
      load.sameOwner = true ∧ (host.bindings.consume load.binding).1 = .ok () := by
  unfold CallbackHost.consumable Bindings.consume
  rw [Bool.and_eq_true]
  refine and_congr_right ?_
  intro _
  cases host.bindings.find load.binding with
  | none => exact iff_of_false Bool.false_ne_true (fun failed => nomatch failed)
  | some held =>
      obtain ⟨capability, binding⟩ := held
      rw [Option.any_some]
      dsimp only
      split
      · rename_i refused
        refine iff_of_false ?_ (fun failed => nomatch failed)
        rw [Bool.and_eq_true, Bool.and_eq_true, Bool.not_eq_true', Bool.not_eq_true']
        rintro ⟨⟨unused, unrevoked⟩, complete⟩
        rw [unused, unrevoked, bne, complete] at refused
        cases refused
      · rename_i admitted
        rw [Bool.not_eq_true, Bool.or_eq_false_iff, Bool.or_eq_false_iff] at admitted
        refine iff_of_true ?_ rfl
        rw [Bool.and_eq_true, Bool.and_eq_true, Bool.not_eq_true', Bool.not_eq_true']
        exact ⟨admitted.1, bne_eq_false_iff_eq.mp admitted.2 ▸ beq_self_eq_true _⟩

private theorem consumable_unrevoked {load : CallbackLoad} {capability : CallbackState}
    (consumable : host.consumable load = true)
    (found : host.bindings.router.callbacks.lookup load.binding = some capability) :
    capability.revoked = false := by
  have admitted := ((consumable_iff load).mp consumable).2
  rcases host.bindings.consume_cases load.binding with
    ⟨error, failed⟩ | ⟨held, _, both, unrevoked, _⟩
  · rw [failed] at admitted
    cases admitted
  · have same := (find_iff.mp both).1
    rw [found] at same
    rw [Option.some.inj same]
    exact unrevoked

inductive Loads (host : CallbackHost) (load : CallbackLoad) :
    Except Error ModuleInfo × CallbackHost → Prop
  | refused {error : Error} (refused : ¬ host.consumable load = true) :
      Loads host load (.error error, host)
  | loaded {info : ModuleInfo} (consumable : host.consumable load = true) :
      Loads host load (.ok info, (CallbackHost.attempt
        { host with bindings := (host.bindings.consume load.binding).2 } load).host)
  | failed {error : Error} (consumable : host.consumable load = true) :
      Loads host load (.error error, (CallbackHost.attempt
          { host with bindings := (host.bindings.consume load.binding).2 } load).host.rollback
        load.binding (CallbackHost.attempt
          { host with bindings := (host.bindings.consume load.binding).2 } load).transport)

theorem loads (host : CallbackHost) (load : CallbackLoad) :
    Loads host load (host.loadFileWithHostCallbacks load) := by
  unfold loadFileWithHostCallbacks
  split
  · rename_i foreign
    refine .refused ?_
    rw [consumable_iff]
    rintro ⟨owner, _⟩
    rw [owner] at foreign
    cases foreign
  · rename_i owner
    rw [Bool.not_eq_true', Bool.not_eq_false] at owner
    rcases host.bindings.consume_cases load.binding with ⟨error, failed⟩ | ⟨_, _, _, _, taken⟩
    · rw [failed]
      refine .refused ?_
      rw [consumable_iff, failed]
      rintro ⟨_, impossible⟩
      cases impossible
    · have consumable : host.consumable load = true :=
        (consumable_iff load).mpr ⟨owner, congrArg Prod.fst taken⟩
      have loaded := @Loads.loaded host load
      have rolledBack := @Loads.failed host load
      rw [taken] at loaded rolledBack ⊢
      dsimp only
      split
      · exact loaded consumable
      · exact rolledBack consumable

private theorem nextPeer_consume (host : CallbackHost) (id : CallbackId) :
    CallbackHost.nextPeer { host with bindings := (host.bindings.consume id).2 } =
      host.nextPeer := by
  rcases host.bindings.consume_cases id with ⟨error, failed⟩ | ⟨_, _, _, _, taken⟩
  · rw [failed]
  · rw [taken]
    rfl

private theorem Course.made (course : Course olds load.binding host.nextPeer host) :
    Advances olds load.binding host.nextPeer host (CallbackHost.attempt
        { host with bindings := (host.bindings.consume load.binding).2 } load).host ∧
      ∀ peer, (CallbackHost.attempt
        { host with bindings := (host.bindings.consume load.binding).2 } load).transport =
          some peer → peer = host.nextPeer := by
  have consumed := course.consume
  have same := host.nextPeer_consume load.binding
  rw [← same] at consumed
  obtain ⟨attempted, attached⟩ := consumed.course.attempt
  rw [← same]
  exact ⟨consumed.trans attempted, attached⟩

theorem Course.loaded (course : Course olds load.binding host.nextPeer host) :
    Advances olds load.binding host.nextPeer host (host.loadFileWithHostCallbacks load).2 := by
  obtain ⟨made, attached⟩ := course.made
  have loads := host.loads load
  generalize host.loadFileWithHostCallbacks load = outcome at loads
  cases loads with
  | refused _ =>
      exact ⟨course, fun module old => ⟨course.listed module old, rfl, .refl _ _⟩,
        .of_bindings rfl⟩
  | loaded _ => exact made
  | failed _ => exact made.trans (made.course.rollback attached)

def Sound (host : CallbackHost) : Prop := Placed host.bindings host.moduleNames

theorem Unplaced.grows {bindings : Bindings} {modules : List BusName} {unique : BusName}
    (placed : Placed bindings modules) (unplaced : Unplaced bindings modules unique) :
    Placed bindings (modules ++ [unique]) := by
  refine ⟨placed.lawful, ?_, placed.destinations, ?_, placed.apart, placed.distinct⟩
  · intro name member
    rcases List.mem_append.mp member with old | new
    · exact placed.minted name old
    · exact List.mem_singleton.mp new ▸ unplaced.minted
  · intro id capability found member
    rcases List.mem_append.mp member with old | new
    · exact placed.owned id capability found old
    · exact (unplaced.binding id capability found).1 (List.mem_singleton.mp new)

private theorem binding_sound {event : BindingEvent} (sound : host.Sound)
    (possible : host.Possible (.binding event)) : (host.next (.binding event)).Sound := by
  have plain (makes : event.makes = false) (allowed : host.bindings.Possible event) :
      (host.next (.binding event)).Sound :=
    sound.after allowed makes (fun _ member => member)
  cases event with
  | prepare destination endpoints signals streamEndpoints =>
      exact sound.prepared possible.1 endpoints signals streamEndpoints
  | createChild id context endpoints destination => exact sound.created possible.2 possible.1
  | bind id module live => exact possible.elim
  | route op => exact plain rfl possible
  | serve id key provided => exact plain rfl possible
  | consume id => exact plain rfl possible
  | register id => exact plain rfl possible
  | revoke id => exact plain rfl possible
  | fault module => exact plain rfl possible
  | drained id => exact plain rfl possible
  | call id key member context => exact plain rfl possible
  | returned id => exact plain rfl possible

theorem reachable_sound (reached : system.Reachable host) : host.Sound := by
  refine reached.invariant ?_ ?_
  · rintro _ rfl
    refine ⟨reachable_lawful ⟨Bindings.empty, [], rfl, .nil⟩, ?_, ?_, ?_, ?_, ?_⟩
    · intro unique member
      cases member
    · intro id capability found
      cases found
    · intro id capability found
      cases found
    · intro id capability other held found
      cases found
    · intro id capability other held found
      cases found
  · rintro before event after ⟨possible, rfl⟩ sound
    cases event with
    | binding event => exact binding_sound sound possible
    | moved selector move =>
        have names : (before.next (.moved selector move)).moduleNames = before.moduleNames :=
          updateFirst_map _ _ (fun module => move_uniqueName module move) _
        unfold Sound
        rw [names]
        exact sound
    | published info unique transport =>
        have names : (before.next (.published info unique transport)).moduleNames =
            before.moduleNames ++ [unique] := List.map_append
        unfold Sound
        rw [names]
        exact Unplaced.grows sound possible
    | removed unique =>
        refine sound.steady (.of_callbacks (Nat.le_refl _) rfl) sound.lawful ?_
        intro name member
        obtain ⟨module, listed, rfl⟩ := List.mem_map.mp member
        exact List.mem_map.mpr ⟨module, List.mem_of_mem_filter listed, rfl⟩
    | load load =>
        have course : Course [] load.binding before.nextPeer before :=
          start_course sound (fun _ none => absurd none List.not_mem_nil)
            (fun _ none => absurd none List.not_mem_nil)
        exact course.loaded.course.placed

/-! ### When a failed load leaves the other modules alone -/

/-- A failed load leaves every other module as it was, unless it consumed a
binding that belongs to one of them. -/
theorem failed_load_keeps_iff {host : CallbackHost} (reached : system.Reachable host)
    {load : CallbackLoad} {error : Error}
    (failed : (host.loadFileWithHostCallbacks load).1 = .error error) :
    (∀ module ∈ host.host.loaded, Keeps host (host.loadFileWithHostCallbacks load).2 module) ↔
      host.consumable load = false ∨
        ∀ module ∈ host.host.loaded, host.bindings.Foreign module.uniqueName load.binding := by
  have sound := reachable_sound reached
  constructor
  · intro keeps
    cases consumable : host.consumable load with
    | false => exact .inl rfl
    | true =>
        right
        intro module member capability found bound
        have held := sound.lawful.held load.binding
        rw [found, Option.isSome_some, eq_comm, Option.isSome_iff_exists] at held
        obtain ⟨binding, state⟩ := held
        have both := find_iff.mpr ⟨found, state⟩
        have kept := (find_iff.mp ((keeps module member).bindings.bindings load.binding
          capability binding both bound).1).1
        have course : Course [] load.binding host.nextPeer host :=
          start_course sound (fun _ none => absurd none List.not_mem_nil)
            (fun _ none => absurd none List.not_mem_nil)
        obtain ⟨made, attached⟩ := course.made
        obtain ⟨middle, here, _⟩ := made.stays load.binding capability found
        obtain ⟨later, there, revoked⟩ := made.course.rollback_revokes attached here
        have loads := host.loads load
        generalize host.loadFileWithHostCallbacks load = outcome at failed kept loads
        cases loads with
        | refused refused => exact absurd consumable refused
        | loaded _ => cases failed
        | failed _ =>
            -- The binding was not revoked when it was consumed, and is now.
            rw [there] at kept
            rw [Option.some.inj kept] at revoked
            rw [consumable_unrevoked consumable found] at revoked
            cases revoked
  · rintro (refused | foreign)
    · have loads := host.loads load
      generalize host.loadFileWithHostCallbacks load = outcome at loads ⊢
      cases loads with
      | refused _ => exact fun module member => ⟨member, rfl, .refl _ _⟩
      | loaded consumable =>
          rw [refused] at consumable
          cases consumable
      | failed consumable =>
          rw [refused] at consumable
          cases consumable
    · have course : Course host.host.loaded load.binding host.nextPeer host :=
        start_course sound (fun _ member => member) foreign
      exact course.loaded.keeps

end CallbackHost

/-! ### A running module and a binding derived from its own -/

def voiceLoad : CallbackLoad :=
  { binding := 0, sameOwner := true, file := "libvoice.so", opened := .ok (),
    allowlisted := some "00", fileHash := "00", pinnedSha256 := none,
    pinnedLibrarySha256 := none, artifact := .ok ModuleBus.voiceManifest,
    currentLibrary := .ok (some "00"), validated := .ok ModuleBus.voiceInfo,
    expectedIdentity := none, configured := true, outbox := 1,
    transport := ModuleBus.quietTransport, starts := true, live := true,
    completion := .settled { ModuleBus.quietTransport with ready := true } false }

def notesManifest : ModuleManifest :=
  { ModuleBus.voiceManifest with
    module := ⟨"notes", ⟨1, 0, 0, none⟩, "", none, ""⟩
    busName := ⟨"ai.tinyhumans.openhuman.Notes", by rfl⟩ }

/-- The same for another module, with the next binding. -/
def notesLoad : CallbackLoad :=
  { voiceLoad with
    binding := 1
    file := "libnotes.so"
    artifact := .ok notesManifest
    validated := .ok { ModuleBus.voiceInfo with
      name := "notes", file := "libnotes.so", manifest := notesManifest }
    outbox := 3 }

namespace CallbackHost

def replay (events : List Event) : CallbackHost := events.foldl next empty

def voiceEvents : List Event :=
  [.binding (.route (.attach 0)),
    .binding (.prepare (BusName.unique 1) [voiceEndpoint] [] []),
    .binding (.serve 0 voiceEndpoint.interfaceKey [notifyMember]), .load voiceLoad]

def derivedHost : CallbackHost :=
  replay (voiceEvents ++ [.binding (.route (.attach 2))] ++
    [.binding (.createChild 0 ⟨some (BusName.unique 2), true⟩ [voiceEndpoint]
      (BusName.unique 3))] ++
    [.binding (.serve 1 voiceEndpoint.interfaceKey [notifyMember])])

/-- The host prepares the other binding. -/
def preparedHost : CallbackHost :=
  replay (voiceEvents ++ [.binding (.route (.attach 2))] ++
    [.binding (.prepare (BusName.unique 3) [voiceEndpoint] [] [])] ++
    [.binding (.serve 1 voiceEndpoint.interfaceKey [notifyMember])])

private theorem run_event {first middle : CallbackHost} {events : List Event}
    (run : system.Run first events middle) (event : Event) (possible : middle.Possible event) :
    system.Run first (events ++ [event]) (middle.next event) :=
  .snoc run ⟨possible, rfl⟩

private theorem run_attach {first middle : CallbackHost} {events : List Event}
    (run : system.Run first events middle) (outbox : Outbox) :
    system.Run first (events ++ [.binding (.route (.attach outbox))])
      (middle.next (.binding (.route (.attach outbox)))) :=
  run_event run _ ⟨trivial, rfl, fun _ _ _ _ removes => nomatch removes⟩

private theorem voice_run : system.Run empty voiceEvents (replay voiceEvents) := by
  have started : system.Reachable empty := ⟨empty, [], rfl, .nil⟩
  have parent := run_attach (.nil : system.Run empty [] _) 0
  have prepared := run_event parent
    (.binding (.prepare (BusName.unique 1) [voiceEndpoint] [] []))
    ⟨(reachable_sound started).attached 0, trivial⟩
  have served := run_event prepared
    (.binding (.serve 0 voiceEndpoint.interfaceKey [notifyMember])) trivial
  exact run_event served (.load voiceLoad) trivial

private theorem derivedHost_reachable : system.Reachable derivedHost := by
  have attached := run_attach voice_run 2
  have voice : system.Reachable (replay voiceEvents) := ⟨empty, _, rfl, voice_run⟩
  have released : (((replay voiceEvents).next (.binding (.route (.attach 2)))).bindings.find 0).all
      (fun held => held.2.entered) = true := by decide
  have derived := run_event attached
    (.binding (.createChild 0 ⟨some (BusName.unique 2), true⟩ [voiceEndpoint]
      (BusName.unique 3)))
    ⟨(reachable_sound voice).attached 2, by
      intro capability binding module found _ _
      rw [found] at released
      exact released⟩
  have served := run_event derived
    (.binding (.serve 1 voiceEndpoint.interfaceKey [notifyMember])) trivial
  exact ⟨empty, _, rfl, served⟩

theorem derivedHost_withdrawn :
    ¬ ∀ host : CallbackHost, system.Reachable host →
      ∀ load error, (host.loadFileWithHostCallbacks load).1 = .error error →
        ∀ module ∈ host.host.loaded,
          Keeps host (host.loadFileWithHostCallbacks load).2 module := by
  intro always
  have named : derivedHost.host.loaded.head?.map LoadedModule.uniqueName =
      some (BusName.unique 2) := by decide
  obtain ⟨voice, first, same⟩ := Option.map_eq_some_iff.mp named
  have kept := (always derivedHost derivedHost_reachable notesLoad
    (.failed "callback binding was concurrently used") (by rfl) voice
      (List.mem_of_mem_head? first)).bindings.owner
  rw [same] at kept
  have lost : (derivedHost.loadFileWithHostCallbacks notesLoad).2.bindings.router.names.lookup
      (BusName.unique 2) = none := by decide
  have owned : derivedHost.bindings.router.names.lookup (BusName.unique 2) = some 2 := by
    decide
  rw [lost, owned] at kept
  cases kept

/-- The initialization of the second module fails. -/
theorem preparedHost_kept :
    preparedHost.host.loaded ≠ [] ∧
      ∀ module ∈ preparedHost.host.loaded, Keeps preparedHost
        (preparedHost.loadFileWithHostCallbacks
          { notesLoad with completion := .initializationFailed }).2 module := by
  have attached := run_attach voice_run 2
  have voice : system.Reachable (replay voiceEvents) := ⟨empty, _, rfl, voice_run⟩
  have prepared := run_event attached
    (.binding (.prepare (BusName.unique 3) [voiceEndpoint] [] []))
    ⟨(reachable_sound voice).attached 2, trivial⟩
  have served := run_event prepared
    (.binding (.serve 1 voiceEndpoint.interfaceKey [notifyMember])) trivial
  have reached : system.Reachable preparedHost := ⟨empty, _, rfl, served⟩
  have refused : (preparedHost.loadFileWithHostCallbacks
      { notesLoad with completion := .initializationFailed }).1 =
        .error (.moduleRefused "libnotes.so" "module initialization failed") := by rfl
  refine ⟨by decide, (failed_load_keeps_iff reached refused).mpr (.inr ?_)⟩
  have unbound : (preparedHost.bindings.router.callbacks.lookup 1).all
      (fun capability => capability.module.isNone) = true := by decide
  intro module _ capability found bound
  change preparedHost.bindings.router.callbacks.lookup 1 = _ at found
  rw [found, Option.all_some, bound] at unbound
  cases unbound

end CallbackHost

end TinyBus
