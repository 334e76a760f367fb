import TinyBus.CallbackRevocation

/-
The peers of modules and the private peers of bindings are all different ones, and
what a step on the bindings spares of a module that it does not name.
-/

namespace TinyBus

open TransitionSystem

namespace Bindings

/-! ### Events that make no binding -/

structure Steady (before after : Bindings) : Prop where
  nextId : before.router.nextId ≤ after.router.nextId
  origin : ∀ id capability, after.router.callbacks.lookup id = some capability →
    ∃ old, before.router.callbacks.lookup id = some old ∧
      capability.destination = old.destination ∧ capability.module = old.module

theorem Steady.of_callbacks {before after : Bindings}
    (nextId : before.router.nextId ≤ after.router.nextId)
    (same : after.router.callbacks = before.router.callbacks) : Steady before after where
  nextId := nextId
  origin := by
    intro id capability found
    rw [same] at found
    exact ⟨capability, found, rfl, rfl⟩

theorem Steady.of_revoking {before : Bindings} {ids : CallbackId → Bool} {router : Router}
    (revoking : Router.Revoking ids before.router router) :
    Steady before { before with router := router } where
  nextId := revoking.nextId
  origin := by
    intro id capability found
    obtain ⟨old, had, module, destination, _⟩ := revoking.origin found
    exact ⟨old, had, destination, module⟩

end Bindings

def BindingEvent.makes : BindingEvent → Bool
  | .prepare .. | .bind .. | .createChild .. => true
  | _ => false

namespace Bindings

theorem after_steady {bindings : Bindings} {event : BindingEvent}
    (possible : bindings.Possible event) (makes : event.makes = false) :
    Steady bindings (bindings.after event) := by
  cases event with
  | route op =>
      obtain ⟨issued, plain, _⟩ := possible
      obtain ⟨ids, revoking, _⟩ := Router.perform_revoking plain issued
      exact .of_revoking revoking
  | serve id key provided =>
      have router : (bindings.serveAt id key provided).2.router = bindings.router := by
        unfold serveAt
        cases bindings.find id with
        | none => rfl
        | some held =>
            dsimp only
            split
            · rfl
            · split
              · rfl
              · split
                · rfl
                · rfl
      exact .of_callbacks (Nat.le_of_eq (congrArg Router.nextId router.symm))
        (congrArg Router.callbacks router)
  | consume id =>
      change Steady bindings (bindings.consume id).2
      rcases bindings.consume_cases id with ⟨error, failed⟩ | ⟨_, _, _, _, consumed⟩
      · rw [failed]
        exact .of_callbacks (Nat.le_refl _) rfl
      · rw [consumed]
        exact .of_callbacks (Nat.le_refl _) rfl
  | register id =>
      change Steady bindings (bindings.register id).2
      unfold register
      rcases bindings.router.addHostCallbacks_cases id with
        ⟨error, failed⟩ | ⟨_, _, _, _, _, _, _, added⟩
      · rw [failed]
        exact .of_callbacks (Nat.le_refl _) rfl
      · rw [added]
        exact .of_callbacks (Nat.le_refl _) rfl
  | revoke id => exact .of_revoking (bindings.router.revokeHostCallbacks_revoking _)
  | fault module =>
      refine ⟨Nat.le_refl _, ?_⟩
      intro id capability found
      change (bindings.router.callbacks.mapValues _).lookup id = _ at found
      rw [Table.lookup_mapValues] at found
      obtain ⟨old, had, rfl⟩ := Option.map_eq_some_iff.mp found
      refine ⟨old, had, ?_, ?_⟩
      · split <;> rfl
      · split <;> rfl
  | drained id => exact .of_revoking (bindings.router.revokeCallback_revoking id)
  | call id key member context =>
      change Steady bindings (bindings.callWithContext id key member context).2
      unfold callWithContext
      split
      · exact .of_callbacks (Nat.le_refl _) rfl
      · exact .of_callbacks (Nat.le_refl _) rfl
  | returned id => exact .of_callbacks (Nat.le_refl _) rfl
  | prepare _ _ _ _ => cases makes
  | bind _ _ _ => cases makes
  | createChild _ _ _ _ => cases makes

/-! ### Peers of modules and private peers -/

structure Placed (bindings : Bindings) (modules : List BusName) : Prop where
  lawful : bindings.Lawful
  minted : ∀ unique ∈ modules, ∃ number, unique = BusName.unique number ∧
    number ≤ bindings.router.nextId
  destinations : ∀ id capability, bindings.router.callbacks.lookup id = some capability →
    ∃ number, capability.destination = BusName.unique number ∧
      number ≤ bindings.router.nextId
  owned : ∀ id capability, bindings.router.callbacks.lookup id = some capability →
    capability.destination ∉ modules
  apart : ∀ id capability other held,
    bindings.router.callbacks.lookup id = some capability →
      bindings.router.callbacks.lookup other = some held →
        held.module ≠ some capability.destination
  distinct : ∀ id capability other held,
    bindings.router.callbacks.lookup id = some capability →
      bindings.router.callbacks.lookup other = some held →
        capability.destination = held.destination → id = other

structure Unplaced (bindings : Bindings) (modules : List BusName) (peer : BusName) : Prop where
  minted : ∃ number, peer = BusName.unique number ∧ number ≤ bindings.router.nextId
  module : peer ∉ modules
  binding : ∀ id capability, bindings.router.callbacks.lookup id = some capability →
    capability.destination ≠ peer ∧ capability.module ≠ some peer

theorem Placed.attached {bindings : Bindings} {modules : List BusName}
    (placed : Placed bindings modules) (outbox : Outbox) :
    Unplaced (bindings.after (.route (.attach outbox))) modules
      (BusName.unique (bindings.router.nextId + 1)) := by
  have newer {peer : BusName}
      (minted : ∃ number, peer = BusName.unique number ∧ number ≤ bindings.router.nextId) :
      peer ≠ BusName.unique (bindings.router.nextId + 1) := by
    obtain ⟨number, name, bound⟩ := minted
    intro same
    rw [name] at same
    rw [BusName.unique_injective same] at bound
    exact Nat.not_succ_le_self _ bound
  refine ⟨⟨_, rfl, Nat.le_refl _⟩, fun member => newer (placed.minted _ member) rfl, ?_⟩
  intro id capability found
  refine ⟨newer (placed.destinations id capability found), ?_⟩
  intro bound
  exact newer (placed.lawful.minted id capability _ found bound) rfl

theorem Placed.steady {before after : Bindings} {modules fewer : List BusName}
    (placed : Placed before modules) (steady : Steady before after) (lawful : after.Lawful)
    (subset : ∀ unique ∈ fewer, unique ∈ modules) : Placed after fewer where
  lawful := lawful
  minted := by
    intro unique member
    obtain ⟨number, name, bound⟩ := placed.minted unique (subset unique member)
    exact ⟨number, name, Nat.le_trans bound steady.nextId⟩
  destinations := by
    intro id capability found
    obtain ⟨old, had, destination, _⟩ := steady.origin id capability found
    obtain ⟨number, name, bound⟩ := placed.destinations id old had
    exact ⟨number, destination.trans name, Nat.le_trans bound steady.nextId⟩
  owned := by
    intro id capability found member
    obtain ⟨old, had, destination, _⟩ := steady.origin id capability found
    exact placed.owned id old had (destination ▸ subset _ member)
  apart := by
    intro id capability other held found foundOther
    obtain ⟨old, had, destination, _⟩ := steady.origin id capability found
    obtain ⟨oldOther, hadOther, _, module⟩ := steady.origin other held foundOther
    rw [module, destination]
    exact placed.apart id old other oldOther had hadOther
  distinct := by
    intro id capability other held found foundOther same
    obtain ⟨old, had, destination, _⟩ := steady.origin id capability found
    obtain ⟨oldOther, hadOther, destinationOther, _⟩ := steady.origin other held foundOther
    rw [destination, destinationOther] at same
    exact placed.distinct id old other oldOther had hadOther same

private theorem Placed.grown {before after : Bindings} {modules : List BusName}
    {capability : CallbackState} (placed : Placed before modules) (lawful : after.Lawful)
    (nextId : after.router.nextId = before.router.nextId)
    (lookup : ∀ id, after.router.callbacks.lookup id =
      if id = before.next then some capability else before.router.callbacks.lookup id)
    (unplaced : Unplaced before modules capability.destination)
    (module : ∀ name, capability.module = some name →
      ∃ id held, before.router.callbacks.lookup id = some held ∧ held.module = some name) :
    Placed after modules where
  lawful := lawful
  minted := by
    rw [nextId]
    exact placed.minted
  destinations := by
    intro id found here
    rw [nextId]
    rw [lookup] at here
    split at here
    · cases here
      exact unplaced.minted
    · exact placed.destinations id found here
  owned := by
    intro id found here
    rw [lookup] at here
    split at here
    · cases here
      exact unplaced.module
    · exact placed.owned id found here
  apart := by
    intro id found other held here there
    rw [lookup] at here there
    split at here
    · cases here
      split at there
      · cases there
        intro same
        obtain ⟨elder, above, had, bound⟩ := module _ same
        exact (unplaced.binding elder above had).2 bound
      · exact (unplaced.binding other held there).2
    · split at there
      · cases there
        intro same
        obtain ⟨elder, above, had, bound⟩ := module _ same
        exact placed.apart id found elder above here had bound
      · exact placed.apart id found other held here there
  distinct := by
    intro id found other held here there same
    rw [lookup] at here there
    split at here
    · rename_i new
      cases here
      split at there
      · rename_i newOther
        exact new.trans newOther.symm
      · exact absurd same.symm (unplaced.binding other held there).1
    · split at there
      · cases there
        exact absurd same (unplaced.binding id found here).1
      · exact placed.distinct id found other held here there same

theorem Placed.prepared {bindings : Bindings} {modules : List BusName}
    (placed : Placed bindings modules) {destination : BusName}
    (unplaced : Unplaced bindings modules destination)
    (endpoints : List HostCallbackEndpoint) (signals : List HostCallbackSignal)
    (streamEndpoints : List HostStreamCallbackEndpoint) :
    Placed (bindings.after (.prepare destination endpoints signals streamEndpoints)) modules := by
  have possible :
      bindings.Possible (.prepare destination endpoints signals streamEndpoints) := trivial
  have lawful := (after_moves placed.lawful possible).lawful placed.lawful
  change Placed
    (bindings.prepareHostCallbacks destination endpoints signals streamEndpoints).2 modules
  change Lawful
    (bindings.prepareHostCallbacks destination endpoints signals streamEndpoints).2 at lawful
  unfold prepareHostCallbacks at lawful ⊢
  split
  · exact placed
  · split
    · exact placed
    · rename_i first second
      rw [if_neg first, if_neg second] at lawful
      refine placed.grown lawful rfl (fun _ => Table.lookup_insert_eq _ _ _ _) unplaced ?_
      intro name bound
      cases bound

theorem Placed.created {bindings : Bindings} {modules : List BusName}
    (placed : Placed bindings modules) {id : CallbackId} {context : CallContext}
    {endpoints : List HostCallbackEndpoint} {destination : BusName}
    (possible : bindings.Possible (.createChild id context endpoints destination))
    (unplaced : Unplaced bindings modules destination) :
    Placed (bindings.after (.createChild id context endpoints destination)) modules := by
  have lawful := (after_moves placed.lawful possible).lawful placed.lawful
  change Placed (bindings.createChildBinding id context endpoints destination).2 modules
  change Lawful (bindings.createChildBinding id context endpoints destination).2 at lawful
  rcases bindings.createChild_cases id context endpoints destination with
    ⟨error, failed⟩ | ⟨capability, found, _, created⟩
  · rw [failed]
    exact placed
  · rw [created] at lawful ⊢
    refine placed.grown lawful rfl (fun _ => Table.lookup_insert_eq _ _ _ _) unplaced ?_
    intro name bound
    exact ⟨id, capability, found, bound⟩

theorem Placed.bind {bindings : Bindings} {modules : List BusName}
    (placed : Placed bindings modules) (id : CallbackId) {number : PeerId} (live : Bool)
    (minted : number ≤ bindings.router.nextId)
    (apart : ∀ other held, bindings.router.callbacks.lookup other = some held →
      held.destination ≠ BusName.unique number) :
    Placed (bindings.after (.bind id (BusName.unique number) live)) modules := by
  have possible : bindings.Possible (.bind id (BusName.unique number) live) :=
    ⟨number, rfl, minted⟩
  have lawful := (after_moves placed.lawful possible).lawful placed.lawful
  change Placed (bindings.bind id (BusName.unique number) live).2 modules
  change Lawful (bindings.bind id (BusName.unique number) live).2 at lawful
  rcases bindings.bind_cases id (BusName.unique number) live with
    ⟨error, failed⟩ | ⟨capability, found, unrevoked, unbound, taken⟩
  · rw [failed]
    exact placed
  · rw [taken] at lawful ⊢
    have origin (other : CallbackId) (held : CallbackState)
        (here : (bindings.router.modifyCallback id (fun held =>
          held.bindModule (BusName.unique number) live)).callbacks.lookup other = some held) :
        ∃ old, bindings.router.callbacks.lookup other = some old ∧
          held.destination = old.destination ∧
            (held.module = old.module ∨ held.module = some (BusName.unique number)) := by
      rw [Router.modifyCallback, Table.lookup_modify] at here
      by_cases same : other = id
      · rw [if_pos same, found, Option.map_some, bindModule_of_free unrevoked unbound] at here
        cases here
        exact ⟨capability, same ▸ found, rfl, .inr rfl⟩
      · rw [if_neg same] at here
        exact ⟨held, here, rfl, .inl rfl⟩
    constructor
    · exact lawful
    · exact placed.minted
    · intro other held here
      obtain ⟨old, had, destination, _⟩ := origin other held here
      rw [destination]
      exact placed.destinations other old had
    · intro other held here
      obtain ⟨old, had, destination, _⟩ := origin other held here
      rw [destination]
      exact placed.owned other old had
    · intro first held second other here there
      obtain ⟨old, had, destination, _⟩ := origin first held here
      obtain ⟨oldOther, hadOther, _, module⟩ := origin second other there
      rw [destination]
      rcases module with same | bound
      · rw [same]
        exact placed.apart first old second oldOther had hadOther
      · rw [bound]
        intro same
        exact apart first old had (Option.some.inj same).symm
    · intro first held second other here there same
      obtain ⟨old, had, destination, _⟩ := origin first held here
      obtain ⟨oldOther, hadOther, destinationOther, _⟩ := origin second other there
      rw [destination, destinationOther] at same
      exact placed.distinct first old second oldOther had hadOther same

theorem Placed.after {bindings : Bindings} {modules fewer : List BusName}
    (placed : Placed bindings modules) {event : BindingEvent}
    (possible : bindings.Possible event) (makes : event.makes = false)
    (subset : ∀ unique ∈ fewer, unique ∈ modules) :
    Placed (bindings.after event) fewer :=
  placed.steady (after_steady possible makes)
    ((after_moves placed.lawful possible).lawful placed.lawful) subset

/-! ### What a step spares -/

structure Spares (module : BusName) (before after : Bindings) : Prop where
  owner : after.router.names.lookup module = before.router.names.lookup module
  peer : ∀ id, before.router.names.lookup module = some id →
    after.router.peers.lookup id = before.router.peers.lookup id
  names : ∀ id, before.router.names.lookup module = some id → ∀ name,
    after.router.names.lookup name = some id ↔ before.router.names.lookup name = some id
  bindings : ∀ id capability binding, before.find id = some (capability, binding) →
    capability.module = some module →
      after.find id = some (capability, binding) ∧
        (id ∈ after.router.hostCallbacks ↔ id ∈ before.router.hostCallbacks)

theorem Spares.refl (module : BusName) (bindings : Bindings) :
    Spares module bindings bindings where
  owner := rfl
  peer := fun _ _ => rfl
  names := fun _ _ _ => Iff.rfl
  bindings := fun _ _ _ found _ => ⟨found, Iff.rfl⟩

theorem Spares.trans {module : BusName} {first middle last : Bindings}
    (early : Spares module first middle) (late : Spares module middle last) :
    Spares module first last where
  owner := late.owner.trans early.owner
  peer := by
    intro id owned
    exact (late.peer id (early.owner.trans owned)).trans (early.peer id owned)
  names := by
    intro id owned name
    exact (late.names id (early.owner.trans owned) name).trans (early.names id owned name)
  bindings := by
    intro id capability binding found bound
    obtain ⟨here, registered⟩ := early.bindings id capability binding found bound
    obtain ⟨there, later⟩ := late.bindings id capability binding here bound
    exact ⟨there, later.trans registered⟩

/-- The binding is not one of the module. -/
def Foreign (bindings : Bindings) (module : BusName) (id : CallbackId) : Prop :=
  ∀ capability, bindings.router.callbacks.lookup id = some capability →
    capability.module ≠ some module

theorem Spares.noted {module : BusName} {bindings : Bindings} {id : CallbackId}
    (foreign : bindings.Foreign module id) (update : BindingState → BindingState) :
    Spares module bindings (bindings.modifyState id update) where
  owner := rfl
  peer := fun _ _ => rfl
  names := fun _ _ _ => Iff.rfl
  bindings := by
    intro other capability binding found bound
    obtain ⟨here, state⟩ := find_iff.mp found
    have different : other ≠ id := by
      intro same
      exact foreign capability (same ▸ here) bound
    refine ⟨find_iff.mpr ⟨here, ?_⟩, Iff.rfl⟩
    exact (Table.lookup_modify_of_ne _ _ different).trans state

theorem Spares.revoke {module : BusName} {bindings : Bindings} (lawful : bindings.Lawful)
    {id : CallbackId} (foreign : bindings.Foreign module id) :
    Spares module bindings (bindings.revoke id) := by
  have router := bindings.router.revokeHostCallbacks_all (id :: bindings.liveDescendants id)
  have revoking := bindings.router.revokeHostCallbacks_revoking
    (id :: bindings.liveDescendants id)
  have outside (other : CallbackId) (held : CallbackState)
      (found : bindings.router.callbacks.lookup other = some held)
      (bound : held.module = some module) :
      (id :: bindings.liveDescendants id).contains other = false := by
    rw [← Bool.not_eq_true, List.contains_iff_mem, List.mem_cons, not_or]
    constructor
    · intro same
      exact foreign held (same ▸ found) bound
    · intro member
      have below := lawful.family.ancestor_of_mem member
      obtain ⟨child, direct, _⟩ := Relation.TransGen.head'_iff.mp below
      obtain ⟨capability, present⟩ := lawful.capability_of_parent direct
      obtain ⟨_, _, both, inherited, _⟩ := lawful.blocks_descendants below capability present
      rw [(find_iff.mp both).1] at found
      cases found
      exact foreign capability present (inherited.symm.trans bound)
  constructor
  · exact congrArg (fun router => router.names.lookup module) router
  · intro peer _
    exact congrArg (fun router => router.peers.lookup peer) router
  · intro peer _ name
    have same := congrArg (fun router => router.names.lookup name) router
    exact iff_of_eq (congrArg (· = some peer) same)
  · intro other held binding found bound
    obtain ⟨here, state⟩ := find_iff.mp found
    have spared := outside other held here bound
    constructor
    · refine find_iff.mpr ⟨?_, state⟩
      refine (revoking.lookup other).trans ?_
      rw [if_neg (by rw [spared]; exact Bool.false_ne_true)]
      exact here
    · constructor
      · intro member
        change other ∈ ((id :: bindings.liveDescendants id).foldl
          Router.revokeHostCallbacks bindings.router).hostCallbacks at member
        rw [router] at member
        exact List.mem_of_mem_filter member
      · intro member
        exact revoking.kept other member spared

theorem Spares.routed {module : BusName} {bindings : Bindings} {op : RouterOp}
    (plain : op.Plain = true) (removes : ∀ peer, ¬ op.Removes bindings.router peer)
    (owner : (bindings.router.perform op).2.names.lookup module =
      bindings.router.names.lookup module)
    (peer : ∀ id, bindings.router.names.lookup module = some id →
      (bindings.router.perform op).2.peers.lookup id = bindings.router.peers.lookup id)
    (names : ∀ id, bindings.router.names.lookup module = some id → ∀ name,
      (bindings.router.perform op).2.names.lookup name = some id ↔
        bindings.router.names.lookup name = some id) :
    Spares module bindings (bindings.after (.route op)) where
  owner := owner
  peer := peer
  names := names
  bindings := by
    intro id capability binding found _
    obtain ⟨here, state⟩ := find_iff.mp found
    rcases bindings.router.perform_capabilities plain with
      ⟨callbacks, hostCallbacks, _⟩ | ⟨peer, removed, _⟩
    · refine ⟨find_iff.mpr ⟨?_, state⟩, ?_⟩
      · exact (congrArg (fun table => table.lookup id) callbacks).trans here
      · exact iff_of_eq (congrArg (fun ids => id ∈ ids) hostCallbacks)
    · exact absurd removed (removes peer)

variable {bindings : Bindings} {modules : List BusName} {module : BusName}

private theorem Placed.owner_old (placed : Placed bindings modules) {id : PeerId}
    (owned : bindings.router.names.lookup module = some id) : id ≤ bindings.router.nextId := by
  obtain ⟨peer, present⟩ := placed.lawful.consistent.ownersAttached module id owned
  exact placed.lawful.consistent.bounded id peer present

private theorem Placed.owners_differ (placed : Placed bindings modules)
    (member : module ∈ modules) {other : BusName} (unique : other.isUnique = true)
    (different : other ≠ module) {id owner : PeerId}
    (owned : bindings.router.names.lookup module = some id)
    (held : bindings.router.names.lookup other = some owner) : owner ≠ id := by
  intro same
  obtain ⟨number, name, _⟩ := placed.minted module member
  have mine := placed.lawful.consistent.uniqueOwner module id owned (by rw [name]; simp)
  have theirs := placed.lawful.consistent.uniqueOwner other owner held unique
  rw [same, ← mine] at theirs
  exact different theirs

theorem Spares.attach (placed : Placed bindings modules) (member : module ∈ modules)
    (outbox : Outbox) :
    Spares module bindings (bindings.after (.route (.attach outbox))) := by
  obtain ⟨number, name, old⟩ := placed.minted module member
  refine .routed rfl (fun _ removes => nomatch removes) ?_ ?_ ?_
  · change (bindings.router.attach outbox).2.names.lookup module = _
    rw [Router.attach_names_lookup, if_neg]
    intro same
    rw [name] at same
    rw [BusName.unique_injective same] at old
    exact Nat.not_succ_le_self _ old
  · intro id owned
    change (bindings.router.attach outbox).2.peers.lookup id = _
    rw [Router.attach_peers_lookup, if_neg]
    intro same
    have earlier := placed.owner_old owned
    rw [same] at earlier
    exact Nat.not_succ_le_self _ earlier
  · intro id owned other
    have earlier := placed.owner_old owned
    change (bindings.router.attach outbox).2.names.lookup other = some id ↔ _
    rw [Router.attach_names_lookup]
    by_cases minted : other = BusName.unique (bindings.router.nextId + 1)
    · rw [if_pos minted]
      constructor
      · intro same
        rw [← Option.some.inj same] at earlier
        exact absurd earlier (Nat.not_succ_le_self _)
      · intro held
        have unique := placed.lawful.consistent.uniqueOwner other id held (by rw [minted]; simp)
        rw [minted] at unique
        rw [← BusName.unique_injective unique] at earlier
        exact absurd earlier (Nat.not_succ_le_self _)
    · rw [if_neg minted]

private theorem requestNameForUnique_cases (router : Router) (unique name : BusName) :
    (router.requestNameForUnique unique name).2 = router ∨
      ∃ id, router.names.lookup unique = some id ∧ name.isUnique = false ∧
        router.names.lookup name = none ∧
        (router.requestNameForUnique unique name).2 =
          { router with names := router.names.insert name id } := by
  unfold Router.requestNameForUnique
  cases owned : router.names.lookup unique with
  | none => exact .inl rfl
  | some id =>
      dsimp only
      unfold Router.requestName
      by_cases special : name.isUnique = true
      · rw [if_pos special]
        exact .inl rfl
      · rw [if_neg special]
        by_cases reserved : name = busName
        · rw [if_pos reserved]
          exact .inl rfl
        · rw [if_neg reserved]
          cases free : router.names.lookup name with
          | some owner =>
              dsimp only
              split
              · exact .inl rfl
              · exact .inl rfl
          | none => exact .inr ⟨id, rfl, Bool.not_eq_true _ ▸ special, rfl, rfl⟩

variable {unique : BusName}

theorem Spares.requestName (placed : Placed bindings modules) (member : module ∈ modules)
    (minted : unique.isUnique = true) (different : unique ≠ module) (name : BusName) :
    Spares module bindings (bindings.after (.route (.requestNameForUnique unique name))) := by
  rcases requestNameForUnique_cases bindings.router unique name with
    same | ⟨owner, held, plain, free, claimed⟩
  · refine .routed rfl (fun _ removes => nomatch removes) ?_ ?_ ?_
    · exact congrArg (fun router => router.names.lookup module) same
    · exact fun id _ => congrArg (fun router => router.peers.lookup id) same
    · intro id _ other
      exact iff_of_eq (congrArg (fun router => router.names.lookup other = some id) same)
  · have after : (bindings.router.perform (.requestNameForUnique unique name)).2 =
        { bindings.router with names := bindings.router.names.insert name owner } := claimed
    obtain ⟨number, own, _⟩ := placed.minted module member
    refine .routed rfl (fun _ removes => nomatch removes) ?_ ?_ ?_
    · rw [after]
      change (bindings.router.names.insert name owner).lookup module = _
      rw [Table.lookup_insert_eq, if_neg]
      intro same
      rw [← same, own, BusName.isUnique_unique] at plain
      cases plain
    · intro id _
      rw [after]
    · intro id owned other
      have apart := placed.owners_differ member minted different owned held
      rw [after]
      change (bindings.router.names.insert name owner).lookup other = some id ↔ _
      rw [Table.lookup_insert_eq]
      by_cases same : other = name
      · rw [if_pos same, same, free]
        exact iff_of_false (fun equal => apart (Option.some.inj equal)) (fun none => nomatch none)
      · rw [if_neg same]

theorem Spares.setAttestation (placed : Placed bindings modules) (member : module ∈ modules)
    (minted : unique.isUnique = true) (different : unique ≠ module) (attestation : Attestation) :
    Spares module bindings
      (bindings.after (.route (.setAttestationForUnique unique attestation))) := by
  have names : (bindings.router.setAttestationForUnique unique attestation).names =
      bindings.router.names := by
    unfold Router.setAttestationForUnique
    cases bindings.router.names.lookup unique <;> rfl
  refine .routed rfl (fun _ removes => nomatch removes) ?_ ?_ ?_
  · exact congrArg (fun table => table.lookup module) names
  · intro id owned
    change (bindings.router.setAttestationForUnique unique attestation).peers.lookup id = _
    unfold Router.setAttestationForUnique
    cases held : bindings.router.names.lookup unique with
    | none => rfl
    | some owner =>
        have apart := (placed.owners_differ member minted different owned held).symm
        change ((bindings.router.peers.modify owner _).modify owner _).lookup id = _
        rw [Table.lookup_modify_of_ne _ _ apart, Table.lookup_modify_of_ne _ _ apart]
  · intro id _ other
    exact iff_of_eq (congrArg (fun table => table.lookup other = some id) names)

theorem removes_detachUnique (consistent : bindings.router.Consistent) {peer : BusName}
    (minted : unique.isUnique = true)
    (removes : (RouterOp.detachUnique unique).Removes bindings.router peer) : peer = unique := by
  cases removes with
  | detachedUnique owned present =>
      rw [consistent.uniqueOwner unique _ owned minted]
      exact (consistent.ownsUnique _ _ present).1

theorem Spares.detachUnique (placed : Placed bindings modules) (member : module ∈ modules)
    (minted : unique.isUnique = true) (different : unique ≠ module)
    (elsewhere : ∀ id capability, bindings.router.callbacks.lookup id = some capability →
      capability.module = some module → capability.destination ≠ unique) :
    Spares module bindings (bindings.after (.route (.detachUnique unique))) := by
  have consistent := placed.lawful.consistent
  cases held : bindings.router.names.lookup unique with
  | none =>
      have same : (bindings.router.perform (.detachUnique unique)).2 = bindings.router := by
        change (bindings.router.detachUnique unique).2 = _
        rw [Router.detachUnique, held]
      have kept : bindings.after (.route (.detachUnique unique)) = bindings := by
        change { bindings with router := (bindings.router.perform _).2 } = _
        rw [same]
      rw [kept]
      exact .refl module bindings
  | some owner =>
      obtain ⟨peer, present⟩ := consistent.ownersAttached unique owner held
      have detached : (bindings.router.perform (.detachUnique unique)).2 =
          (bindings.router.detach owner).2 := by
        change (bindings.router.detachUnique unique).2 = _
        rw [Router.detachUnique, held]
      have apart {id : PeerId} (owned : bindings.router.names.lookup module = some id) :
          owner ≠ id := placed.owners_differ member minted different owned held
      constructor
      · change (bindings.router.perform _).2.names.lookup module = _
        rw [detached, Router.detach_names_lookup present]
        split
        · rename_i same
          exact absurd rfl (apart same)
        · rfl
      · intro id owned
        change (bindings.router.perform _).2.peers.lookup id = _
        rw [detached, Router.detach_peers present, Table.lookup_erase_eq,
          if_neg (apart owned).symm]
      · intro id owned name
        change (bindings.router.perform _).2.names.lookup name = some id ↔ _
        rw [detached, Router.detach_names_lookup present]
        split
        · rename_i theirs
          rw [theirs]
          exact iff_of_false (Option.some_ne_none _).symm
            (fun same => apart owned (Option.some.inj same))
        · exact Iff.rfl
      · intro id capability binding found bound
        obtain ⟨here, state⟩ := find_iff.mp found
        have plain : (RouterOp.detachUnique unique).Plain = true := rfl
        have issued : (RouterOp.detachUnique unique).Issued bindings.router := trivial
        obtain ⟨ids, revoking, named, _⟩ := Router.perform_revoking plain issued
        have spared : ids id = false := by
          rw [← Bool.not_eq_true]
          intro chosen
          obtain ⟨gone, other, removes, there, includes⟩ := named id chosen
          rw [here] at there
          cases there
          rw [removes_detachUnique consistent minted removes, CallbackState.includesPeer,
            Bool.or_eq_true, decide_eq_true_iff, decide_eq_true_iff] at includes
          rcases includes with destination | same
          · exact elsewhere id capability here bound destination
          · rw [bound] at same
            exact different (Option.some.inj same).symm
        refine ⟨find_iff.mpr ⟨?_, state⟩, ?_⟩
        · refine (revoking.lookup id).trans ?_
          rw [if_neg (by rw [spared]; exact Bool.false_ne_true)]
          exact here
        · constructor
          · intro member
            rcases bindings.router.perform_capabilities plain with
              ⟨_, hostCallbacks, _⟩ | ⟨_, _, _, forsaken⟩
            · change id ∈ (bindings.router.perform _).2.hostCallbacks at member
              rw [hostCallbacks] at member
              exact member
            · change id ∈ (bindings.router.perform _).2.hostCallbacks at member
              rw [forsaken.hostCallbacks] at member
              exact List.mem_of_mem_filter member
          · exact fun member => revoking.kept id member spared

theorem Spares.bind (id : CallbackId) {other : BusName} (live : Bool) :
    Spares module bindings (bindings.after (.bind id other live)) := by
  change Spares module bindings (bindings.bind id other live).2
  rcases bindings.bind_cases id other live with ⟨error, failed⟩ | ⟨old, here, _, unbound, taken⟩
  · rw [failed]
    exact .refl module bindings
  · rw [taken]
    refine ⟨rfl, fun _ _ => rfl, fun _ _ _ => Iff.rfl, ?_⟩
    intro target capability binding found bound
    obtain ⟨there, state⟩ := find_iff.mp found
    have different : target ≠ id := by
      intro same
      rw [same, here] at there
      cases there
      rw [unbound] at bound
      cases bound
    refine ⟨find_iff.mpr ⟨?_, state⟩, Iff.rfl⟩
    exact (Table.lookup_modify_of_ne _ _ different).trans there

theorem Spares.register {id : CallbackId} (foreign : bindings.Foreign module id) :
    Spares module bindings (bindings.after (.register id)) := by
  change Spares module bindings (bindings.register id).2
  unfold Bindings.register
  rcases bindings.router.addHostCallbacks_cases id with
    ⟨error, failed⟩ | ⟨_, _, _, _, _, _, _, added⟩
  · rw [failed]
    exact .refl module bindings
  · rw [added]
    refine ⟨rfl, fun _ _ => rfl, fun _ _ _ => Iff.rfl, ?_⟩
    intro other capability binding found bound
    obtain ⟨here, state⟩ := find_iff.mp found
    have different : other ≠ id := by
      intro same
      exact foreign capability (same ▸ here) bound
    refine ⟨find_iff.mpr ⟨here, (Table.lookup_modify_of_ne _ _ different).trans state⟩, ?_⟩
    change other ∈ bindings.router.hostCallbacks ++ [id] ↔ _
    rw [List.mem_append, List.mem_singleton]
    exact or_iff_left different

end Bindings

end TinyBus
