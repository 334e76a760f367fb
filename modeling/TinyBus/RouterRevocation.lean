import TinyBus.RouterInvariant
import TinyBus.CallbackBindings

/-
Operations on the routing table that only revoke capabilities.  The plain
operations, which do not name a capability, reach one only by the removal of a
peer that it names.
-/

namespace TinyBus

namespace Router

structure Revoking (ids : CallbackId → Bool) (before after : Router) : Prop where
  lookup : ∀ id, after.callbacks.lookup id =
    if ids id then (before.callbacks.lookup id).map CallbackState.revoke
    else before.callbacks.lookup id
  kept : ∀ id ∈ before.hostCallbacks, ids id = false → id ∈ after.hostCallbacks
  nextId : before.nextId ≤ after.nextId
  unowned : ∀ id ≤ before.nextId, before.names.lookup (BusName.unique id) = none →
    after.names.lookup (BusName.unique id) = none
  consistent : before.Consistent → after.Consistent

theorem revokeAll_lookup (ids : List CallbackId) :
    ∀ (callbacks : Table CallbackId CallbackState) (id : CallbackId),
      (ids.foldl revokeState callbacks).lookup id =
        if id ∈ ids then (callbacks.lookup id).map CallbackState.revoke
        else callbacks.lookup id := by
  induction ids with
  | nil => exact fun _ _ => rfl
  | cons first rest ih =>
      intro callbacks id
      rw [List.foldl_cons, ih, revokeState, Table.lookup_modify]
      by_cases later : id ∈ rest
      · rw [if_pos later, if_pos (List.mem_cons_of_mem first later)]
        by_cases same : id = first
        · rw [if_pos same, same]
          cases callbacks.lookup first <;> rfl
        · rw [if_neg same]
      · rw [if_neg later]
        by_cases same : id = first
        · rw [if_pos same, if_pos (List.mem_cons.mpr (.inl same)), same]
        · rw [if_neg same, if_neg]
          rw [List.mem_cons, not_or]
          exact ⟨same, later⟩

theorem revokeHostCallbacks_all (ids : List CallbackId) : ∀ router : Router,
    ids.foldl revokeHostCallbacks router =
      { router with
        callbacks := ids.foldl revokeState router.callbacks
        hostCallbacks := router.hostCallbacks.filter (fun id => !ids.contains id) } := by
  induction ids with
  | nil =>
      intro router
      have all : router.hostCallbacks.filter (fun id => !([] : List CallbackId).contains id) =
          router.hostCallbacks := List.filter_eq_self.mpr (fun _ _ => rfl)
      rw [all]
      rfl
  | cons first rest ih =>
      intro router
      rw [List.foldl_cons, ih, List.foldl_cons]
      simp only [revokeHostCallbacks, List.filter_filter]
      congr 1
      refine List.filter_congr ?_
      intro id _
      rw [List.contains_cons, Bool.not_or, bne, Bool.and_comm]

theorem revokeHostCallbacks_revoking (router : Router) (ids : List CallbackId) :
    Revoking (fun id => ids.contains id) router (ids.foldl revokeHostCallbacks router) := by
  rw [revokeHostCallbacks_all]
  constructor
  · intro id
    rw [revokeAll_lookup]
    simp only [List.contains_iff_mem]
  · intro id member outside
    refine List.mem_filter.mpr ⟨member, ?_⟩
    rw [outside]
    rfl
  · exact Nat.le_refl _
  · exact fun _ _ none => none
  · exact fun consistent => consistent.kept rfl rfl (fun _ => rfl)

theorem revokeCallback_revoking (router : Router) (id : CallbackId) :
    Revoking (fun other => other == id) router
      (router.modifyCallback id CallbackState.revoke) := by
  constructor
  · intro other
    rw [modifyCallback, Table.lookup_modify]
    by_cases same : other = id
    · rw [if_pos same, if_pos (beq_iff_eq.mpr same), same]
    · rw [if_neg same, if_neg (fun equal => same (beq_iff_eq.mp equal))]
  · exact fun _ member _ => member
  · exact Nat.le_refl _
  · exact fun _ _ none => none
  · exact fun consistent => consistent.kept rfl rfl (fun _ => rfl)

theorem Revoking.origin {ids : CallbackId → Bool} {before after : Router}
    (revoking : Revoking ids before after) {id : CallbackId} {capability : CallbackState}
    (found : after.callbacks.lookup id = some capability) :
    ∃ old, before.callbacks.lookup id = some old ∧ capability.module = old.module ∧
      capability.destination = old.destination ∧ (old.Blocked → capability.Blocked) ∧
      (ids id = true ∧ capability.revoked = true ∧ capability.active = false ∨
        ids id = false ∧ capability = old) := by
  rw [revoking.lookup] at found
  cases chosen : ids id with
  | true =>
      rw [if_pos chosen] at found
      obtain ⟨old, had, rfl⟩ := Option.map_eq_some_iff.mp found
      exact ⟨old, had, rfl, rfl, fun _ => .inl rfl, .inl ⟨rfl, rfl, rfl⟩⟩
  | false =>
      rw [if_neg (by rw [chosen]; exact Bool.false_ne_true)] at found
      exact ⟨capability, found, rfl, rfl, fun gone => gone, .inr ⟨rfl, rfl⟩⟩

theorem perform_nextId_le (router : Router) (op : RouterOp) :
    router.nextId ≤ (router.perform op).2.nextId := by
  have left := router.perform_leaves op
  generalize (router.perform op).2 = after at left
  cases left with
  | attached _ => exact Nat.le_succ _
  | detached _ _ => exact Nat.le_of_eq (router.detach_nextId _).symm
  | _ => exact Nat.le_refl _

theorem perform_unowned {router : Router} (op : RouterOp) {id : PeerId}
    (old : id ≤ router.nextId) (unowned : router.names.lookup (BusName.unique id) = none) :
    (router.perform op).2.names.lookup (BusName.unique id) = none := by
  have left := router.perform_leaves op
  generalize (router.perform op).2 = after at left
  cases left with
  | attached _ =>
      rw [attach_names_lookup, if_neg]
      · exact unowned
      · intro same
        rw [BusName.unique_injective same] at old
        exact Nat.not_succ_le_self _ old
  | detached present _ =>
      rw [detach_names_lookup present]
      split
      · rfl
      · exact unowned
  | claimed plain _ _ _ =>
      change (router.names.insert _ _).lookup _ = none
      rw [Table.lookup_insert_eq, if_neg]
      · exact unowned
      · intro same
        rw [← same, BusName.isUnique_unique] at plain
        cases plain
  | released _ _ _ =>
      change (router.names.erase _).lookup _ = none
      rw [Table.lookup_erase_eq]
      split
      · rfl
      · exact unowned
  | _ => exact unowned

private theorem requestName_capabilities (router : Router) (id : PeerId) (name : BusName) :
    (router.requestName id name).2.callbacks = router.callbacks ∧
      (router.requestName id name).2.hostCallbacks = router.hostCallbacks := by
  unfold requestName
  split
  · exact ⟨rfl, rfl⟩
  · split
    · exact ⟨rfl, rfl⟩
    · split
      · split
        · exact ⟨rfl, rfl⟩
        · exact ⟨rfl, rfl⟩
      · exact ⟨rfl, rfl⟩

private theorem releaseName_capabilities (router : Router) (id : PeerId) (name : BusName) :
    (router.releaseName id name).2.callbacks = router.callbacks ∧
      (router.releaseName id name).2.hostCallbacks = router.hostCallbacks := by
  unfold releaseName
  split
  · exact ⟨rfl, rfl⟩
  · split
    · split
      · exact ⟨rfl, rfl⟩
      · exact ⟨rfl, rfl⟩
    · exact ⟨rfl, rfl⟩

structure Forsaken (router : Router) (peer : BusName) (after : Router) : Prop where
  callbacks : after.callbacks = (router.hostCallbacks.filter
    (router.callbackIncludes peer)).foldl revokeState router.callbacks
  hostCallbacks : after.hostCallbacks =
    router.hostCallbacks.filter (fun id => !router.callbackIncludes peer id)

private theorem detach_forsaken {router : Router} {id : PeerId} {peer : Peer}
    (present : router.peers.lookup id = some peer) :
    Forsaken router peer.unique (router.detach id).2 := by
  rw [detach, present]
  exact ⟨rfl, rfl⟩

theorem perform_capabilities (router : Router) {op : RouterOp} (plain : op.Plain = true) :
    ((router.perform op).2.callbacks = router.callbacks ∧
        (router.perform op).2.hostCallbacks = router.hostCallbacks ∧
        ∀ peer, ¬ op.Removes router peer) ∨
      ∃ peer, op.Removes router peer ∧ (∀ other, op.Removes router other → other = peer) ∧
        Forsaken router peer (router.perform op).2 := by
  cases op with
  | detach id =>
      cases present : router.peers.lookup id with
      | none =>
          left
          have same : (router.perform (.detach id)).2 = router :=
            congrArg Prod.snd (detach_of_absent present)
          rw [same]
          refine ⟨rfl, rfl, ?_⟩
          intro peer removes
          cases removes with
          | detached found =>
              rw [present] at found
              cases found
      | some peer =>
          right
          refine ⟨peer.unique, .detached present, ?_, detach_forsaken present⟩
          intro other removes
          cases removes with
          | detached found =>
              rw [present] at found
              rw [Option.some.inj found]
  | detachUnique unique =>
      change (((router.detachUnique unique).2).callbacks = _ ∧
          ((router.detachUnique unique).2).hostCallbacks = _ ∧ _) ∨
        ∃ peer, _ ∧ _ ∧ Forsaken router peer (router.detachUnique unique).2
      unfold detachUnique
      cases owned : router.names.lookup unique with
      | none =>
          left
          refine ⟨rfl, rfl, ?_⟩
          intro peer removes
          cases removes with
          | detachedUnique found _ =>
              rw [owned] at found
              cases found
      | some id =>
          cases present : router.peers.lookup id with
          | none =>
              left
              simp only [detach_of_absent present]
              refine ⟨trivial, trivial, ?_⟩
              intro peer removes
              cases removes with
              | detachedUnique found held =>
                  rw [owned] at found
                  cases found
                  rw [present] at held
                  cases held
          | some peer =>
              right
              refine ⟨peer.unique, .detachedUnique owned present, ?_, detach_forsaken present⟩
              intro other removes
              cases removes with
              | detachedUnique found held =>
                  rw [owned] at found
                  cases found
                  rw [present] at held
                  rw [Option.some.inj held]
  | revokeCallbacksForPeer peer =>
      right
      refine ⟨peer, .stopped peer, ?_, ⟨rfl, rfl⟩⟩
      intro other removes
      cases removes
      rfl
  | requestName id name =>
      have kept := router.requestName_capabilities id name
      exact .inl ⟨kept.1, kept.2, fun _ removes => nomatch removes⟩
  | requestNameForUnique unique name =>
      left
      change (router.requestNameForUnique unique name).2.callbacks = _ ∧
        (router.requestNameForUnique unique name).2.hostCallbacks = _ ∧ _
      unfold requestNameForUnique
      cases router.names.lookup unique with
      | none => exact ⟨rfl, rfl, fun _ removes => nomatch removes⟩
      | some id =>
          have kept := router.requestName_capabilities id name
          exact ⟨kept.1, kept.2, fun _ removes => nomatch removes⟩
  | releaseName id name =>
      have kept := router.releaseName_capabilities id name
      exact .inl ⟨kept.1, kept.2, fun _ removes => nomatch removes⟩
  | releaseNameForUnique unique name =>
      left
      change (router.releaseNameForUnique unique name).2.callbacks = _ ∧
        (router.releaseNameForUnique unique name).2.hostCallbacks = _ ∧ _
      unfold releaseNameForUnique
      cases router.names.lookup unique with
      | none => exact ⟨rfl, rfl, fun _ removes => nomatch removes⟩
      | some id =>
          cases checked : router.ensurePeerAttached id unique with
          | error refusal =>
              simp only [checked]
              exact ⟨trivial, trivial, fun _ removes => nomatch removes⟩
          | ok _ =>
              have kept := router.releaseName_capabilities id name
              simp only [checked]
              exact ⟨kept.1, kept.2, fun _ removes => nomatch removes⟩
  | setAttestationForUnique unique attestation =>
      left
      change (router.setAttestationForUnique unique attestation).callbacks = _ ∧
        (router.setAttestationForUnique unique attestation).hostCallbacks = _ ∧ _
      unfold setAttestationForUnique
      cases router.names.lookup unique with
      | none => exact ⟨rfl, rfl, fun _ removes => nomatch removes⟩
      | some id => exact ⟨rfl, rfl, fun _ removes => nomatch removes⟩
  | attach _ => exact .inl ⟨rfl, rfl, fun _ removes => nomatch removes⟩
  | setManifest _ _ => exact .inl ⟨rfl, rfl, fun _ removes => nomatch removes⟩
  | addMatch _ _ => exact .inl ⟨rfl, rfl, fun _ removes => nomatch removes⟩
  | removeMatch _ _ => exact .inl ⟨rfl, rfl, fun _ removes => nomatch removes⟩
  | setAttestation _ _ => exact .inl ⟨rfl, rfl, fun _ removes => nomatch removes⟩
  | createCallback _ _ => cases plain
  | bindModule _ _ _ => cases plain
  | setModuleLive _ _ => cases plain
  | revokeCallback _ => cases plain
  | addHostCallbacks _ => cases plain
  | revokeHostCallbacks _ => cases plain

theorem perform_revoking {router : Router} {op : RouterOp} (plain : op.Plain = true)
    (issued : op.Issued router) : ∃ ids, Revoking ids router (router.perform op).2 ∧
      (∀ id, ids id = true → ∃ peer capability, op.Removes router peer ∧
        router.callbacks.lookup id = some capability ∧ capability.includesPeer peer = true) ∧
      (∀ peer, op.Removes router peer → ∀ id ∈ router.hostCallbacks, ∀ capability,
        router.callbacks.lookup id = some capability → capability.includesPeer peer = true →
          ids id = true) := by
  have consistent (before : router.Consistent) : (router.perform op).2.Consistent :=
    (perform_performed before op issued).consistent before
  have unowned (id : PeerId) (old : id ≤ router.nextId)
      (none : router.names.lookup (BusName.unique id) = none) :=
    perform_unowned op old none
  rcases router.perform_capabilities plain with
    ⟨callbacks, hostCallbacks, removes⟩ | ⟨peer, removes, only, forsaken⟩
  · refine ⟨fun _ => false, ⟨?_, ?_, router.perform_nextId_le op, unowned, consistent⟩, ?_, ?_⟩
    · intro id
      rw [callbacks]
      rfl
    · intro id member _
      rw [hostCallbacks]
      exact member
    · intro id impossible
      cases impossible
    · intro peer removed
      exact absurd removed (removes peer)
  · refine ⟨fun id => router.hostCallbacks.contains id && router.callbackIncludes peer id,
      ⟨?_, ?_, router.perform_nextId_le op, unowned, consistent⟩, ?_, ?_⟩
    · intro id
      rw [forsaken.callbacks, revokeAll_lookup]
      simp only [List.mem_filter, Bool.and_eq_true, List.contains_iff_mem]
    · intro id member outside
      rw [forsaken.hostCallbacks]
      refine List.mem_filter.mpr ⟨member, ?_⟩
      rw [List.contains_iff_mem.mpr member, Bool.true_and] at outside
      rw [outside]
      rfl
    · intro id named
      rw [Bool.and_eq_true] at named
      obtain ⟨capability, found, includes⟩ := Option.any_eq_true _ _ |>.mp named.2
      exact ⟨peer, capability, removes, found, includes⟩
    · intro other removed id member capability found includes
      rw [only other removed] at includes
      rw [Bool.and_eq_true, List.contains_iff_mem]
      refine ⟨member, ?_⟩
      rw [callbackIncludes, found]
      exact includes

end Router

end TinyBus
