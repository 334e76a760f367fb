/-
The operations on the routing table as one system, and what a single operation
can do to the names and the attached peers.  The broker issues the operations
of a connection only after it checked, under the same lock, that the peer is
attached; the system restricted to such steps is the one the broker runs.
-/

import TinyBus.Library.Transition
import TinyBus.Router

namespace TinyBus

inductive RouterOp where
  | attach (outbox : Outbox)
  | detach (id : PeerId)
  | detachUnique (unique : BusName)
  | requestName (id : PeerId) (name : BusName)
  | requestNameForUnique (unique name : BusName)
  | releaseName (id : PeerId) (name : BusName)
  | releaseNameForUnique (unique name : BusName)
  | setManifest (id : PeerId) (manifest : PeerManifest)
  | addMatch (id : PeerId) (rule : MatchRule)
  | removeMatch (id : PeerId) (rule : MatchRule)
  | setAttestation (id : PeerId) (attestation : Attestation)
  | setAttestationForUnique (unique : BusName) (attestation : Attestation)
  | createCallback (id : CallbackId) (state : CallbackState)
  | bindModule (id : CallbackId) (module : BusName) (live : Bool)
  | setModuleLive (id : CallbackId) (live : Bool)
  | revokeCallback (id : CallbackId)
  | addHostCallbacks (id : CallbackId)
  | revokeHostCallbacks (id : CallbackId)
  | revokeCallbacksForPeer (peer : BusName)

namespace Router

def createCallback (router : Router) (id : CallbackId) (state : CallbackState) :
    Router :=
  match router.callbacks.lookup id with
  | some _ => router
  | none =>
      { router with
        callbacks := router.callbacks.insert id { state with revoked := false } }

def modifyCallback (router : Router) (id : CallbackId)
    (update : CallbackState → CallbackState) : Router :=
  { router with callbacks := router.callbacks.modify id update }

def quiet (router : Router) : Except Error (List NameChange) × Router :=
  (.ok [], router)

def reported (result : Except Error NameChange × Router) :
    Except Error (List NameChange) × Router :=
  (result.1.map (fun change => [change]), result.2)

/-- The result of an operation, as the changes it reports, and the table it
leaves. -/
def perform (router : Router) : RouterOp →
    Except Error (List NameChange) × Router
  | .attach outbox => quiet (router.attach outbox).2
  | .detach id => (.ok (router.detach id).1, (router.detach id).2)
  | .detachUnique unique =>
      (.ok (router.detachUnique unique).1, (router.detachUnique unique).2)
  | .requestName id name => reported (router.requestName id name)
  | .requestNameForUnique unique name =>
      reported (router.requestNameForUnique unique name)
  | .releaseName id name => reported (router.releaseName id name)
  | .releaseNameForUnique unique name =>
      reported (router.releaseNameForUnique unique name)
  | .setManifest id manifest => quiet (router.setManifest id manifest)
  | .addMatch id rule => quiet (router.addMatch id rule)
  | .removeMatch id rule => quiet (router.removeMatch id rule)
  | .setAttestation id attestation => quiet (router.setAttestation id attestation)
  | .setAttestationForUnique unique attestation =>
      quiet (router.setAttestationForUnique unique attestation)
  | .createCallback id state => quiet (router.createCallback id state)
  | .bindModule id module live =>
      quiet (router.modifyCallback id (fun state => state.bindModule module live))
  | .setModuleLive id live =>
      quiet (router.modifyCallback id (fun state => { state with moduleLive := live }))
  | .revokeCallback id => quiet (router.modifyCallback id CallbackState.revoke)
  | .addHostCallbacks id =>
      ((router.addHostCallbacks id).1.map (fun _ => []), (router.addHostCallbacks id).2)
  | .revokeHostCallbacks id => quiet (router.revokeHostCallbacks id)
  | .revokeCallbacksForPeer peer => quiet (router.revokeCallbacksForPeer peer)

/-- Every sequence of operations, from the empty table. -/
def system : TransitionSystem.System Router RouterOp :=
  TransitionSystem.System.ofFunction (fun router => router = empty)
    (fun router op => (router.perform op).2)

end Router

def RouterOp.Issued (router : Router) : RouterOp → Prop
  | .requestName id _ => ∃ unique, router.isAttached id unique = true
  | .releaseName id _ => ∃ unique, router.isAttached id unique = true
  | .addMatch id _ => ∃ unique, router.isAttached id unique = true
  | .removeMatch id _ => ∃ unique, router.isAttached id unique = true
  | _ => True

def RouterOp.Requests (router : Router) (op : RouterOp) (id : PeerId) (name : BusName) :
    Prop :=
  op = .requestName id name ∨
    ∃ unique, op = .requestNameForUnique unique name ∧
      router.names.lookup unique = some id

namespace Router

def brokered : TransitionSystem.System Router RouterOp :=
  system.restrict (fun router op => op.Issued router)

variable {id : PeerId} {router : Router} {op : RouterOp}

theorem isAttached_iff {unique : BusName} :
    router.isAttached id unique = true ↔
      router.names.lookup unique = some id ∧
        ∃ peer, router.peers.lookup id = some peer ∧ peer.unique = unique := by
  rw [isAttached, Bool.and_eq_true, beq_iff_eq, Option.any_eq_true]
  simp only [beq_iff_eq]

@[simp] theorem ensurePeerAttached_ok_iff {unique : BusName} :
    router.ensurePeerAttached id unique = .ok () ↔
      router.isAttached id unique = true := by
  rw [ensurePeerAttached]
  by_cases attached : router.isAttached id unique = true
  · rw [if_pos attached]
    exact iff_of_true rfl attached
  · rw [if_neg attached]
    exact iff_of_false (by intro impossible; cases impossible) attached

@[simp] theorem revokeCallbacksForPeer_names (router : Router) (peer : BusName) :
    (router.revokeCallbacksForPeer peer).names = router.names := rfl

theorem modifyPeer_uniques (router : Router) (id : PeerId) (update : Peer → Peer)
    (keeps : ∀ peer, (update peer).unique = peer.unique) (other : PeerId) :
    ((router.modifyPeer id update).peers.lookup other).map Peer.unique =
      (router.peers.lookup other).map Peer.unique := by
  rw [modifyPeer, Table.lookup_modify]
  by_cases same : other = id
  · rw [if_pos same, same]
    cases router.peers.lookup id with
    | none => rfl
    | some peer => exact congrArg some (keeps peer)
  · rw [if_neg same]

theorem addHostCallbacks_cases (router : Router) (id : CallbackId) :
    (∃ error, router.addHostCallbacks id = (.error error, router)) ∨
      ∃ capability source,
        router.callbacks.lookup id = some capability ∧
        capability.module = some source ∧
        router.attestationOf source ≠ none ∧
        router.ownerOf capability.destination ≠ none ∧
        (∀ entry ∈ router.hostCallbacks, entry ≠ id ∧
          router.destinationOf entry ≠ some capability.destination) ∧
        router.addHostCallbacks id =
          (.ok (), { router with hostCallbacks := router.hostCallbacks ++ [id] }) := by
  unfold addHostCallbacks
  split
  · exact .inl ⟨_, rfl⟩
  · rename_i capability found
    split
    · exact .inl ⟨_, rfl⟩
    · rename_i fresh
      split
      · exact .inl ⟨_, rfl⟩
      · split
        · exact .inl ⟨_, rfl⟩
        · rename_i source bound
          split
          · exact .inl ⟨_, rfl⟩
          · rename_i admitted
            rw [not_or] at admitted
            refine .inr ⟨capability, source, found, bound, admitted.1, admitted.2, ?_, rfl⟩
            intro entry member
            rw [List.any_eq_true] at fresh
            constructor
            · intro same
              exact fresh ⟨entry, member, by simp [same]⟩
            · intro same
              exact fresh ⟨entry, member, by simp [same]⟩

theorem mem_namesOwnedBy {name : BusName} :
    name ∈ router.namesOwnedBy id ↔ router.names.lookup name = some id := by
  rw [← Table.mem_pairs_iff_lookup, namesOwnedBy, List.mem_map]
  constructor
  · rintro ⟨⟨found, owner⟩, member, rfl⟩
    obtain ⟨present, same⟩ := List.mem_filter.mp member
    rw [beq_iff_eq] at same
    cases same
    exact present
  · intro present
    exact ⟨(name, id), List.mem_filter.mpr ⟨present, beq_self_eq_true id⟩, rfl⟩

theorem namesOwnedBy_nodup (router : Router) (id : PeerId) :
    (router.namesOwnedBy id).Nodup :=
  (router.names.pairs_keys_nodup).sublist (List.filter_sublist.map Prod.fst)

theorem detach_of_absent (absent : router.peers.lookup id = none) :
    router.detach id = ([], router) := by
  rw [detach, absent]

theorem detach_names_lookup {peer : Peer} (present : router.peers.lookup id = some peer)
    (name : BusName) :
    (router.detach id).2.names.lookup name =
      if router.names.lookup name = some id then none
      else router.names.lookup name := by
  rw [detach, present]
  simp only [Table.lookup_retain, revokeCallbacksForPeer_names]
  by_cases owned : router.names.lookup name = some id
  · rw [if_pos owned, owned, Option.filter_some, if_neg]
    rw [Bool.not_eq_true', Bool.not_eq_false]
    rw [List.contains_iff_mem]
    exact mem_namesOwnedBy.mpr owned
  · rw [if_neg owned]
    cases found : router.names.lookup name with
    | none => rfl
    | some owner =>
        rw [Option.filter_some, if_pos]
        rw [Bool.not_eq_true', ← Bool.not_eq_true, List.contains_iff_mem]
        intro member
        exact owned (mem_namesOwnedBy.mp member)

theorem detach_peers {peer : Peer} (present : router.peers.lookup id = some peer) :
    (router.detach id).2.peers = router.peers.erase id := by
  rw [detach, present]
  rfl

theorem detach_nextId (router : Router) (id : PeerId) :
    (router.detach id).2.nextId = router.nextId := by
  unfold detach
  cases router.peers.lookup id <;> rfl

theorem detach_changes {peer : Peer} (present : router.peers.lookup id = some peer) :
    (router.detach id).1 =
      (router.namesOwnedBy id).map (fun name => ⟨name, some peer.unique, none⟩) := by
  rw [detach, present]
  rfl

def RevokedInactive (callbacks : Table CallbackId CallbackState) : Prop :=
  ∀ id state, callbacks.lookup id = some state → state.revoked = true →
    state.active = false

private theorem RevokedInactive.modify {callbacks : Table CallbackId CallbackState}
    (inactive : RevokedInactive callbacks) (id : CallbackId)
    {update : CallbackState → CallbackState}
    (keeps : ∀ state, (state.revoked = true → state.active = false) →
      (update state).revoked = true → (update state).active = false) :
    RevokedInactive (callbacks.modify id update) := by
  intro other state found revoked
  rw [Table.lookup_modify] at found
  split at found
  · obtain ⟨old, had, rfl⟩ := Option.map_eq_some_iff.mp found
    exact keeps old (inactive id old had) revoked
  · exact inactive other state found revoked

private theorem RevokedInactive.revoke {callbacks : Table CallbackId CallbackState}
    (inactive : RevokedInactive callbacks) (id : CallbackId) :
    RevokedInactive (revokeState callbacks id) :=
  inactive.modify id (fun _ _ _ => rfl)

private theorem RevokedInactive.revokeAll (ids : List CallbackId) :
    ∀ {callbacks : Table CallbackId CallbackState}, RevokedInactive callbacks →
      RevokedInactive (ids.foldl revokeState callbacks) := by
  induction ids with
  | nil => exact fun inactive => inactive
  | cons id rest ih => exact fun inactive => ih (inactive.revoke id)

theorem detach_inactive (target : PeerId) (inactive : RevokedInactive router.callbacks) :
    RevokedInactive (router.detach target).2.callbacks := by
  unfold detach
  split
  · exact inactive
  · exact .revokeAll _ inactive

private theorem bindModule_inactive (module : BusName) (live : Bool)
    (state : CallbackState) (held : state.revoked = true → state.active = false)
    (revoked : (state.bindModule module live).revoked = true) :
    (state.bindModule module live).active = false := by
  unfold CallbackState.bindModule at revoked ⊢
  split
  · rename_i bound
    rw [if_pos bound] at revoked
    exact held revoked
  · rename_i unbound
    rw [if_neg unbound] at revoked
    exact absurd (by simp [show state.revoked = true from revoked]) unbound

private theorem createCallback_inactive (id : CallbackId) (state : CallbackState)
    (inactive : RevokedInactive router.callbacks) :
    RevokedInactive (router.createCallback id state).callbacks := by
  unfold createCallback
  split
  · exact inactive
  · intro other found lookup revoked
    change (router.callbacks.insert id { state with revoked := false }).lookup other =
      some found at lookup
    rw [Table.lookup_insert_eq] at lookup
    split at lookup
    · cases lookup
      cases revoked
    · exact inactive other found lookup revoked

inductive Leaves (router : Router) (op : RouterOp) : Router → Prop
  | same : Leaves router op router
  | attached {outbox : Outbox} (asked : op = .attach outbox) :
      Leaves router op (router.attach outbox).2
  | detached {id : PeerId} {peer : Peer} (present : router.peers.lookup id = some peer)
      (asked : op = .detach id ∨ ∃ unique, op = .detachUnique unique ∧
        router.names.lookup unique = some id) :
      Leaves router op (router.detach id).2
  | claimed {id : PeerId} {name : BusName} (plain : name.isUnique = false)
      (unreserved : name ≠ busName) (free : router.names.lookup name = none)
      (asked : RouterOp.Requests router op id name) :
      Leaves router op { router with names := router.names.insert name id }
  | released {id : PeerId} {name : BusName} (plain : name.isUnique = false)
      (held : router.names.lookup name = some id)
      (asked : op = .releaseName id name ∨
        ∃ unique, op = .releaseNameForUnique unique name ∧
          router.names.lookup unique = some id) :
      Leaves router op { router with names := router.names.erase name }
  | updated {id : PeerId} {update : Peer → Peer}
      (unique : ∀ peer, (update peer).unique = peer.unique)
      (attestations : ∀ peer, (update peer).attestations = peer.attestations)
      (admitted : ∀ peer, (update peer).admittedArtifact = peer.admittedArtifact)
      (outboxes : ∀ peer, (update peer).outbox = peer.outbox) :
      Leaves router op (router.modifyPeer id update)
  | attested {id : PeerId} {attestation : Attestation}
      (asked : op = .setAttestation id attestation) :
      Leaves router op (router.setAttestation id attestation)
  | admitted {id : PeerId} {unique : BusName} {attestation : Attestation}
      (asked : op = .setAttestationForUnique unique attestation)
      (owned : router.names.lookup unique = some id) :
      Leaves router op ((router.modifyPeer id (fun peer =>
        { peer with admittedArtifact := some attestation })).setAttestation id attestation)
  | capabilities {hostCallbacks : List CallbackId}
      {callbacks : Table CallbackId CallbackState}
      (fewer : ∀ id ∈ hostCallbacks, id ∈ router.hostCallbacks)
      (inactive : RevokedInactive router.callbacks → RevokedInactive callbacks) :
      Leaves router op
        { router with hostCallbacks := hostCallbacks, callbacks := callbacks }
  | registered {id : CallbackId} (asked : op = .addHostCallbacks id)
      (accepted : (router.addHostCallbacks id).1 = .ok ()) :
      Leaves router op { router with hostCallbacks := router.hostCallbacks ++ [id] }

private theorem requestName_leaves {name : BusName} (asked : RouterOp.Requests router op id name) :
    Leaves router op (router.requestName id name).2 := by
  unfold requestName
  split
  · exact .same
  · rename_i plain
    split
    · exact .same
    · rename_i unreserved
      split
      · split
        · exact .same
        · exact .same
      · rename_i free
        exact .claimed (Bool.not_eq_true _ ▸ plain) unreserved free asked

private theorem releaseName_leaves {name : BusName} (asked : op = .releaseName id name ∨
      ∃ unique, op = .releaseNameForUnique unique name ∧
        router.names.lookup unique = some id) :
    Leaves router op (router.releaseName id name).2 := by
  unfold releaseName
  split
  · exact .same
  · rename_i plain
    split
    · rename_i owner held
      split
      · rename_i own
        rw [own] at held
        exact .released (Bool.not_eq_true _ ▸ plain) held asked
      · exact .same
    · exact .same

private theorem detach_leaves (asked : op = .detach id ∨ ∃ unique, op = .detachUnique unique ∧
      router.names.lookup unique = some id) :
    Leaves router op (router.detach id).2 := by
  cases present : router.peers.lookup id with
  | none =>
      rw [detach_of_absent present]
      exact .same
  | some peer => exact .detached present asked

theorem perform_leaves (router : Router) (op : RouterOp) :
    Leaves router op (router.perform op).2 := by
  cases op with
  | attach outbox => exact .attached rfl
  | detach id => exact detach_leaves (.inl rfl)
  | detachUnique unique =>
      change Leaves router _ (router.detachUnique unique).2
      unfold detachUnique
      split
      · rename_i id owned
        exact detach_leaves (.inr ⟨unique, rfl, owned⟩)
      · exact .same
  | requestName id name => exact requestName_leaves (.inl rfl)
  | requestNameForUnique unique name =>
      change Leaves router _ (router.requestNameForUnique unique name).2
      unfold requestNameForUnique
      split
      · exact .same
      · rename_i id owned
        exact requestName_leaves (.inr ⟨unique, rfl, owned⟩)
  | releaseName id name => exact releaseName_leaves (.inl rfl)
  | releaseNameForUnique unique name =>
      change Leaves router _ (router.releaseNameForUnique unique name).2
      unfold releaseNameForUnique
      split
      · exact .same
      · rename_i id owned
        split
        · exact .same
        · exact releaseName_leaves (.inr ⟨unique, rfl, owned⟩)
  | setManifest id manifest =>
      exact .updated (fun _ => rfl) (fun _ => rfl) (fun _ => rfl) (fun _ => rfl)
  | addMatch id rule =>
      exact .updated (fun _ => rfl) (fun _ => rfl) (fun _ => rfl) (fun _ => rfl)
  | removeMatch id rule =>
      exact .updated (fun _ => rfl) (fun _ => rfl) (fun _ => rfl) (fun _ => rfl)
  | setAttestation id attestation => exact .attested rfl
  | setAttestationForUnique unique attestation =>
      change Leaves router _ (router.setAttestationForUnique unique attestation)
      unfold setAttestationForUnique
      split
      · exact .same
      · rename_i id owned
        exact .admitted rfl owned
  | createCallback id state =>
      change Leaves router _ (router.createCallback id state)
      have inactive := @createCallback_inactive router id state
      unfold createCallback at inactive ⊢
      split
      · exact .same
      · rename_i absent
        rw [absent] at inactive
        exact .capabilities (fun _ member => member) inactive
  | bindModule id module live =>
      exact .capabilities (fun _ member => member)
        (fun held => held.modify id (bindModule_inactive module live))
  | setModuleLive id live =>
      exact .capabilities (fun _ member => member)
        (fun held => held.modify id (fun _ kept => kept))
  | revokeCallback id =>
      exact .capabilities (fun _ member => member) (fun held => held.revoke id)
  | addHostCallbacks id =>
      change Leaves router _ (router.addHostCallbacks id).2
      rcases router.addHostCallbacks_cases id with ⟨_, refused⟩ | ⟨_, _, _, _, _, _, _, added⟩
      · rw [refused]
        exact .same
      · rw [added]
        exact .registered rfl (congrArg Prod.fst added)
  | revokeHostCallbacks id =>
      exact .capabilities (fun _ member => List.mem_of_mem_filter member)
        (fun held => held.revoke id)
  | revokeCallbacksForPeer peer =>
      exact .capabilities (fun _ member => List.mem_of_mem_filter member)
        (fun held => .revokeAll _ held)

theorem perform_plain_owner {name : BusName} (plain : name.isUnique = false)
    (owned : (router.perform op).2.names.lookup name = some id) :
    router.names.lookup name = some id ∨
      (router.names.lookup name = none ∧ RouterOp.Requests router op id name) := by
  have leaves := perform_leaves router op
  generalize (router.perform op).2 = after at leaves owned
  cases leaves with
  | attached _ =>
      change (router.names.insert (BusName.unique _) _).lookup name = some id at owned
      rw [Table.lookup_insert_eq] at owned
      split at owned
      · rename_i same
        rw [same, BusName.isUnique_unique] at plain
        cases plain
      · exact .inl owned
  | detached present _ =>
      rw [detach_names_lookup present] at owned
      split at owned
      · cases owned
      · exact .inl owned
  | claimed _ _ free asked =>
      change (router.names.insert _ _).lookup name = some id at owned
      rw [Table.lookup_insert_eq] at owned
      split at owned
      · rename_i same
        cases owned
        rw [same]
        exact .inr ⟨free, asked⟩
      · exact .inl owned
  | released _ _ _ =>
      change (router.names.erase _).lookup name = some id at owned
      rw [Table.lookup_erase_eq] at owned
      split at owned
      · cases owned
      · exact .inl owned
  | _ => exact .inl owned

private theorem modifyPeer_outbox {target : PeerId} {update : Peer → Peer} {peer : Peer}
    (present : (router.modifyPeer target update).peers.lookup id = some peer)
    (keeps : ∀ peer, (update peer).outbox = peer.outbox) :
    ∃ old, router.peers.lookup id = some old ∧ peer.outbox = old.outbox := by
  rw [modifyPeer, Table.lookup_modify] at present
  split at present
  · rename_i same
    obtain ⟨old, had, rfl⟩ := Option.map_eq_some_iff.mp present
    rw [same]
    exact ⟨old, had, keeps old⟩
  · exact ⟨peer, present, rfl⟩

theorem perform_outbox {peer : Peer} (present : (router.perform op).2.peers.lookup id = some peer) :
    (∃ old, router.peers.lookup id = some old ∧ peer.outbox = old.outbox) ∨
      op = .attach peer.outbox := by
  have leaves := perform_leaves router op
  generalize (router.perform op).2 = after at leaves present
  cases leaves with
  | attached asked =>
      change (router.peers.insert _ _).lookup id = some peer at present
      rw [Table.lookup_insert_eq] at present
      split at present
      · cases present
        exact .inr asked
      · exact .inl ⟨peer, present, rfl⟩
  | detached found _ =>
      rw [detach_peers found, Table.lookup_erase_eq] at present
      split at present
      · cases present
      · exact .inl ⟨peer, present, rfl⟩
  | updated _ _ _ outboxes => exact .inl (modifyPeer_outbox present outboxes)
  | attested _ =>
      unfold setAttestation at present
      exact .inl (modifyPeer_outbox present (fun _ => rfl))
  | admitted _ _ =>
      unfold setAttestation at present
      obtain ⟨middle, had, later⟩ := modifyPeer_outbox present (fun _ => rfl)
      obtain ⟨old, first, earlier⟩ := modifyPeer_outbox had (fun _ => rfl)
      exact .inl ⟨old, first, later.trans earlier⟩
  | _ => exact .inl ⟨peer, present, rfl⟩

end Router

end TinyBus
