/-
The invariant of the routing table.  Names point to attached peers, an attached
peer owns the unique name of its number, and numbers only grow.  Each operation
of the broker is one of a few moves of the names and the peers; the invariant
and the account of name changes are proved for the moves.
-/

import TinyBus.RouterOps

namespace TinyBus

namespace Router

structure Consistent (router : Router) : Prop where
  ownersAttached : ∀ name id, router.names.lookup name = some id →
    ∃ peer, router.peers.lookup id = some peer
  ownsUnique : ∀ id peer, router.peers.lookup id = some peer →
    peer.unique = BusName.unique id ∧
      router.names.lookup (BusName.unique id) = some id
  bounded : ∀ id peer, router.peers.lookup id = some peer → id ≤ router.nextId
  uniqueOwner : ∀ name id, router.names.lookup name = some id →
    name.isUnique = true → name = BusName.unique id
  busUnowned : router.names.lookup busName = none

inductive Performed (router : Router) :
    Except Error (List NameChange) × Router → Prop
  | refused {error : Error} : Performed router (.error error, router)
  | kept {after : Router} (names : after.names = router.names)
      (nextId : after.nextId = router.nextId)
      (uniques : ∀ id, (after.peers.lookup id).map Peer.unique =
        (router.peers.lookup id).map Peer.unique) :
      Performed router (.ok [], after)
  | attached (outbox : Outbox) :
      Performed router (.ok [], (router.attach outbox).2)
  | repeated {id : PeerId} {name : BusName} {peer : Peer}
      (present : router.peers.lookup id = some peer)
      (held : router.names.lookup name = some id) :
      Performed router (.ok [⟨name, some peer.unique, some peer.unique⟩], router)
  | claimed {id : PeerId} {name : BusName} {peer : Peer}
      (present : router.peers.lookup id = some peer)
      (free : router.names.lookup name = none)
      (plain : name.isUnique = false) (unreserved : name ≠ busName) :
      Performed router (.ok [⟨name, none, some peer.unique⟩],
        { router with names := router.names.insert name id })
  | released {id : PeerId} {name : BusName} {peer : Peer}
      (present : router.peers.lookup id = some peer)
      (held : router.names.lookup name = some id)
      (plain : name.isUnique = false) :
      Performed router (.ok [⟨name, some peer.unique, none⟩],
        { router with names := router.names.erase name })
  | detached {id : PeerId} {peer : Peer}
      (present : router.peers.lookup id = some peer) :
      Performed router (.ok (router.detach id).1, (router.detach id).2)

variable {id : PeerId} {peer : Peer} {router : Router}

theorem uniqueOf_present (present : router.peers.lookup id = some peer) :
    router.uniqueOf id = .ok peer.unique := by
  rw [uniqueOf, present]

theorem performed_unchanged : Performed router (.ok [], router) :=
  .kept rfl rfl (fun _ => rfl)

theorem performed_modifyPeer (router : Router) (id : PeerId) (update : Peer → Peer)
    (keeps : ∀ peer, (update peer).unique = peer.unique) :
    Performed router (.ok [], router.modifyPeer id update) :=
  .kept rfl rfl (router.modifyPeer_uniques id update keeps)

theorem performed_requestName (consistent : router.Consistent)
    (present : router.peers.lookup id = some peer) (name : BusName) :
    Performed router (reported (router.requestName id name)) := by
  unfold requestName
  by_cases unique : name.isUnique = true
  · rw [if_pos unique]
    exact .refused
  · rw [if_neg unique]
    by_cases reserved : name = busName
    · rw [if_pos reserved]
      exact .refused
    · rw [if_neg reserved]
      cases found : router.names.lookup name with
      | none =>
          have claimant :
              ({ router with names := router.names.insert name id } : Router).uniqueOf id =
                .ok peer.unique := uniqueOf_present present
          simp only [claimant]
          exact .claimed present found (Bool.not_eq_true _ ▸ unique) reserved
      | some owner =>
          by_cases own : owner = id
          · subst own
            simp only [if_true, uniqueOf_present present]
            exact .repeated present found
          · obtain ⟨holder, attached⟩ := consistent.ownersAttached name owner found
            simp only [if_neg own, uniqueOf_present attached]
            exact .refused

theorem performed_releaseName (consistent : router.Consistent)
    (present : router.peers.lookup id = some peer) (name : BusName) :
    Performed router (reported (router.releaseName id name)) := by
  unfold releaseName
  by_cases unique : name.isUnique = true
  · rw [if_pos unique]
    exact .refused
  · rw [if_neg unique]
    cases found : router.names.lookup name with
    | none => exact .refused
    | some owner =>
        by_cases own : owner = id
        · subst own
          have holder :
              ({ router with names := router.names.erase name } : Router).uniqueOf owner =
                .ok peer.unique := uniqueOf_present present
          simp only [if_true, holder]
          exact .released present found (Bool.not_eq_true _ ▸ unique)
        · obtain ⟨holder, attached⟩ := consistent.ownersAttached name owner found
          simp only [if_neg own, uniqueOf_present attached]
          exact .refused

theorem performed_detach (router : Router) (id : PeerId) :
    Performed router (.ok (router.detach id).1, (router.detach id).2) := by
  cases present : router.peers.lookup id with
  | none =>
      rw [detach_of_absent present]
      exact performed_unchanged
  | some peer => exact .detached present

theorem perform_performed (consistent : router.Consistent) (op : RouterOp)
    (issued : op.Issued router) :
    Performed router (router.perform op) := by
  cases op with
  | attach outbox => exact .attached outbox
  | detach id => exact performed_detach router id
  | detachUnique unique =>
      change Performed router
        (.ok (router.detachUnique unique).1, (router.detachUnique unique).2)
      unfold detachUnique
      cases router.names.lookup unique with
      | none => exact performed_unchanged
      | some id => exact performed_detach router id
  | requestName id name =>
      obtain ⟨unique, attached⟩ := issued
      obtain ⟨_, peer, present, _⟩ := isAttached_iff.mp attached
      exact performed_requestName consistent present name
  | requestNameForUnique unique name =>
      change Performed router (reported (router.requestNameForUnique unique name))
      unfold requestNameForUnique
      cases found : router.names.lookup unique with
      | none => exact .refused
      | some id =>
          obtain ⟨peer, present⟩ := consistent.ownersAttached unique id found
          exact performed_requestName consistent present name
  | releaseName id name =>
      obtain ⟨unique, attached⟩ := issued
      obtain ⟨_, peer, present, _⟩ := isAttached_iff.mp attached
      exact performed_releaseName consistent present name
  | releaseNameForUnique unique name =>
      change Performed router (reported (router.releaseNameForUnique unique name))
      unfold releaseNameForUnique
      cases found : router.names.lookup unique with
      | none => exact .refused
      | some id =>
          obtain ⟨peer, present⟩ := consistent.ownersAttached unique id found
          cases checked : router.ensurePeerAttached id unique with
          | error refusal =>
              simp only [checked]
              exact .refused
          | ok _ =>
              simp only [checked]
              exact performed_releaseName consistent present name
  | setManifest id manifest => exact performed_modifyPeer router id _ (fun _ => rfl)
  | addMatch id rule => exact performed_modifyPeer router id _ (fun _ => rfl)
  | removeMatch id rule => exact performed_modifyPeer router id _ (fun _ => rfl)
  | setAttestation id attestation =>
      exact performed_modifyPeer router id _ (fun _ => rfl)
  | setAttestationForUnique unique attestation =>
      change Performed router
        (.ok [], router.setAttestationForUnique unique attestation)
      unfold setAttestationForUnique
      cases router.names.lookup unique with
      | none => exact performed_unchanged
      | some id =>
          refine .kept rfl rfl ?_
          intro other
          have marked := modifyPeer_uniques router id
            (fun peer => { peer with admittedArtifact := some attestation })
            (fun _ => rfl) other
          exact (modifyPeer_uniques _ id (fun peer =>
            { peer with
              attestations := peer.attestations.insert attestation.name attestation })
            (fun _ => rfl) other).trans marked
  | createCallback id state =>
      change Performed router (.ok [], router.createCallback id state)
      unfold createCallback
      cases router.callbacks.lookup id with
      | none => exact .kept rfl rfl (fun _ => rfl)
      | some _ => exact performed_unchanged
  | bindModule id module live => exact .kept rfl rfl (fun _ => rfl)
  | setModuleLive id live => exact .kept rfl rfl (fun _ => rfl)
  | revokeCallback id => exact .kept rfl rfl (fun _ => rfl)
  | addHostCallbacks id =>
      change Performed router
        ((router.addHostCallbacks id).1.map (fun _ => []), (router.addHostCallbacks id).2)
      rcases router.addHostCallbacks_cases id with ⟨error, refused⟩ | ⟨_, _, _, _, _, _, _, added⟩
      · rw [refused]
        exact .refused
      · rw [added]
        exact .kept rfl rfl (fun _ => rfl)
  | revokeHostCallbacks id => exact .kept rfl rfl (fun _ => rfl)
  | revokeCallbacksForPeer peer => exact .kept rfl rfl (fun _ => rfl)

theorem consistent_empty : Consistent empty where
  ownersAttached := by
    intro name id found
    cases found
  ownsUnique := by
    intro id peer present
    cases present
  bounded := by
    intro id peer present
    cases present
  uniqueOwner := by
    intro name id found
    cases found
  busUnowned := rfl

private theorem present_of_uniques {before after : Router}
    (uniques : ∀ id, (after.peers.lookup id).map Peer.unique =
      (before.peers.lookup id).map Peer.unique) (present : after.peers.lookup id = some peer) :
    ∃ old, before.peers.lookup id = some old ∧ old.unique = peer.unique := by
  have same := uniques id
  rw [present] at same
  exact Option.map_eq_some_iff.mp same.symm

theorem Consistent.kept {before after : Router} (consistent : before.Consistent)
    (names : after.names = before.names) (nextId : after.nextId = before.nextId)
    (uniques : ∀ id, (after.peers.lookup id).map Peer.unique =
      (before.peers.lookup id).map Peer.unique) : after.Consistent where
  ownersAttached := by
    intro name id found
    rw [names] at found
    obtain ⟨peer, present⟩ := consistent.ownersAttached name id found
    exact (present_of_uniques (fun id => (uniques id).symm) present).imp
      (fun _ both => both.1)
  ownsUnique := by
    intro id peer present
    obtain ⟨old, had, same⟩ := present_of_uniques uniques present
    rw [names, ← same]
    exact consistent.ownsUnique id old had
  bounded := by
    intro id peer present
    obtain ⟨old, had, _⟩ := present_of_uniques uniques present
    rw [nextId]
    exact consistent.bounded id old had
  uniqueOwner := by
    intro name id found
    rw [names] at found
    exact consistent.uniqueOwner name id found
  busUnowned := by
    rw [names]
    exact consistent.busUnowned

theorem attach_names_lookup (router : Router) (outbox : Outbox) (name : BusName) :
    (router.attach outbox).2.names.lookup name =
      if name = BusName.unique (router.nextId + 1) then some (router.nextId + 1)
      else router.names.lookup name :=
  Table.lookup_insert_eq _ _ _ _

theorem attach_peers_lookup (router : Router) (outbox : Outbox) (id : PeerId) :
    (router.attach outbox).2.peers.lookup id =
      if id = router.nextId + 1 then some (freshPeer (router.nextId + 1) outbox)
      else router.peers.lookup id :=
  Table.lookup_insert_eq _ _ _ _

theorem Consistent.fresh_absent (consistent : router.Consistent) :
    router.peers.lookup (router.nextId + 1) = none := by
  cases present : router.peers.lookup (router.nextId + 1) with
  | none => rfl
  | some peer =>
      exact absurd (consistent.bounded _ peer present) (Nat.not_succ_le_self _)

theorem Consistent.attach (consistent : router.Consistent)
    (outbox : Outbox) : (router.attach outbox).2.Consistent where
  ownersAttached := by
    intro name id found
    rw [attach_names_lookup] at found
    rw [attach_peers_lookup]
    by_cases fresh : id = router.nextId + 1
    · rw [if_pos fresh]
      exact ⟨_, rfl⟩
    · rw [if_neg fresh]
      by_cases minted : name = BusName.unique (router.nextId + 1)
      · rw [if_pos minted] at found
        exact absurd (Option.some.inj found).symm fresh
      · rw [if_neg minted] at found
        exact consistent.ownersAttached name id found
  ownsUnique := by
    intro id peer present
    rw [attach_peers_lookup] at present
    rw [attach_names_lookup]
    by_cases fresh : id = router.nextId + 1
    · rw [if_pos fresh] at present
      cases present
      rw [fresh, if_pos rfl]
      exact ⟨rfl, rfl⟩
    · rw [if_neg fresh] at present
      rw [if_neg (fun same => fresh (BusName.unique_injective same))]
      exact consistent.ownsUnique id peer present
  bounded := by
    intro id peer present
    rw [attach_peers_lookup] at present
    change id ≤ router.nextId + 1
    by_cases fresh : id = router.nextId + 1
    · exact Nat.le_of_eq fresh
    · rw [if_neg fresh] at present
      exact Nat.le_succ_of_le (consistent.bounded id peer present)
  uniqueOwner := by
    intro name id found unique
    rw [attach_names_lookup] at found
    by_cases minted : name = BusName.unique (router.nextId + 1)
    · rw [if_pos minted] at found
      rw [minted, Option.some.inj found]
    · rw [if_neg minted] at found
      exact consistent.uniqueOwner name id found unique
  busUnowned := by
    rw [attach_names_lookup, if_neg (unique_ne_busName _).symm]
    exact consistent.busUnowned

theorem Consistent.claim (consistent : router.Consistent) {name : BusName}
    (present : router.peers.lookup id = some peer) (plain : name.isUnique = false)
    (unreserved : name ≠ busName) :
    ({ router with names := router.names.insert name id } : Router).Consistent where
  ownersAttached := by
    intro other owner found
    change (router.names.insert name id).lookup other = some owner at found
    rw [Table.lookup_insert_eq] at found
    by_cases same : other = name
    · rw [if_pos same] at found
      cases found
      exact ⟨peer, present⟩
    · rw [if_neg same] at found
      exact consistent.ownersAttached other owner found
  ownsUnique := by
    intro other holder attached
    obtain ⟨unique, owned⟩ := consistent.ownsUnique other holder attached
    refine ⟨unique, ?_⟩
    change (router.names.insert name id).lookup _ = _
    rw [Table.lookup_insert_eq, if_neg]
    · exact owned
    · intro same
      rw [← same, BusName.isUnique_unique] at plain
      cases plain
  bounded := consistent.bounded
  uniqueOwner := by
    intro other owner found unique
    change (router.names.insert name id).lookup other = some owner at found
    rw [Table.lookup_insert_eq] at found
    by_cases same : other = name
    · rw [same, plain] at unique
      cases unique
    · rw [if_neg same] at found
      exact consistent.uniqueOwner other owner found unique
  busUnowned := by
    change (router.names.insert name id).lookup _ = _
    rw [Table.lookup_insert_eq, if_neg (Ne.symm unreserved)]
    exact consistent.busUnowned

theorem Consistent.release (consistent : router.Consistent) {name : BusName}
    (plain : name.isUnique = false) :
    ({ router with names := router.names.erase name } : Router).Consistent where
  ownersAttached := by
    intro other owner found
    change (router.names.erase name).lookup other = some owner at found
    rw [Table.lookup_erase_eq] at found
    split at found
    · cases found
    · exact consistent.ownersAttached other owner found
  ownsUnique := by
    intro other holder attached
    obtain ⟨unique, owned⟩ := consistent.ownsUnique other holder attached
    refine ⟨unique, ?_⟩
    change (router.names.erase name).lookup _ = _
    rw [Table.lookup_erase_eq, if_neg]
    · exact owned
    · intro same
      rw [← same, BusName.isUnique_unique] at plain
      cases plain
  bounded := consistent.bounded
  uniqueOwner := by
    intro other owner found unique
    change (router.names.erase name).lookup other = some owner at found
    rw [Table.lookup_erase_eq] at found
    split at found
    · cases found
    · exact consistent.uniqueOwner other owner found unique
  busUnowned := by
    change (router.names.erase name).lookup _ = _
    rw [Table.lookup_erase_eq]
    split
    · rfl
    · exact consistent.busUnowned

theorem Consistent.detach (consistent : router.Consistent)
    (present : router.peers.lookup id = some peer) :
    (router.detach id).2.Consistent where
  ownersAttached := by
    intro name owner found
    rw [detach_names_lookup present] at found
    split at found
    · cases found
    · rename_i kept
      obtain ⟨holder, attached⟩ := consistent.ownersAttached name owner found
      refine ⟨holder, ?_⟩
      rw [detach_peers present, Table.lookup_erase_eq, if_neg]
      · exact attached
      · intro same
        rw [found, same] at kept
        exact kept rfl
  ownsUnique := by
    intro other holder attached
    rw [detach_peers present, Table.lookup_erase_eq] at attached
    split at attached
    · cases attached
    · rename_i different
      obtain ⟨unique, owned⟩ := consistent.ownsUnique other holder attached
      refine ⟨unique, ?_⟩
      rw [detach_names_lookup present, owned, if_neg]
      intro same
      exact different (Option.some.inj same)
  bounded := by
    intro other holder attached
    rw [detach_peers present, Table.lookup_erase_eq] at attached
    rw [detach_nextId]
    split at attached
    · cases attached
    · exact consistent.bounded other holder attached
  uniqueOwner := by
    intro name owner found unique
    rw [detach_names_lookup present] at found
    split at found
    · cases found
    · exact consistent.uniqueOwner name owner found unique
  busUnowned := by
    rw [detach_names_lookup present]
    split
    · rfl
    · exact consistent.busUnowned

theorem Performed.consistent {outcome : Except Error (List NameChange) × Router}
    (performed : Performed router outcome) (consistent : router.Consistent) :
    outcome.2.Consistent := by
  cases performed with
  | refused => exact consistent
  | kept names nextId uniques => exact consistent.kept names nextId uniques
  | attached outbox => exact consistent.attach outbox
  | repeated _ _ => exact consistent
  | claimed present _ plain unreserved =>
      exact consistent.claim present plain unreserved
  | released _ _ plain => exact consistent.release plain
  | detached present => exact consistent.detach present

theorem brokered_consistent (reached : brokered.Reachable router) : router.Consistent := by
  apply reached.invariant
  · intro first start
    have same : first = empty := start
    rw [same]
    exact consistent_empty
  · intro before op after stepped consistent
    obtain ⟨issued, rfl⟩ := stepped
    exact (perform_performed consistent op issued).consistent consistent

end Router

end TinyBus
