/-
Who may receive a confidential call.  Attestations live with the peer they were
granted to, admitted artifacts with the connection, callback capabilities in
their own list; whatever the order of operations, resolution hands a
confidential call only to a recipient whose authority an earlier operation
granted, and to that very recipient.
-/

import TinyBus.Broker
import TinyBus.RouterOwnership

namespace TinyBus

open TransitionSystem

def RouterOp.Attests (id : PeerId) (name : BusName) (router : Router)
    (op : RouterOp) : Prop :=
  (∃ peer, router.peers.lookup id = some peer) ∧
    ∃ attestation : Attestation, attestation.name = name ∧
      (op = .setAttestation id attestation ∨
        ∃ unique, op = .setAttestationForUnique unique attestation ∧
          router.names.lookup unique = some id)

def RouterOp.Admits (id : PeerId) (router : Router) (op : RouterOp) : Prop :=
  (∃ peer, router.peers.lookup id = some peer) ∧
    ∃ unique attestation, op = .setAttestationForUnique unique attestation ∧
      router.names.lookup unique = some id

def RouterOp.Registers (capability : CallbackId) (router : Router)
    (op : RouterOp) : Prop :=
  op = .addHostCallbacks capability ∧
    (router.addHostCallbacks capability).1 = .ok ()

namespace Router

/-- A peer after an operation is as it was, is new and without authority, or
has just been granted some. -/
inductive PeerOrigin (router : Router) (op : RouterOp) (id : PeerId) (peer : Peer) :
    Prop
  | kept (old : Peer) (present : router.peers.lookup id = some old)
      (unique : peer.unique = old.unique)
      (attestations : peer.attestations = old.attestations)
      (admitted : peer.admittedArtifact = old.admittedArtifact)
  | fresh (unique : peer.unique = BusName.unique id)
      (attestations : peer.attestations = ∅)
      (admitted : peer.admittedArtifact = none)
  | attested (old : Peer) (present : router.peers.lookup id = some old)
      (unique : peer.unique = old.unique) (attestation : Attestation)
      (granted : op = .setAttestation id attestation)
      (attestations :
        peer.attestations = old.attestations.insert attestation.name attestation)
      (admitted : peer.admittedArtifact = old.admittedArtifact)
  | admitted (old : Peer) (present : router.peers.lookup id = some old)
      (unique : peer.unique = old.unique) (name : BusName)
      (attestation : Attestation)
      (granted : op = .setAttestationForUnique name attestation)
      (owned : router.names.lookup name = some id)
      (attestations :
        peer.attestations = old.attestations.insert attestation.name attestation)

variable {router : Router}

private theorem PeerOrigin.same {op : RouterOp} {id : PeerId} {peer : Peer}
    (present : router.peers.lookup id = some peer) :
    PeerOrigin router op id peer :=
  .kept peer present rfl rfl rfl

private theorem modifyPeer_lookup {target id : PeerId} {update : Peer → Peer} {peer : Peer}
    (present : (router.modifyPeer target update).peers.lookup id = some peer) :
    ∃ old, router.peers.lookup id = some old ∧
      peer = if id = target then update old else old := by
  rw [modifyPeer, Table.lookup_modify] at present
  by_cases same : id = target
  · rw [if_pos same] at present
    obtain ⟨old, had, updated⟩ := Option.map_eq_some_iff.mp present
    rw [same]
    exact ⟨old, had, by rw [if_pos rfl, updated]⟩
  · rw [if_neg same] at present
    exact ⟨peer, present, by rw [if_neg same]⟩

theorem peer_origin (router : Router) (op : RouterOp) {id : PeerId} {peer : Peer}
    (present : (router.perform op).2.peers.lookup id = some peer) :
    PeerOrigin router op id peer := by
  have left := router.perform_leaves op
  generalize (router.perform op).2 = after at left present
  cases left with
  | attached _ =>
      change (router.peers.insert _ _).lookup id = some peer at present
      rw [Table.lookup_insert_eq] at present
      by_cases new : id = router.nextId + 1
      · rw [if_pos new] at present
        cases present
        rw [new]
        exact .fresh rfl rfl rfl
      · rw [if_neg new] at present
        exact .same present
  | detached found _ =>
      rw [detach_peers found, Table.lookup_erase_eq] at present
      split at present
      · cases present
      · exact .same present
  | updated unique attestations admitted =>
      obtain ⟨old, had, same⟩ := modifyPeer_lookup present
      split at same
      · subst same
        exact .kept old had (unique old) (attestations old) (admitted old)
      · subst same
        exact .same had
  | @attested target attestation asked =>
      obtain ⟨old, had, same⟩ := modifyPeer_lookup present
      by_cases here : id = target
      · rw [if_pos here] at same
        subst same here
        exact .attested old had rfl attestation asked rfl rfl
      · rw [if_neg here] at same
        subst same
        exact .same had
  | @admitted target unique attestation asked owned =>
      obtain ⟨middle, reached, same⟩ := modifyPeer_lookup present
      obtain ⟨old, had, before⟩ := modifyPeer_lookup reached
      by_cases here : id = target
      · rw [if_pos here] at same before
        subst same before here
        exact .admitted old had rfl unique attestation asked owned rfl
      · rw [if_neg here] at same before
        subst same before
        exact .same had
  | _ => exact .same present

theorem unique_name_origin (router : Router) (op : RouterOp) {id : PeerId}
    {name : BusName} (unique : name.isUnique = true)
    (found : (router.perform op).2.names.lookup name = some id) :
    router.names.lookup name = some id ∨ name = BusName.unique id := by
  have left := router.perform_leaves op
  generalize (router.perform op).2 = after at left found
  cases left with
  | attached _ =>
      change (router.names.insert _ _).lookup name = some id at found
      rw [Table.lookup_insert_eq] at found
      by_cases minted : name = BusName.unique (router.nextId + 1)
      · rw [if_pos minted] at found
        right
        rw [minted, Option.some.inj found]
      · rw [if_neg minted] at found
        exact .inl found
  | detached present _ =>
      rw [detach_names_lookup present] at found
      split at found
      · cases found
      · exact .inl found
  | @claimed target plain ordinary _ _ =>
      change (router.names.insert plain target).lookup name = some id at found
      rw [AList.lookup_insert_ne] at found
      · exact .inl found
      · intro same
        rw [same, ordinary] at unique
        cases unique
  | @released target plain _ _ _ =>
      change (router.names.erase plain).lookup name = some id at found
      rw [Table.lookup_erase_eq] at found
      split at found
      · cases found
      · exact .inl found
  | _ => exact .inl found

theorem perform_inactive (router : Router) (op : RouterOp)
    (inactive : RevokedInactive router.callbacks) :
    RevokedInactive (router.perform op).2.callbacks := by
  have left := router.perform_leaves op
  generalize (router.perform op).2 = after at left
  cases left with
  | detached _ _ => exact detach_inactive _ inactive
  | capabilities _ keeps => exact keeps inactive
  | _ => exact inactive

theorem hostCallbacks_origin (router : Router) (op : RouterOp) {id : CallbackId}
    (member : id ∈ (router.perform op).2.hostCallbacks) :
    id ∈ router.hostCallbacks ∨ op.Registers id router := by
  have left := router.perform_leaves op
  generalize (router.perform op).2 = after at left member
  cases left with
  | @detached target peer present _ =>
      rw [detach, present] at member
      exact .inl (List.mem_of_mem_filter member)
  | capabilities fewer _ => exact .inl (fewer id member)
  | @registered added asked accepted =>
      rcases List.mem_append.mp member with old | new
      · exact .inl old
      · rw [List.mem_singleton] at new
        subst new
        exact .inr ⟨asked, accepted⟩
  | _ => exact .inl member

structure Authority (ops : List RouterOp) (router : Router) : Prop where
  namesMinted : ∀ name id, router.names.lookup name = some id →
    name.isUnique = true → name = BusName.unique id
  peersMinted : ∀ id peer, router.peers.lookup id = some peer →
    peer.unique = BusName.unique id
  attested : ∀ id peer name, router.peers.lookup id = some peer →
    (peer.attestations.lookup name).isSome = true →
      system.Occurred empty ops (RouterOp.Attests id name)
  admitted : ∀ id peer, router.peers.lookup id = some peer →
    peer.admittedArtifact.isSome = true →
      system.Occurred empty ops (RouterOp.Admits id)
  registered : ∀ id ∈ router.hostCallbacks,
    system.Occurred empty ops (RouterOp.Registers id)
  inactive : RevokedInactive router.callbacks

theorem run_authority {ops : List RouterOp}
    (run : system.Run empty ops router) : Authority ops router := by
  induction run with
  | nil =>
      refine ⟨?_, ?_, ?_, ?_, ?_, ?_⟩
      · intro name id found
        cases found
      · intro id peer present
        cases present
      · intro id peer name present
        cases present
      · intro id peer present
        cases present
      · intro id member
        cases member
      · intro id state found
        cases found
  | @snoc before after ops op run stepped held =>
      have same : after = (before.perform op).2 := stepped
      subst same
      refine ⟨?_, ?_, ?_, ?_, ?_, perform_inactive before op held.inactive⟩
      · intro name id found unique
        rcases before.unique_name_origin op unique found with kept | minted
        · exact held.namesMinted name id kept unique
        · exact minted
      · intro id peer present
        cases before.peer_origin op present with
        | kept old had unique _ _ => exact unique.trans (held.peersMinted id old had)
        | fresh unique _ _ => exact unique
        | attested old had unique _ _ _ _ =>
            exact unique.trans (held.peersMinted id old had)
        | admitted old had unique _ _ _ _ _ =>
            exact unique.trans (held.peersMinted id old had)
      · intro id peer name present found
        have grants : ∀ (old : Peer) (attestation : Attestation),
            before.peers.lookup id = some old →
            peer.attestations =
              old.attestations.insert attestation.name attestation →
            (attestation.name = name → op.Attests id name before) →
              system.Occurred empty (ops ++ [op]) (RouterOp.Attests id name) := by
          intro old attestation had same attests
          by_cases named : attestation.name = name
          · exact .last run (attests named)
          · rw [same, AList.lookup_insert_ne (Ne.symm named)] at found
            exact (held.attested id old name had found).snoc op
        cases before.peer_origin op present with
        | kept old had _ same _ =>
            rw [same] at found
            exact (held.attested id old name had found).snoc op
        | fresh _ none _ =>
            rw [none, Table.lookup_empty] at found
            cases found
        | attested old had _ attestation granted same _ =>
            exact grants old attestation had same
              (fun named => ⟨⟨old, had⟩, attestation, named, .inl granted⟩)
        | admitted old had _ unique attestation granted owned same =>
            exact grants old attestation had same
              (fun named => ⟨⟨old, had⟩, attestation, named, .inr ⟨unique, granted, owned⟩⟩)
      · intro id peer present found
        cases before.peer_origin op present with
        | kept old had _ _ same =>
            rw [same] at found
            exact (held.admitted id old had found).snoc op
        | fresh _ _ none =>
            rw [none] at found
            cases found
        | attested old had _ _ _ _ same =>
            rw [same] at found
            exact (held.admitted id old had found).snoc op
        | admitted old had _ unique attestation granted owned _ =>
            exact .last run ⟨⟨old, had⟩, unique, attestation, granted, owned⟩
      · intro id member
        rcases before.hostCallbacks_origin op member with old | new
        · exact (held.registered id old).snoc op
        · exact .last run new

/-- The addressed peer holds an authority that an operation of the run granted
to it: an attestation for exactly the name, an admitted artifact on exactly the
connection, or a live capability, not revoked, that covers the call. -/
inductive MayReceive (ops : List RouterOp) (router : Router) (header : Header)
    (destination : BusName) (id : PeerId) (peer : Peer) : Prop
  | attested (wellKnown : destination.isUnique = false)
      (granted : system.Occurred empty ops (RouterOp.Attests id destination))
  | admitted (unique : peer.unique = destination)
      (granted : system.Occurred empty ops (RouterOp.Admits id))
  | capability (unique : peer.unique = destination) (capability : CallbackId)
      (state : CallbackState) (listed : capability ∈ router.hostCallbacks)
      (granted : system.Occurred empty ops (RouterOp.Registers capability))
      (shared : router.callbacks.lookup capability = some state)
      (unrevoked : state.revoked = false) (covers : state.accepts header = true)

private theorem ownerPeer_some {name : BusName} {peer : Peer}
    (found : router.ownerPeer name = some peer) :
    ∃ id, router.names.lookup name = some id ∧ router.peers.lookup id = some peer := by
  unfold ownerPeer at found
  split at found
  · rename_i id owned
    exact ⟨id, owned, found⟩
  · cases found

private theorem active_of_accepts {state : CallbackState} {header : Header}
    (covers : state.accepts header = true) : state.active = true := by
  unfold CallbackState.accepts at covers
  simp only [Bool.and_eq_true] at covers
  exact covers.1.1.1.1.1.1

theorem resolveCall_confidential {ops : List RouterOp} (authority : Authority ops router)
    {destination : BusName} {expected : Option BusName} {header : Header} {target : Outbox}
    (resolved : router.resolveCall destination expected true header = .ok target) :
    ∃ id peer, router.names.lookup destination = some id ∧
      router.peers.lookup id = some peer ∧ peer.outbox = target ∧
      MayReceive ops router header destination id peer := by
  unfold resolveCall at resolved
  split at resolved
  · cases resolved
  · rw [if_pos rfl] at resolved
    split at resolved
    · rename_i covered
      rw [Bool.and_eq_true] at covered
      unfold resolve at resolved
      split at resolved
      · rename_i peer found
        cases resolved
        obtain ⟨id, owned, present⟩ := ownerPeer_some found
        have unique : peer.unique = destination := by
          rw [authority.peersMinted id peer present,
            authority.namesMinted destination id owned covered.1]
        have listed := covered.2
        unfold callbackAccepts at listed
        rw [List.any_eq_true] at listed
        obtain ⟨capability, member, accepted⟩ := listed
        rw [Option.any_eq_true] at accepted
        obtain ⟨state, shared, covers⟩ := accepted
        have unrevoked : state.revoked = false := by
          rw [← Bool.not_eq_true]
          intro revoked
          have inactive := authority.inactive capability state shared revoked
          rw [active_of_accepts covers] at inactive
          cases inactive
        exact ⟨id, peer, owned, present, rfl,
          .capability unique capability state member
            (authority.registered capability member) shared unrevoked covers⟩
      · cases resolved
    · unfold resolveAttested at resolved
      split at resolved
      · cases resolved
      · rename_i peer found
        obtain ⟨id, owned, present⟩ := ownerPeer_some found
        split at resolved
        · rename_i trusted
          cases resolved
          refine ⟨id, peer, owned, present, rfl, ?_⟩
          unfold isAttestedFor at trusted
          by_cases unique : destination.isUnique = true
          · rw [if_pos unique] at trusted
            have own : peer.unique = destination := by
              rw [authority.peersMinted id peer present,
                authority.namesMinted destination id owned unique]
            exact .admitted own (authority.admitted id peer present trusted)
          · rw [if_neg unique] at trusted
            exact .attested (Bool.not_eq_true _ ▸ unique)
              (authority.attested id peer destination present trusted)
        · cases resolved

end Router

/-- A confidential call that the broker accepts from a peer is refused, or it
goes to one attached peer that holds an authority granted to that very peer
for exactly this address. -/
theorem confidential_call_delivery {ops : List RouterOp} {router : Router}
    (run : Router.system.Run Router.empty ops router)
    (unavailable : BusName → Option Error) (source : PeerId) (sourceName : BusName)
    {message : Message} (kind : message.header.kind = .methodCall)
    (secret : message.header.confidential = true) :
    (∃ error, Broker.route router unavailable source sourceName message = .error error) ∨
      ∃ destination id peer,
        message.header.destination = some destination ∧
        router.names.lookup destination = some id ∧
        router.peers.lookup id = some peer ∧
        Broker.route router unavailable source sourceName message =
          .ok (.deliver peer.outbox (message.stamp sourceName)) ∧
        Router.MayReceive ops router (message.stamp sourceName).header destination id
          peer := by
  have authority := Router.run_authority run
  unfold Broker.route
  cases message.validate with
  | error refusal => exact .inl ⟨refusal, rfl⟩
  | ok _ =>
      simp only [Broker.routeStamped, Message.stamp_kind, kind, Message.stamp_destination]
      cases addressed : message.header.destination with
      | none => exact .inl ⟨_, rfl⟩
      | some destination =>
          by_cases toBus : destination = busName
          · simp only [if_pos toBus]
            unfold Broker.routeToBus
            rw [if_pos ⟨secret, kind⟩]
            exact .inl ⟨_, rfl⟩
          · simp only [if_neg toBus]
            unfold Broker.routeToPeer
            by_cases sensitive : (message.stamp sourceName).header.sensitive = true
            · rw [if_pos sensitive]
              exact .inl ⟨_, rfl⟩
            · rw [if_neg sensitive]
              split
              · exact .inl ⟨_, rfl⟩
              · rename_i target resolved
                have confidential :
                    ((message.stamp sourceName).header.confidential &&
                      decide ((message.stamp sourceName).header.kind = .methodCall)) =
                        true := by
                  rw [Message.stamp_confidential, Message.stamp_kind, secret, kind]
                  rfl
                rw [confidential] at resolved
                unfold Router.resolveCallFrom at resolved
                split at resolved
                · cases resolved
                · obtain ⟨id, peer, owned, present, outbox, allowed⟩ :=
                    Router.resolveCall_confidential authority resolved
                  rw [if_pos (show (message.stamp sourceName).header.kind = .methodCall
                    from kind)]
                  cases unavailable destination with
                  | some refusal => exact .inl ⟨refusal, rfl⟩
                  | none =>
                      refine .inr ⟨destination, id, peer, rfl, owned, present, ?_, allowed⟩
                      rw [outbox]

def voiceAttestation : Attestation := ⟨voiceName, "00", none⟩

/-- The service owns its name and the host attested it for that name. -/
def attestedTable : Router :=
  (voiceTable.perform (.setAttestation 1 voiceAttestation)).2

def secretCall : Message :=
  let call := Message.methodCall voiceName voiceObject voiceInterface ⟨"Unlock", by rfl⟩ .null
  { call with header := { call.header with confidential := true } }

theorem secretCall_delivery :
    (∃ error, Broker.route attestedTable (fun _ => none) 2 (BusName.unique 2) secretCall =
        .error error) ∨
      ∃ destination id peer,
        secretCall.header.destination = some destination ∧
        attestedTable.names.lookup destination = some id ∧
        attestedTable.peers.lookup id = some peer ∧
        Broker.route attestedTable (fun _ => none) 2 (BusName.unique 2) secretCall =
          .ok (.deliver peer.outbox (secretCall.stamp (BusName.unique 2))) ∧
        Router.MayReceive (voiceOps ++ [.setAttestation 1 voiceAttestation]) attestedTable
          (secretCall.stamp (BusName.unique 2)).header destination id peer :=
  confidential_call_delivery (.snoc voiceTable_run.of_restrict rfl) (fun _ => none) 2
    (BusName.unique 2) rfl rfl

end TinyBus
