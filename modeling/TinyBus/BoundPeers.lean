import TinyBus.BoundClients

/-
Which peer a binding ends with.  It owned the module's name when it was selected, and it
had one pair of pins when it was asked for its attestation, both while the binding was
under way; whatever happens between the two, the client goes to this peer alone.
-/

namespace TinyBus

open TransitionSystem

namespace ModuleClient

def Registered (client : ModuleClient) (events : List Event) (id : Nat)
    (record : PinnedRecord) : Prop :=
  ∃ module, Tasks.Event.start id module ∈ events ∧ client.find module = some record

def Owns (id : Nat) (record : PinnedRecord) (peer : BusName) (before : State)
    (event : Event) : Prop :=
  event = .advance id (.owner none) ∧ before.tasks.lookup id = some (.asking record) ∧
    ∃ name, BusName.new record.busName = .ok name ∧ before.shared.ownerOf name = some peer

structure Pairs (client : ModuleClient) (record : PinnedRecord) (attestation : Attestation) :
    Prop where
  named : attestation.name.text = record.busName
  pair : ∃ asset ∈ record.assets, asset.hostKey ∈ client.candidates ∧
    eqIgnoreAsciiCase attestation.sha256 asset.sha256 = true ∧
      ∃ digest pin, attestation.librarySha256 = some digest ∧
        asset.librarySha256 = some pin ∧ isHexSha256 pin = true ∧
          eqIgnoreAsciiCase digest pin = true

def Proves (client : ModuleClient) (id : Nat) (record : PinnedRecord) (peer : BusName)
    (before : State) (event : Event) : Prop :=
  event = .advance id (.attestation none) ∧
    (∃ proxy, before.tasks.lookup id = some (.attesting record peer proxy)) ∧
      ∃ attestation, before.shared.attestationOf peer = some attestation ∧
        client.Pairs record attestation

def Shows (client : ModuleClient) (first : State) (events : List Event) (id : Nat) :
    BindPhase → Prop
  | .preparing record => client.Registered events id record
  | .loading record => client.Registered events id record
  | .proxying record => client.Registered events id record
  | .asking record => client.Registered events id record
  | .attesting record owner proxy =>
      client.Registered events id record ∧ owner.isUnique = true ∧ proxy.destination = owner ∧
        client.system.Occurred first events (Owns id record owner)
  | .concluded (.error _) => True
  | .concluded (.ok bound) =>
      client.Registered events id bound.record ∧ bound.proxy.destination.isUnique = true ∧
        client.system.Occurred first events (Owns id bound.record bound.proxy.destination) ∧
          client.system.Occurred first events
            (client.Proves id bound.record bound.proxy.destination)

variable {client : ModuleClient} {first : State} {events : List Event} {id : Nat}

variable {record : PinnedRecord}

theorem Registered.snoc (registered : client.Registered events id record)
    (event : Event) : client.Registered (events ++ [event]) id record := by
  obtain ⟨module, begun, found⟩ := registered
  exact ⟨module, List.mem_append_left _ begun, found⟩

theorem Shows.snoc {phase : BindPhase} (shows : client.Shows first events id phase)
    (event : Event) : client.Shows first (events ++ [event]) id phase := by
  cases phase with
  | preparing record => exact Registered.snoc shows event
  | loading record => exact Registered.snoc shows event
  | proxying record => exact Registered.snoc shows event
  | asking record => exact Registered.snoc shows event
  | attesting record owner proxy =>
      obtain ⟨registered, unique, same, owned⟩ := shows
      exact ⟨registered.snoc event, unique, same, owned.snoc event⟩
  | concluded result =>
      cases result with
      | error failure => trivial
      | ok bound =>
          obtain ⟨registered, unique, owned, proved⟩ := shows
          exact ⟨registered.snoc event, unique, owned.snoc event, proved.snoc event⟩

theorem mem_compatibleAssets {asset : ReleasePlan.Asset} :
    asset ∈ client.compatibleAssets record ↔
      asset ∈ record.assets ∧ asset.hostKey ∈ client.candidates ∧
        isHexSha256 asset.sha256 = true ∧ asset.librarySha256.any isHexSha256 = true := by
  unfold compatibleAssets
  rw [List.mem_filter, List.mem_filter, Bool.and_eq_true, List.any_beq', and_assoc,
    List.contains_iff_mem]

theorem pairs_of_proves {attestation : Attestation}
    (proved : client.proves record attestation = true) : client.Pairs record attestation := by
  unfold proves at proved
  rw [Bool.and_eq_true, decide_eq_true_iff] at proved
  refine ⟨proved.1, ?_⟩
  obtain ⟨asset, compatible, digests⟩ := List.any_eq_true.mp proved.2
  obtain ⟨among, host, _, pinned⟩ := mem_compatibleAssets.mp compatible
  rw [Bool.and_eq_true] at digests
  obtain ⟨digest, attested, matched⟩ := (Option.any_eq_true _ _).mp digests.2
  obtain ⟨pin, listed, same⟩ := (Option.any_eq_true _ _).mp matched
  rw [listed] at pinned
  exact ⟨asset, among, host, digests.1, digest, pin, attested, listed, pinned, same⟩

theorem start_shows (module : String) (begun : Tasks.Event.start id module ∈ events) :
    client.Shows first events id (client.start module) := by
  unfold start
  cases found : client.find module with
  | none => trivial
  | some record =>
      dsimp only
      split
      · trivial
      · split
        · trivial
        · exact ⟨module, begun, found⟩

theorem selectOwner_shows {state : State} (run : client.system.Run first events state)
    (asking : state.tasks.lookup id = some (.asking record))
    (registered : client.Registered events id record) :
    client.Shows first (events ++ [.advance id (.owner none)]) id
      (selectOwner record state.shared) := by
  unfold selectOwner
  cases parsed : BusName.new record.busName with
  | error refusal => trivial
  | ok name =>
      dsimp only
      cases owned : state.shared.ownerOf name with
      | none => trivial
      | some owner =>
          dsimp only
          by_cases unique : owner.isUnique = true
          · rw [if_pos unique]
            unfold pinned
            cases made : Proxy.parse owner.text record.objectPath record.busName with
            | error refusal => trivial
            | ok proxy =>
                refine ⟨registered.snoc _, unique, Proxy.parse_destination made, ?_⟩
                exact .last run ⟨rfl, asking, name, parsed, owned⟩
          · rw [if_neg unique]
            trivial

theorem withDeadline_destination (client : ModuleClient) (proxy : Proxy) :
    (client.withDeadline proxy).destination = proxy.destination := by
  unfold withDeadline
  cases client.timeout with
  | none => rfl
  | some timeout => rfl

theorem proveOwner_shows {state : State} {owner : BusName} {proxy : Proxy}
    (run : client.system.Run first events state)
    (attesting : state.tasks.lookup id = some (.attesting record owner proxy))
    (shows : client.Shows first events id (.attesting record owner proxy)) :
    client.Shows first (events ++ [.advance id (.attestation none)]) id
      (client.proveOwner record owner proxy state.shared) := by
  obtain ⟨registered, unique, same, owned⟩ := shows
  unfold proveOwner
  cases attested : state.shared.attestationOf owner with
  | none => trivial
  | some attestation =>
      dsimp only
      split
      · rename_i proved
        have destination : (client.withDeadline proxy).destination = owner :=
          (client.withDeadline_destination proxy).trans same
        have occurred : client.system.Occurred first
            (events ++ [.advance id (.attestation none)]) (client.Proves id record owner) :=
          .last run ⟨rfl, ⟨proxy, attesting⟩, attestation, attested, pairs_of_proves proved⟩
        refine ⟨registered.snoc _, ?_, ?_, ?_⟩
        · rw [destination]
          exact unique
        · rw [destination]
          exact owned.snoc _
        · rw [destination]
          exact occurred
      · trivial

theorem advance_shows {state : State} {phase after : BindPhase} {choice : BindChoice}
    (run : client.system.Run first events state)
    (waiting : state.tasks.lookup id = some phase)
    (shows : client.Shows first events id phase)
    (taken : client.advance state.shared phase choice = some after) :
    client.Shows first (events ++ [.advance id choice]) id after := by
  unfold advance at taken
  split at taken
  · cases taken
    split
    · trivial
    · exact Registered.snoc shows _
  · cases taken
    split
    · exact Registered.snoc shows _
    · trivial
  · cases taken
    exact Registered.snoc shows _
  · cases taken
    trivial
  · cases taken
    trivial
  · cases taken
    exact selectOwner_shows run waiting shows
  · cases taken
    trivial
  · cases taken
    exact proveOwner_shows run waiting shows
  · cases taken

theorem run_shows {state : State} (run : client.system.Run first events state)
    (fresh : first.tasks = ∅) :
    ∀ id phase, state.tasks.lookup id = some phase → client.Shows first events id phase := by
  induction run with
  | nil =>
      intro id phase found
      rw [fresh] at found
      cases found
  | @snoc middle last events event earlier stepped ih =>
      intro other phase found
      have next : last = Tasks.next client.kind middle event := stepped
      have moved := Tasks.next_moved client.kind middle event
      rw [← next] at moved
      cases moved with
      | still => exact (ih other phase found).snoc event
      | @started id module vacant =>
          dsimp only at found
          rw [Table.lookup_insert_eq] at found
          split at found
          · rename_i same
            cases found
            rw [same]
            exact start_shows module (List.mem_append_right _ (List.mem_singleton.mpr rfl))
          · exact (ih other phase found).snoc _
      | @stepped id choice task stepped shared present taken =>
          dsimp only at found
          rw [Table.lookup_insert_eq] at found
          split at found
          · rename_i same
            cases found
            rw [same]
            obtain ⟨after, advanced, reached⟩ := Option.map_eq_some_iff.mp taken
            cases reached
            exact advance_shows earlier present (ih id task present) advanced
          · exact (ih other phase found).snoc _
      | around => exact (ih other phase found).snoc _

/-- What a binding that returned a client has shown on the way, and what the client
keeps to. -/
structure Attested (client : ModuleClient) (first : State) (events : List Event) (id : Nat)
    (bound : BoundModuleClient) : Prop where
  registered : client.Registered events id bound.record
  owned : client.system.Occurred first events (Owns id bound.record bound.proxy.destination)
  proved : client.system.Occurred first events
    (client.Proves id bound.record bound.proxy.destination)
  keeps : bound.Keeps bound.proxy.destination

/-- A bound client goes to one unique peer, which owned the name and proved one pair. -/
theorem bound_clients_attested {state : State} (start : first.tasks = ∅)
    (run : client.system.Run first events state) {bound : BoundModuleClient}
    (returned : state.tasks.lookup id = some (.concluded (.ok bound))) :
    client.Attested first events id bound := by
  obtain ⟨registered, unique, owned, proved⟩ := run_shows run start id _ returned
  exact ⟨registered, owned, proved, BoundModuleClient.keeps_of_unique unique⟩

def vaultAsset : ReleasePlan.Asset :=
  ⟨"linux-x64", "vault.tar.gz",
    "aaaaaaaaaaaaaaaaaaaaaaaaaaaaaaaaaaaaaaaaaaaaaaaaaaaaaaaaaaaaaaaa",
    some "bbbbbbbbbbbbbbbbbbbbbbbbbbbbbbbbbbbbbbbbbbbbbbbbbbbbbbbbbbbbbbbb"⟩

def vaultRecord : PinnedRecord :=
  { id := "vault", busName := "org.example.Vault", objectPath := "/vault"
    assets := [vaultAsset] }

def vaultName : BusName := ⟨"org.example.Vault", by decide⟩

def vaultAttestation : Attestation := ⟨vaultName, vaultAsset.sha256, vaultAsset.librarySha256⟩

def vaultClient : ModuleClient :=
  { find := fun module => if module = "vault" then some vaultRecord else none
    enabled := true, candidates := ["linux-x64"], fixture := false, timeout := some 5 }

/-- Another peer takes the name after the first one was selected. -/
def vaultEvents : List Event :=
  [.outside (.attach 1), .outside (.setAttestationForUnique (BusName.unique 1) vaultAttestation),
    .outside (.requestName 1 vaultName),
    .start 0 "vault", .advance 0 (.prepared true), .advance 0 (.loaded true),
    .advance 0 (.proxied (.ok ())), .advance 0 (.owner none),
    .outside (.releaseName 1 vaultName), .outside (.attach 2),
    .outside (.requestName 2 vaultName)]

def handedOver : State := vaultEvents.foldl (Tasks.next vaultClient.kind) ⟨Router.empty, ∅⟩

theorem proves_vault : vaultClient.proves vaultRecord vaultAttestation = true := by
  unfold proves
  rw [Bool.and_eq_true, List.any_eq_true]
  have compatible : vaultAsset ∈ vaultClient.compatibleAssets vaultRecord :=
    mem_compatibleAssets.mpr ⟨List.mem_singleton.mpr rfl, List.mem_singleton.mpr rfl,
      by decide +kernel, by decide +kernel⟩
  refine ⟨by decide, vaultAsset, compatible, ?_⟩
  simp [vaultAttestation, vaultAsset]

theorem bindVault_attested :
    ∃ bound, bound.proxy.destination = BusName.unique 1 ∧
      vaultClient.Attested ⟨Router.empty, ∅⟩ (vaultEvents ++ [.advance 0 (.attestation none)])
        0 bound := by
  have run : vaultClient.system.Run ⟨Router.empty, ∅⟩ vaultEvents handedOver := .of_foldl _
  obtain ⟨proxy, waiting, destination⟩ : ∃ proxy,
      handedOver.tasks.lookup 0 = some (.attesting vaultRecord (BusName.unique 1) proxy) ∧
        proxy.destination = BusName.unique 1 := ⟨_, rfl, rfl⟩
  have attested : handedOver.shared.attestationOf (BusName.unique 1) = some vaultAttestation :=
    rfl
  let bound : BoundModuleClient :=
    ⟨vaultRecord, vaultClient.withDeadline proxy, vaultClient.timeout⟩
  have taken : vaultClient.kind.step 0 (.attestation none) handedOver.shared
      (.attesting vaultRecord (BusName.unique 1) proxy) =
        some (handedOver.shared, .concluded (.ok bound)) := by
    unfold kind advance proveOwner
    dsimp only
    rw [attested]
    dsimp only
    rw [if_pos proves_vault]
    rfl
  refine ⟨bound, (vaultClient.withDeadline_destination proxy).trans destination, ?_⟩
  refine bound_clients_attested rfl (run.snoc rfl) ?_
  rw [Tasks.next_advance vaultClient.kind waiting taken]
  exact AList.lookup_insert _

end ModuleClient

end TinyBus
