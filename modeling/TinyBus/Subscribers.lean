/-
Who hears a signal.  A rule's sender may be written as a unique or a well-known
name; the table compares it with the stamped unique name alone, so that a rule
written with a well-known name selects nobody by itself.
-/

import TinyBus.RouterOwnership

namespace TinyBus

/-- The rule names no sender, or the sending peer by its unique name. -/
def MatchRule.NamesUniquely (rule : MatchRule) (unique : BusName) : Prop :=
  rule.sender = none ∨ rule.sender = some unique

/-- The rule names the sending peer by a well-known name that it owns. -/
def MatchRule.NamesOwned (rule : MatchRule) (router : Router) (source : PeerId) :
    Prop :=
  ∃ name, rule.sender = some name ∧ name.isUnique = false ∧
    router.names.lookup name = some source

namespace Router

/-- An attached peer other than the sender, and the one the signal addresses
where it addresses one. -/
structure Eligible (router : Router) (source : PeerId) (signal : Message)
    (id : PeerId) (peer : Peer) : Prop where
  attached : router.peers.lookup id = some peer
  other : id ≠ source
  addressed : ∀ destination, signal.header.destination = some destination →
    destination = peer.unique

/-- The peer holds a rule all of whose set fields match, where the sender may
be named by its unique name or by any well-known name it owns. -/
def HoldsRule (router : Router) (source : PeerId) (unique : BusName)
    (signal : Message) (peer : Peer) : Prop :=
  ∃ rule ∈ peer.matchRules, rule.othersAccept signal = true ∧
    (rule.NamesUniquely unique ∨ rule.NamesOwned router source)

/-- The selection is the documented one, each peer once. -/
structure Selects (router : Router) (source : PeerId) (unique : BusName)
    (signal : Message) (selected : List (PeerId × Peer)) : Prop where
  once : (selected.map Prod.fst).Nodup
  exact : ∀ id peer, (id, peer) ∈ selected ↔
    router.Eligible source signal id peer ∧ router.HoldsRule source unique signal peer

theorem recipients_nodup (router : Router) (signal : Message) (source : PeerId) :
    ((router.recipients signal source).map Prod.fst).Nodup := by
  unfold recipients
  split
  · exact List.nodup_nil
  · exact router.peers.pairs_keys_nodup.sublist (List.filter_sublist.map Prod.fst)

theorem addressedTo_iff {signal : Message} {peer : Peer} :
    addressedTo signal peer = true ↔
      ∀ destination, signal.header.destination = some destination →
        destination = peer.unique := by
  unfold addressedTo
  cases signal.header.destination with
  | none => simp
  | some destination => simp

theorem mem_recipients_stamp {router : Router} {signal : Message} {source : PeerId}
    {unique : BusName} (visible : signal.header.confidential = false) {id : PeerId}
    {peer : Peer} :
    (id, peer) ∈ router.recipients (signal.stamp unique) source ↔
      router.Eligible source signal id peer ∧
        ∃ rule ∈ peer.matchRules, rule.othersAccept signal = true ∧
          rule.NamesUniquely unique := by
  have shown : (signal.stamp unique).header.confidential ≠ true := by
    rw [Message.stamp_confidential, visible]
    decide
  rw [recipients, if_neg shown, List.mem_filter, Table.mem_pairs_iff_lookup]
  simp only [Bool.and_eq_true, bne_iff_ne, wants, List.any_eq_true,
    MatchRule.accepts_stamp_iff]
  rw [addressedTo_iff]
  constructor
  · rintro ⟨attached, ⟨other, addressed⟩, heard⟩
    exact ⟨⟨attached, other, addressed⟩, heard⟩
  · rintro ⟨⟨attached, other, addressed⟩, heard⟩
    exact ⟨attached, ⟨other, addressed⟩, heard⟩

/-- The peers selected for an accepted signal are the documented ones exactly
where every eligible peer that names the sender by a well-known name in a
matching rule also holds a matching rule that does not. -/
theorem recipients_select_iff {router : Router} {signal : Message} {source : PeerId}
    {unique : BusName} (attached : router.isAttached source unique = true)
    (valid : signal.validate = .ok ()) (kind : signal.header.kind = .signal) :
    router.subscribersFrom (signal.stamp unique) source unique =
        .ok ((router.recipients (signal.stamp unique) source).map
          (fun entry => entry.2.outbox)) ∧
      (router.Selects source unique signal
          (router.recipients (signal.stamp unique) source) ↔
        ∀ id peer, router.Eligible source signal id peer →
          (∃ rule ∈ peer.matchRules, rule.othersAccept signal = true ∧
            rule.NamesOwned router source) →
          ∃ rule ∈ peer.matchRules, rule.othersAccept signal = true ∧
            rule.NamesUniquely unique) := by
  have visible := (Message.signal_not_private valid (.inl kind)).1
  constructor
  · rw [subscribersFrom, ensurePeerAttached, if_pos attached]
    rfl
  · constructor
    · intro selects id peer eligible heard
      obtain ⟨rule, held, others, named⟩ := heard
      have selected := (selects.exact id peer).mpr
        ⟨eligible, rule, held, others, .inr named⟩
      exact ((mem_recipients_stamp visible).mp selected).2
    · intro plainly
      refine ⟨recipients_nodup router _ source, ?_⟩
      intro id peer
      rw [mem_recipients_stamp visible]
      constructor
      · rintro ⟨eligible, rule, held, others, named⟩
        exact ⟨eligible, rule, held, others, .inl named⟩
      · rintro ⟨eligible, rule, held, others, named | named⟩
        · exact ⟨eligible, rule, held, others, named⟩
        · exact ⟨eligible, plainly id peer eligible ⟨rule, held, others, named⟩⟩

end Router

def voiceSignal : Message :=
  Message.signal voiceObject voiceInterface ⟨"Heard", by rfl⟩ .null

theorem voiceSignal_selected :
    voiceTable.subscribersFrom (voiceSignal.stamp (BusName.unique 1)) 1
        (BusName.unique 1) =
        .ok ((voiceTable.recipients (voiceSignal.stamp (BusName.unique 1)) 1).map
          (fun entry => entry.2.outbox)) ∧
      (voiceTable.Selects 1 (BusName.unique 1) voiceSignal
          (voiceTable.recipients (voiceSignal.stamp (BusName.unique 1)) 1) ↔
        ∀ id peer, voiceTable.Eligible 1 voiceSignal id peer →
          (∃ rule ∈ peer.matchRules, rule.othersAccept voiceSignal = true ∧
            rule.NamesOwned voiceTable 1) →
          ∃ rule ∈ peer.matchRules, rule.othersAccept voiceSignal = true ∧
            rule.NamesUniquely (BusName.unique 1)) :=
  Router.recipients_select_iff (by decide) (by rfl) rfl

/-- The subscriber that named the service by its well-known name hears
nothing of it. -/
theorem well_known_sender_unheard :
    Router.brokered.Reachable voiceTable ∧
      voiceTable.isAttached 1 (BusName.unique 1) = true ∧
      voiceSignal.validate = .ok () ∧ voiceSignal.header.kind = .signal ∧
      ¬ voiceTable.Selects 1 (BusName.unique 1) voiceSignal
        (voiceTable.recipients (voiceSignal.stamp (BusName.unique 1)) 1) := by
  refine ⟨voiceTable_reachable, by decide, by rfl, rfl, ?_⟩
  intro selects
  have silent :
      voiceTable.recipients (voiceSignal.stamp (BusName.unique 1)) 1 = [] := by
    rfl
  have subscribed := (selects.exact 2
    { Router.freshPeer 2 1 with
      matchRules := [{ MatchRule.new with sender := some voiceName }] }).mpr
  rw [silent] at subscribed
  apply List.not_mem_nil (subscribed ?_)
  refine ⟨⟨by rfl, by decide, ?_⟩, _, List.mem_singleton_self _, by rfl, .inr ?_⟩
  · intro destination addressed
    cases addressed
  · exact ⟨voiceName, rfl, by decide, by decide⟩

end TinyBus
