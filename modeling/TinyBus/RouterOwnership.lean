/-
Ownership over runs of the broker's operations: the reported changes account
for the name table, a name is handed over only through its release, and the
laws that hold in every table the broker can reach.
-/

import TinyBus.RouterInvariant

namespace TinyBus

def RouterOp.Frees (router : Router) (name : BusName) (holder : PeerId) :
    RouterOp → Prop
  | .releaseName id released => id = holder ∧ released = name
  | .releaseNameForUnique unique released =>
      router.names.lookup unique = some holder ∧ released = name
  | .detach id => id = holder
  | .detachUnique unique => router.names.lookup unique = some holder
  | _ => False

namespace Router

def wellKnown (name : BusName) : Prop := name.isUnique = false

variable {router : Router}

theorem Consistent.ownerOf_eq (consistent : router.Consistent) (name : BusName) :
    router.ownerOf name = (router.names.lookup name).map BusName.unique := by
  unfold ownerOf ownerPeer
  cases found : router.names.lookup name with
  | none => rfl
  | some id =>
      obtain ⟨peer, present⟩ := consistent.ownersAttached name id found
      obtain ⟨unique, _⟩ := consistent.ownsUnique id peer present
      simp only [present, Option.map_some, unique]

private theorem explains_of_lookup {before after : Router}
    (start : before.Consistent) (finish : after.Consistent)
    {changes : List NameChange}
    (distinct : (changes.map Ownership.Change.name).Nodup)
    (told : ∀ change ∈ changes,
      change.oldOwner = (before.names.lookup change.name).map BusName.unique ∧
        change.newOwner = (after.names.lookup change.name).map BusName.unique)
    (silent : ∀ name, wellKnown name →
      name ∉ changes.map Ownership.Change.name →
        after.names.lookup name = before.names.lookup name) :
    Ownership.Explains wellKnown before.ownerOf after.ownerOf changes where
  distinct := distinct
  told := by
    intro change member
    rw [start.ownerOf_eq, finish.ownerOf_eq]
    exact told change member
  silent := by
    intro name watched absent
    rw [start.ownerOf_eq, finish.ownerOf_eq, silent name watched absent]

private theorem explains_single {before after : Router}
    (start : before.Consistent) (finish : after.Consistent) {name : BusName}
    {old new : Option PeerId} (had : before.names.lookup name = old)
    (has : after.names.lookup name = new)
    (others : ∀ other, other ≠ name →
      after.names.lookup other = before.names.lookup other) :
    Ownership.Explains wellKnown before.ownerOf after.ownerOf
      [⟨name, old.map BusName.unique, new.map BusName.unique⟩] := by
  apply explains_of_lookup start finish
  · exact List.nodup_singleton name
  · intro change member
    rw [List.mem_singleton] at member
    subst member
    exact ⟨by rw [had], by rw [has]⟩
  · intro other _ absent
    apply others
    intro same
    exact absent (List.mem_singleton.mpr same)

theorem detach_explains (consistent : router.Consistent) {id : PeerId} {peer : Peer}
    (present : router.peers.lookup id = some peer) :
    Ownership.Explains wellKnown router.ownerOf (router.detach id).2.ownerOf
      (router.detach id).1 := by
  have names : (router.detach id).1.map Ownership.Change.name =
      router.namesOwnedBy id := by
    rw [detach_changes present, List.map_map]
    exact List.map_id _
  apply explains_of_lookup consistent (consistent.detach present)
  · rw [names]
    exact router.namesOwnedBy_nodup id
  · intro change member
    rw [detach_changes present] at member
    obtain ⟨name, owned, rfl⟩ := List.mem_map.mp member
    have held := mem_namesOwnedBy.mp owned
    rw [detach_names_lookup present, if_pos held, held]
    exact ⟨congrArg some (consistent.ownsUnique id peer present).1, rfl⟩
  · intro name _ absent
    rw [names, mem_namesOwnedBy] at absent
    rw [detach_names_lookup present, if_neg absent]

theorem Performed.explains {after : Router} {changes : List NameChange}
    (performed : Performed router (.ok changes, after)) (consistent : router.Consistent) :
    Ownership.Explains wellKnown router.ownerOf after.ownerOf changes := by
  have finish : after.Consistent := performed.consistent consistent
  cases performed with
  | kept names _ _ =>
      apply explains_of_lookup consistent finish
      · exact List.nodup_nil
      · intro change member
        cases member
      · intro name _ _
        rw [names]
  | attached outbox =>
      apply explains_of_lookup consistent finish
      · exact List.nodup_nil
      · intro change member
        cases member
      · intro name plain _
        rw [attach_names_lookup, if_neg]
        intro same
        rw [wellKnown, same, BusName.isUnique_unique] at plain
        cases plain
  | @repeated id name peer present held =>
      rw [(consistent.ownsUnique id peer present).1]
      exact explains_single consistent finish held held (fun _ _ => rfl)
  | @claimed id name peer present free plain unreserved =>
      rw [(consistent.ownsUnique id peer present).1]
      exact explains_single consistent finish free (AList.lookup_insert _)
        (fun other different => AList.lookup_insert_ne different)
  | @released id name peer present held plain =>
      rw [(consistent.ownsUnique id peer present).1]
      exact explains_single consistent finish held (AList.lookup_erase _ _)
        (fun other different => AList.lookup_erase_ne different)
  | detached present => exact detach_explains consistent present

private theorem attach_keeps (consistent : router.Consistent) (outbox : Outbox) {name : BusName}
    {holder : PeerId} (held : router.names.lookup name = some holder) :
    (router.attach outbox).2.names.lookup name = some holder := by
  rw [attach_names_lookup, if_neg]
  · exact held
  · intro minted
    have unique : name.isUnique = true := by
      rw [minted]
      exact BusName.isUnique_unique _
    have own := consistent.uniqueOwner name holder held unique
    rw [minted, BusName.unique_inj] at own
    obtain ⟨peer, present⟩ := consistent.ownersAttached name holder held
    rw [← own, consistent.fresh_absent] at present
    cases present

theorem frees_of_lost (consistent : router.Consistent) (op : RouterOp) {name : BusName}
    {holder : PeerId} (held : router.names.lookup name = some holder)
    (lost : (router.perform op).2.names.lookup name ≠ some holder) :
    op.Frees router name holder := by
  have left := router.perform_leaves op
  generalize (router.perform op).2 = after at left lost
  cases left with
  | attached _ => exact absurd (attach_keeps consistent _ held) lost
  | @detached id peer present asked =>
      rw [detach_names_lookup present, held] at lost
      have own : id = holder := by
        by_contra other
        apply lost
        rw [if_neg]
        intro same
        exact other (Option.some.inj same).symm
      rcases asked with rfl | ⟨unique, rfl, owned⟩
      · exact own
      · change router.names.lookup unique = some holder
        rw [owned, own]
  | @claimed id claimed _ _ free =>
      exfalso
      apply lost
      change (router.names.insert claimed id).lookup name = some holder
      rw [AList.lookup_insert_ne]
      · exact held
      · intro same
        rw [same, free] at held
        cases held
  | @released id released _ own asked =>
      change (router.names.erase released).lookup name ≠ some holder at lost
      by_cases same : name = released
      · rw [same, own] at held
        rcases asked with rfl | ⟨unique, rfl, owned⟩
        · exact ⟨Option.some.inj held, same.symm⟩
        · exact ⟨owned.trans held, same.symm⟩
      · rw [AList.lookup_erase_ne same] at lost
        exact absurd held lost
  | _ => exact absurd held lost

theorem Performed.nextId_le {outcome : Except Error (List NameChange) × Router}
    (performed : Performed router outcome) : router.nextId ≤ outcome.2.nextId := by
  cases performed with
  | refused => exact Nat.le_refl _
  | kept _ nextId _ => exact Nat.le_of_eq nextId.symm
  | attached outbox => exact Nat.le_succ _
  | repeated _ _ => exact Nat.le_refl _
  | claimed _ _ _ _ => exact Nat.le_refl _
  | released _ _ _ => exact Nat.le_refl _
  | @detached id peer _ => exact Nat.le_of_eq (router.detach_nextId id).symm

private theorem brokered_preserves (before : Router) (op : RouterOp) (after : Router)
    (stepped : brokered.step before op after) (consistent : before.Consistent) :
    after.Consistent := by
  obtain ⟨issued, rfl⟩ := stepped
  exact (perform_performed consistent op issued).consistent consistent

theorem run_nextId_le {first last : Router} {ops : List RouterOp}
    (consistent : first.Consistent) (run : brokered.Run first ops last) :
    first.nextId ≤ last.nextId := by
  refine run.relation (fun before after : Router => before.nextId ≤ after.nextId)
    (fun router => Nat.le_refl router.nextId)
    (fun _ _ _ early late => Nat.le_trans early late) brokered_preserves ?_ consistent
  intro before op after stepped start
  obtain ⟨issued, rfl⟩ := stepped
  exact (perform_performed start op issued).nextId_le

/-- What holds of a table reached by the operations of the broker, and of every
operation and every further run from it. -/
structure Lawful (router : Router) : Prop where
  /-- Every entry of the name table points to an attached peer. -/
  ownersAttached : ∀ name id, router.names.lookup name = some id →
    ∃ peer, router.peers.lookup id = some peer
  /-- Every attached peer owns its own unique name. -/
  ownsUnique : ∀ id peer, router.peers.lookup id = some peer →
    peer.unique = BusName.unique id ∧ router.names.lookup peer.unique = some id
  /-- A unique name belongs to the peer it was minted for, the bus name to
  nobody. -/
  reserved : ∀ name id, router.names.lookup name = some id →
    name ≠ busName ∧ (name.isUnique = true → name = BusName.unique id)
  /-- What one attachment mints, no later attachment mints again. -/
  neverReused : ∀ outbox later ops,
    brokered.Run (router.attach outbox).2 ops later → ∀ another,
      (later.attach another).1.1 ≠ (router.attach outbox).1.1 ∧
        (later.attach another).1.2 ≠ (router.attach outbox).1.2
  /-- Neither the bus name nor any unique name is granted. -/
  granted : ∀ id name change,
    (router.requestName id name).1 = .ok change →
      name ≠ busName ∧ name.isUnique = false
  /-- Between two holders of a name some operation freed it. -/
  handover : ∀ name holder other later ops,
    router.names.lookup name = some holder → brokered.Run router ops later →
      later.names.lookup name = some other → other ≠ holder →
        ∃ early op late before, ops = early ++ op :: late ∧
          brokered.Run router early before ∧
          before.names.lookup name = some holder ∧ op.Frees before name holder
  /-- A detachment reports each name of the peer once, and nothing else. -/
  detachReports : ∀ id,
    ((router.detach id).1.map Ownership.Change.name).Nodup ∧
      ∀ change, change ∈ (router.detach id).1 ↔
        router.names.lookup change.name = some id ∧
          change.oldOwner = some (BusName.unique id) ∧ change.newOwner = none
  /-- A detachment removes the names of the peer and the peer, nothing else. -/
  detachRemoves : ∀ id,
    (∀ name, (router.detach id).2.names.lookup name =
      if router.names.lookup name = some id then none
      else router.names.lookup name) ∧
      ∀ other, (router.detach id).2.peers.lookup other =
        if other = id then none else router.peers.lookup other
  /-- A failed operation leaves the tables as they were. -/
  failure : ∀ op error, op.Issued router →
    (router.perform op).1 = .error error → (router.perform op).2 = router

private theorem requestName_granted {id : PeerId} {name : BusName} {change : NameChange}
    (done : (router.requestName id name).1 = .ok change) :
    name ≠ busName ∧ name.isUnique = false := by
  unfold requestName at done
  by_cases unique : name.isUnique = true
  · rw [if_pos unique] at done
    cases done
  · rw [if_neg unique] at done
    by_cases reserved : name = busName
    · rw [if_pos reserved] at done
      cases done
    · exact ⟨reserved, Bool.not_eq_true _ ▸ unique⟩

private theorem Consistent.detachReports (consistent : router.Consistent) (id : PeerId) :
    ((router.detach id).1.map Ownership.Change.name).Nodup ∧
      ∀ change, change ∈ (router.detach id).1 ↔
        router.names.lookup change.name = some id ∧
          change.oldOwner = some (BusName.unique id) ∧ change.newOwner = none := by
  cases present : router.peers.lookup id with
  | none =>
      rw [detach_of_absent present]
      refine ⟨List.nodup_nil, fun change => iff_of_false List.not_mem_nil ?_⟩
      rintro ⟨held, _⟩
      obtain ⟨peer, attached⟩ := consistent.ownersAttached change.name id held
      rw [present] at attached
      cases attached
  | some peer =>
      refine ⟨(detach_explains consistent present).distinct, ?_⟩
      intro change
      rw [detach_changes present, (consistent.ownsUnique id peer present).1,
        List.mem_map]
      constructor
      · rintro ⟨name, owned, rfl⟩
        exact ⟨mem_namesOwnedBy.mp owned, rfl, rfl⟩
      · rintro ⟨held, old, new⟩
        refine ⟨change.name, mem_namesOwnedBy.mpr held, ?_⟩
        rw [← old, ← new]

private theorem Consistent.detachRemoves (consistent : router.Consistent) (id : PeerId) :
    (∀ name, (router.detach id).2.names.lookup name =
      if router.names.lookup name = some id then none
      else router.names.lookup name) ∧
      ∀ other, (router.detach id).2.peers.lookup other =
        if other = id then none else router.peers.lookup other := by
  cases present : router.peers.lookup id with
  | none =>
      rw [detach_of_absent present]
      constructor
      · intro name
        rw [if_neg]
        intro held
        obtain ⟨peer, attached⟩ := consistent.ownersAttached name id held
        rw [present] at attached
        cases attached
      · intro other
        by_cases same : other = id
        · rw [if_pos same, same, present]
        · rw [if_neg same]
  | some peer =>
      refine ⟨detach_names_lookup present, ?_⟩
      intro other
      rw [detach_peers present, Table.lookup_erase_eq]

private theorem Performed.failure {outcome : Except Error (List NameChange) × Router}
    {error : Error} (performed : Performed router outcome) (failed : outcome.1 = .error error) :
    outcome.2 = router := by
  cases performed with
  | refused => rfl
  | _ => cases failed

/-- Every table that the broker reaches is lawful. -/
theorem brokered_lawful {router : Router} (reached : brokered.Reachable router) :
    router.Lawful := by
  have consistent := brokered_consistent reached
  refine
    { ownersAttached := consistent.ownersAttached
      ownsUnique := ?_
      reserved := ?_
      neverReused := ?_
      granted := fun _ _ _ => requestName_granted
      handover := ?_
      detachReports := consistent.detachReports
      detachRemoves := consistent.detachRemoves
      failure := ?_ }
  · intro id peer present
    obtain ⟨unique, owned⟩ := consistent.ownsUnique id peer present
    rw [unique]
    exact ⟨rfl, owned⟩
  · intro name id held
    refine ⟨?_, consistent.uniqueOwner name id held⟩
    intro same
    rw [same, consistent.busUnowned] at held
    cases held
  · intro outbox later ops run another
    have grown := run_nextId_le (consistent.attach outbox) run
    change router.nextId + 1 ≤ later.nextId at grown
    have different : later.nextId + 1 ≠ router.nextId + 1 := by
      omega
    exact ⟨different, fun same => different (BusName.unique_injective same)⟩
  · intro name holder other later ops held run taken different
    have lost : ¬ later.names.lookup name = some holder := by
      intro kept
      rw [taken] at kept
      exact different (Option.some.inj kept)
    obtain ⟨early, op, late, before, after, split, toBefore, stepped, _, had, lacks⟩ :=
      run.exists_losing_step (fun router => router.names.lookup name = some holder)
        held lost
    refine ⟨early, op, late, before, split, toBefore, had, ?_⟩
    obtain ⟨_, rfl⟩ := stepped
    exact frees_of_lost (toBefore.preserves brokered_preserves consistent) op had lacks
  · intro op error issued failed
    exact (perform_performed consistent op issued).failure failed

theorem brokered_next {first middle : Router} {ops : List RouterOp}
    (run : brokered.Run first ops middle) (op : RouterOp)
    (issued : op.Issued middle) :
    brokered.Run first (ops ++ [op]) (middle.perform op).2 :=
  .snoc run ⟨issued, rfl⟩

end Router

def voiceName : BusName := ⟨"ai.tinyhumans.openhuman.Voice", by rfl⟩
def voiceObject : ObjectPath := ⟨"/ai/tinyhumans/openhuman/Voice", by rfl⟩
def voiceInterface : InterfaceName := ⟨"ai.tinyhumans.openhuman.Voice", by rfl⟩
def speakMember : MemberName := ⟨"Speak", by rfl⟩

def playerName : BusName := ⟨"ai.tinyhumans.openhuman.Player", by rfl⟩

/-- One peer owns a well-known name and another subscribes to that name. -/
def voiceOps : List RouterOp :=
  [.attach 0, .attach 1, .requestName 1 voiceName,
    .addMatch 2 { MatchRule.new with sender := some voiceName }]

def voiceTable : Router :=
  voiceOps.foldl (fun router op => (router.perform op).2) Router.empty

theorem voiceTable_run : Router.brokered.Run Router.empty voiceOps voiceTable := by
  have service := Router.brokered_next (.nil : Router.brokered.Run Router.empty [] _)
    (.attach 0) trivial
  have both := Router.brokered_next service (.attach 1) trivial
  have owned := Router.brokered_next both (.requestName 1 voiceName)
    ⟨BusName.unique 1, by decide⟩
  exact Router.brokered_next owned _ ⟨BusName.unique 2, by decide⟩

theorem voiceTable_reachable : Router.brokered.Reachable voiceTable :=
  ⟨Router.empty, voiceOps, rfl, voiceTable_run⟩

theorem voiceTable_lawful : voiceTable.Lawful :=
  Router.brokered_lawful voiceTable_reachable

end TinyBus
