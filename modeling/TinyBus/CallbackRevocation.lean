import TinyBus.CallbackInvariant

/-
Revocation reaches the whole tree.  A revocation walks the children that the
bindings list, the removal of a peer meets every capability that names it; both
leave no binding with authority below one that has lost it, so that a call which
starts finds every ancestor of its binding unrevoked.
-/

namespace TinyBus

open TransitionSystem

namespace Bindings

def Revoked (bindings : Bindings) (id : CallbackId) : Prop :=
  ∃ capability, bindings.router.callbacks.lookup id = some capability ∧
    capability.revoked = true

def Abandoned (bindings : Bindings) (id : CallbackId) : Prop :=
  ∃ capability binding number, bindings.find id = some (capability, binding) ∧
    binding.entered = false ∧ capability.module = some (BusName.unique number) ∧
    number ≤ bindings.router.nextId ∧
    bindings.router.names.lookup (BusName.unique number) = none

/-- What every move leaves of a binding that is there. -/
private structure Kept (bindings : Bindings) (capability : CallbackState)
    (binding : BindingState) (later : CallbackState) (state : BindingState) : Prop where
  revoked : capability.revoked = true → later.revoked = true
  module : ∀ module, capability.module = some module → later.module = some module
  entered : state.entered = binding.entered ∨ ∃ source, capability.module = some source ∧
    bindings.router.attestationOf source ≠ none

variable {after bindings : Bindings} {capability : CallbackState} {id : CallbackId}

private theorem Moves.kept (moves : Moves bindings after) (lawful : bindings.Lawful)
    {binding : BindingState} (found : bindings.find id = some (capability, binding)) :
    ∃ later state, after.find id = some (later, state) ∧
      Kept bindings capability binding later state := by
  obtain ⟨here, state⟩ := find_iff.mp found
  have old : id ≠ bindings.next := by
    intro new
    rw [new, lawful.next_absent.1] at state
    cases state
  cases moves with
  | same => exact ⟨capability, binding, found, fun now => now, fun _ now => now, .inl rfl⟩
  | @revoked ids router revoking closed =>
      have lookup := revoking.lookup id
      rw [here] at lookup
      cases chosen : ids id with
      | true =>
          rw [if_pos chosen] at lookup
          exact ⟨capability.revoke, binding, find_iff.mpr ⟨lookup, state⟩, fun _ => rfl,
            fun _ now => now, .inl rfl⟩
      | false =>
          rw [if_neg (by rw [chosen]; exact Bool.false_ne_true)] at lookup
          exact ⟨capability, binding, find_iff.mpr ⟨lookup, state⟩, fun now => now,
            fun _ now => now, .inl rfl⟩
  | faulted module =>
      have lookup : (bindings.fault module).router.callbacks.lookup id =
          some (if capability.module = some module then { capability with moduleLive := false }
            else capability) := by
        change (bindings.router.callbacks.mapValues _).lookup id = _
        rw [Table.lookup_mapValues, here]
        rfl
      refine ⟨_, binding, find_iff.mpr ⟨lookup, state⟩, ?_, ?_, .inl rfl⟩
      · intro revoked
        split
        · exact revoked
        · exact revoked
      · intro other bound
        split
        · exact bound
        · exact bound
  | @noted target update parent children entered =>
      have lookup : (bindings.modifyState target update).states.lookup id =
          some (if id = target then update binding else binding) := by
        change (bindings.states.modify target update).lookup id = _
        rw [Table.lookup_modify]
        by_cases same : id = target
        · rw [if_pos same, if_pos same, ← same, state]
          rfl
        · rw [if_neg same, if_neg same, state]
      refine ⟨capability, _, find_iff.mpr ⟨here, lookup⟩, fun now => now, fun _ now => now,
        .inl ?_⟩
      split
      · exact entered binding
      · rfl
  | prepared unbound inactive =>
      refine ⟨capability, binding, find_iff.mpr ⟨?_, ?_⟩, fun now => now, fun _ now => now,
        .inl rfl⟩
      · exact (Table.lookup_insert_eq _ _ _ _).trans ((if_neg old).trans here)
      · exact (Table.lookup_insert_eq _ _ _ _).trans ((if_neg old).trans state)
  | @bound target other number live there unrevoked unbound minted =>
      by_cases same : id = target
      · subst same
        rw [here] at there
        cases there
        refine ⟨_, binding, find_iff.mpr ⟨(Table.lookup_modify _ _ _ _).trans
          ((if_pos rfl).trans (congrArg _ here)), state⟩, ?_, ?_, .inl rfl⟩
        · intro revoked
          rw [unrevoked] at revoked
          cases revoked
        · intro module bound
          rw [unbound] at bound
          cases bound
      · exact ⟨capability, binding, find_iff.mpr ⟨(Table.lookup_modify _ _ _ _).trans
          ((if_neg same).trans here), state⟩, fun now => now, fun _ now => now, .inl rfl⟩
  | @registered target other source there bound admitted =>
      by_cases same : id = target
      · subst same
        rw [here] at there
        cases there
        exact ⟨capability, _, find_iff.mpr ⟨here, (Table.lookup_modify _ _ _ _).trans
          ((if_pos rfl).trans (congrArg _ state))⟩, fun now => now, fun _ now => now,
          .inr ⟨source, bound, admitted⟩⟩
      · exact ⟨capability, binding, find_iff.mpr ⟨here, (Table.lookup_modify _ _ _ _).trans
          ((if_neg same).trans state)⟩, fun now => now, fun _ now => now, .inl rfl⟩
  | @created parent above upper context endpoints destination there authorized entered =>
      have callbacks : (bindings.router.callbacks.insert bindings.next
          ⟨destination, endpoints, [], true, true, false, above.module⟩).lookup id =
            some capability :=
        (Table.lookup_insert_eq _ _ _ _).trans ((if_neg old).trans here)
      have states : ((bindings.states.modify parent (fun held =>
          { held with children := held.children ++ [bindings.next] })).insert
            bindings.next ⟨[], some parent, [], false, [], 0, true⟩).lookup id =
              some (if id = parent then
                { binding with children := binding.children ++ [bindings.next] }
                else binding) := by
        rw [Table.lookup_insert_eq, if_neg old, Table.lookup_modify]
        by_cases same : id = parent
        · rw [if_pos same, if_pos same, ← same, state]
          rfl
        · rw [if_neg same, if_neg same, state]
      refine ⟨capability, _, find_iff.mpr ⟨callbacks, states⟩, fun now => now,
        fun _ now => now, .inl ?_⟩
      split
      · rfl
      · rfl

private theorem Moves.nextId_le (moves : Moves bindings after) :
    bindings.router.nextId ≤ after.router.nextId := by
  cases moves with
  | revoked revoking _ => exact revoking.nextId
  | _ => exact Nat.le_refl _

private theorem Moves.unowned (moves : Moves bindings after) {number : PeerId}
    (old : number ≤ bindings.router.nextId)
    (gone : bindings.router.names.lookup (BusName.unique number) = none) :
    after.router.names.lookup (BusName.unique number) = none := by
  cases moves with
  | revoked revoking _ => exact revoking.unowned number old gone
  | _ => exact gone

private theorem attestationOf_unowned {router : Router} {name : BusName}
    (gone : router.names.lookup name = none) : router.attestationOf name = none := by
  rw [Router.attestationOf, Router.ownerPeer, gone]

theorem Moves.stays (moves : Moves bindings after) (lawful : bindings.Lawful)
    (found : bindings.router.callbacks.lookup id = some capability) :
    ∃ later, after.router.callbacks.lookup id = some later ∧
      (capability.revoked = true → later.revoked = true) := by
  have held := lawful.held id
  rw [found, Option.isSome_some, eq_comm, Option.isSome_iff_exists] at held
  obtain ⟨binding, state⟩ := held
  obtain ⟨later, _, both, kept⟩ := moves.kept lawful (find_iff.mpr ⟨found, state⟩)
  exact ⟨later, (find_iff.mp both).1, kept.revoked⟩

theorem Moves.lost (moves : Moves bindings after) (lawful : bindings.Lawful)
    (lost : bindings.Revoked id ∨ bindings.Abandoned id) :
    after.Revoked id ∨ after.Abandoned id := by
  rcases lost with ⟨capability, here, revoked⟩ |
    ⟨capability, binding, number, found, closed, bound, old, gone⟩
  · obtain ⟨later, there, stays⟩ := moves.stays lawful here
    exact .inl ⟨later, there, stays revoked⟩
  · obtain ⟨later, state, both, kept⟩ := moves.kept lawful found
    rcases kept.entered with same | ⟨source, named, admitted⟩
    · exact .inr ⟨later, state, number, both, same.trans closed, kept.module _ bound,
        Nat.le_trans old moves.nextId_le, moves.unowned old gone⟩
    · rw [bound] at named
      cases named
      exact absurd (attestationOf_unowned gone) admitted

theorem Lawful.blocks_descendants (lawful : bindings.Lawful) {ancestor : CallbackId}
    (below : bindings.Ancestor ancestor id) :
    ∀ above, bindings.router.callbacks.lookup ancestor = some above →
      ∃ capability binding, bindings.find id = some (capability, binding) ∧
        capability.module = above.module ∧ binding.entered = true ∧
          (above.Blocked → capability.Blocked) := by
  have reach {parent child : CallbackId} (direct : bindings.Parent parent child)
      (above : CallbackState) (had : bindings.router.callbacks.lookup parent = some above) :
      ∃ capability binding, bindings.find child = some (capability, binding) ∧
        capability.module = above.module ∧ binding.entered = true ∧
          (above.Blocked → capability.Blocked) := by
    obtain ⟨binding, here, own⟩ := direct
    have held := lawful.held child
    rw [here, Option.isSome_some, Option.isSome_iff_exists] at held
    obtain ⟨capability, there⟩ := held
    obtain ⟨module, blocks⟩ :=
      lawful.inherits parent child ⟨binding, here, own⟩ above capability had there
    exact ⟨capability, binding, find_iff.mpr ⟨there, here⟩, module,
      lawful.generations parent child ⟨binding, here, own⟩ child binding (.inr rfl) here, blocks⟩
  induction below with
  | single direct => exact reach direct
  | tail _ direct ih =>
      intro above had
      obtain ⟨middle, _, found, module, _, blocks⟩ := ih above had
      obtain ⟨capability, binding, both, same, entered, later⟩ :=
        reach direct middle (find_iff.mp found).1
      exact ⟨capability, binding, both, same.trans module, entered,
        fun gone => later (blocks gone)⟩

theorem starts_some {key : ObjectPath × InterfaceName} {member : MemberName} {context : CallContext}
    (started : bindings.starts id key member context = true) :
    ∃ capability binding module, bindings.find id = some (capability, binding) ∧
      capability.active = true ∧ capability.moduleLive = true ∧
        capability.module = some module ∧ context.sender = some module := by
  unfold starts at started
  obtain ⟨⟨capability, binding⟩, found, both⟩ := (Option.any_eq_true _ _).mp started
  rw [Bool.and_eq_true] at both
  have admitted := both.2
  unfold CallbackState.starts at admitted
  cases bound : capability.module with
  | none => simp [bound] at admitted
  | some module =>
      simp only [bound, Bool.not_eq_true', Bool.or_eq_false_iff, Bool.not_eq_false',
        Option.isNone_some] at admitted
      refine ⟨capability, binding, module, found, admitted.1.1.2, admitted.1.1.1.1.1.1, bound, ?_⟩
      exact bne_eq_false_iff_eq.mp admitted.2

theorem Lawful.silent (lawful : bindings.Lawful) {ancestor : CallbackId}
    (lost : bindings.Revoked ancestor ∨ bindings.Abandoned ancestor)
    (below : id = ancestor ∨ bindings.Ancestor ancestor id) {key : ObjectPath × InterfaceName}
    {member : MemberName} {context : CallContext}
    (possible : bindings.Possible (.call id key member context)) :
    bindings.starts id key member context = false := by
  rw [← Bool.not_eq_true]
  intro started
  obtain ⟨capability, binding, module, found, active, live, bound, sender⟩ :=
    starts_some started
  have entered := possible capability binding module found bound sender
  have unblocked : ¬ capability.Blocked := by
    rintro (revoked | dead)
    · rw [lawful.inactive id capability (find_iff.mp found).1 revoked] at active
      cases active
    · rw [live] at dead
      cases dead
  rcases lost with ⟨above, here, revoked⟩ | ⟨above, upper, number, both, closed, _⟩
  · rcases below with same | below
    · subst same
      rw [(find_iff.mp found).1] at here
      cases here
      exact unblocked (.inl revoked)
    · obtain ⟨held, _, there, _, _, blocks⟩ := lawful.blocks_descendants below above here
      rw [found] at there
      cases there
      exact unblocked (blocks (.inl revoked))
  · rcases below with same | below
    · subst same
      rw [found] at both
      cases both
      rw [closed] at entered
      cases entered
    · -- A binding that has a child was released.
      obtain ⟨child, direct, _⟩ := Relation.TransGen.head'_iff.mp below
      have released := lawful.generations ancestor child direct ancestor upper (.inl rfl)
        (find_iff.mp both).2
      rw [closed] at released
      cases released

/-- An explicit revocation, or the detachment of the module's peer. -/
inductive Ends (bindings : Bindings) (id : CallbackId) : BindingEvent → Prop
  | revoked {capability : CallbackState}
      (found : bindings.router.callbacks.lookup id = some capability) :
      Ends bindings id (.revoke id)
  | detached {op : RouterOp} {capability : CallbackState} {module : BusName}
      (found : bindings.router.callbacks.lookup id = some capability)
      (bound : capability.module = some module)
      (removes : op.Removes bindings.router module)
      (detaches : op ≠ .revokeCallbacksForPeer module) :
      Ends bindings id (.route op)

theorem Lawful.revoke_ends (lawful : bindings.Lawful) {other : CallbackId}
    (below : other = id ∨ bindings.Ancestor id other) :
    ∀ capability, (bindings.revoke id).router.callbacks.lookup other = some capability →
      capability.revoked = true := by
  intro capability found
  have chosen : (id :: bindings.liveDescendants id).contains other = true := by
    rw [List.contains_iff_mem, List.mem_cons]
    exact below.imp_right lawful.family.mem_liveDescendants
  obtain ⟨_, _, _, _, _, ⟨_, revoked, _⟩ | ⟨spared, _⟩⟩ :=
    (bindings.router.revokeHostCallbacks_revoking _).origin found
  · exact revoked
  · rw [chosen] at spared
    cases spared

private theorem removed_unowned (lawful : bindings.Lawful) {op : RouterOp} {number : PeerId}
    (removes : op.Removes bindings.router (BusName.unique number))
    (detaches : op ≠ .revokeCallbacksForPeer (BusName.unique number)) :
    (bindings.router.perform op).2.names.lookup (BusName.unique number) = none := by
  generalize named : BusName.unique number = name at removes detaches ⊢
  have gone {peerId : PeerId} {peer : Peer}
      (present : bindings.router.peers.lookup peerId = some peer) :
      (bindings.router.detach peerId).2.names.lookup peer.unique = none := by
    obtain ⟨unique, owned⟩ := lawful.consistent.ownsUnique peerId peer present
    rw [Router.detach_names_lookup present, unique, if_pos owned]
  cases removes with
  | detached present => exact gone present
  | detachedUnique owned present =>
      change (bindings.router.detachUnique _).2.names.lookup _ = none
      rw [Router.detachUnique, owned]
      exact gone present
  | stopped => exact absurd rfl detaches

private theorem Lawful.detach_ends (lawful : bindings.Lawful) {op : RouterOp} {module : BusName}
    (possible : bindings.Possible (.route op))
    (found : bindings.router.callbacks.lookup id = some capability)
    (bound : capability.module = some module) (removes : op.Removes bindings.router module)
    (detaches : op ≠ .revokeCallbacksForPeer module) :
    (∀ other, bindings.Ancestor id other → ∀ below,
      (bindings.router.perform op).2.callbacks.lookup other = some below →
        below.revoked = true) ∧
      ((bindings.after (.route op)).Revoked id ∨ (bindings.after (.route op)).Abandoned id) := by
  obtain ⟨issued, plain, _⟩ := possible
  obtain ⟨ids, revoking, _, all⟩ := Router.perform_revoking plain issued
  -- A binding of the module that was released is revoked by the removal.
  have revokes {other : CallbackId} {held : CallbackState} {binding : BindingState}
      (both : bindings.find other = some (held, binding)) (same : held.module = some module)
      (entered : binding.entered = true) :
      ∃ later, (bindings.router.perform op).2.callbacks.lookup other = some later ∧
        later.revoked = true := by
    obtain ⟨here, _⟩ := find_iff.mp both
    have lookup := revoking.lookup other
    rw [here] at lookup
    cases state : held.revoked with
    | true =>
        cases chosen : ids other with
        | true =>
            rw [if_pos chosen] at lookup
            exact ⟨_, lookup, rfl⟩
        | false =>
            rw [if_neg (by rw [chosen]; exact Bool.false_ne_true)] at lookup
            exact ⟨held, lookup, state⟩
    | false =>
        have member := (lawful.entered other held binding both entered).2 state
        have includes : held.includesPeer module = true := by
          rw [CallbackState.includesPeer, same]
          simp
        rw [if_pos (all module removes other member held here includes)] at lookup
        exact ⟨_, lookup, rfl⟩
  constructor
  · intro other below later there
    obtain ⟨held, binding, both, same, entered, _⟩ :=
      lawful.blocks_descendants below capability found
    obtain ⟨final, lookup, revoked⟩ := revokes both (same.trans bound) entered
    rw [there] at lookup
    cases lookup
    exact revoked
  · have held := lawful.held id
    rw [found, Option.isSome_some, eq_comm, Option.isSome_iff_exists] at held
    obtain ⟨binding, here⟩ := held
    have both := find_iff.mpr ⟨found, here⟩
    cases entered : binding.entered with
    | true => exact .inl (revokes both bound entered)
    | false =>
        obtain ⟨number, rfl, old⟩ := lawful.minted id capability module found bound
        obtain ⟨later, lookup⟩ : ∃ later,
            (bindings.router.perform op).2.callbacks.lookup id = some later ∧
              later.module = some (BusName.unique number) := by
          rw [revoking.lookup, found]
          split
          · exact ⟨_, rfl, bound⟩
          · exact ⟨_, rfl, bound⟩
        exact .inr ⟨later, binding, number, find_iff.mpr ⟨lookup.1, here⟩, entered, lookup.2,
          Nat.le_trans old revoking.nextId, removed_unowned lawful removes detaches⟩

private theorem Lawful.ends_lose {ended : Bindings} (lawful : bindings.Lawful)
    {event : BindingEvent} (ends : bindings.Ends id event)
    (stepped : system.step bindings event ended) :
    (∀ other, ended.Ancestor id other → ended.Revoked other) ∧
      (ended.Revoked id ∨ ended.Abandoned id) := by
  have after := (step_moves lawful stepped).lawful lawful
  have exists_below {other : CallbackId} (below : ended.Ancestor id other)
      (revoked : ∀ capability, ended.router.callbacks.lookup other = some capability →
        capability.revoked = true)
      {capability : CallbackState}
      (found : ended.router.callbacks.lookup id = some capability) : ended.Revoked other := by
    obtain ⟨held, _, both, _⟩ := after.blocks_descendants below capability found
    exact ⟨held, (find_iff.mp both).1, revoked held (find_iff.mp both).1⟩
  obtain ⟨possible, rfl⟩ := stepped
  cases ends with
  | @revoked capability found =>
      have here := (bindings.router.revokeHostCallbacks_revoking
        (id :: bindings.liveDescendants id)).lookup id
      rw [found, if_pos (List.contains_iff_mem.mpr (List.mem_cons_self ..))] at here
      refine ⟨?_, .inl ⟨capability.revoke, here, rfl⟩⟩
      intro other below
      exact exists_below below (lawful.revoke_ends (.inr below)) here
  | @detached op capability module found bound removes detaches =>
      obtain ⟨all, lost⟩ := lawful.detach_ends possible found bound removes detaches
      refine ⟨?_, lost⟩
      intro other below
      have here : ∃ later,
          (bindings.after (.route op)).router.callbacks.lookup id = some later := by
        rcases lost with ⟨later, there, _⟩ | ⟨later, _, _, both, _⟩
        · exact ⟨later, there⟩
        · exact ⟨later, (find_iff.mp both).1⟩
      obtain ⟨later, there⟩ := here
      exact exists_below below (all other below) there

/-- A call starts only for the module of an active binding without a revoked
ancestor; and where a binding is revoked, or the peer of its module detached,
its descendants are revoked and no call of the tree starts in any later state. -/
theorem callbacks_authorized {bindings : Bindings} (reached : system.Reachable bindings) :
    (∀ id key member context after,
      system.step bindings (.call id key member context) after →
        bindings.starts id key member context = true →
          ∃ capability binding module, bindings.find id = some (capability, binding) ∧
            capability.module = some module ∧ context.sender = some module ∧
              capability.active = true ∧
                ∀ ancestor above, bindings.Ancestor ancestor id →
                  bindings.router.callbacks.lookup ancestor = some above →
                    above.revoked = false) ∧
      ∀ id event ended, bindings.Ends id event → system.step bindings event ended →
        (∀ other, ended.Ancestor id other → ended.Revoked other) ∧
          ∀ events later, system.Run ended events later →
            ∀ other key member context last, other = id ∨ later.Ancestor id other →
              system.step later (.call other key member context) last →
                later.starts other key member context = false := by
  have lawful := reachable_lawful reached
  constructor
  · intro id key member context after _ started
    obtain ⟨capability, binding, module, found, active, live, bound, sender⟩ :=
      starts_some started
    refine ⟨capability, binding, module, found, bound, sender, active, ?_⟩
    intro ancestor above below here
    rw [← Bool.not_eq_true]
    intro revoked
    obtain ⟨held, _, there, _, _, blocks⟩ := lawful.blocks_descendants below above here
    rw [found] at there
    cases there
    rcases blocks (.inl revoked) with gone | dead
    · rw [lawful.inactive id capability (find_iff.mp found).1 gone] at active
      cases active
    · rw [live] at dead
      cases dead
  · intro id event ended ends stepped
    obtain ⟨all, lost⟩ := lawful.ends_lose ends stepped
    refine ⟨all, ?_⟩
    intro events later run other key member context last below called
    have keeps (before : Bindings) (next : BindingEvent) (after : Bindings)
        (taken : system.step before next after)
        (held : before.Lawful ∧ (before.Revoked id ∨ before.Abandoned id)) :
        after.Lawful ∧ (after.Revoked id ∨ after.Abandoned id) := by
      have moves := step_moves held.1 taken
      exact ⟨moves.lawful held.1, moves.lost held.1 held.2⟩
    have kept := run.preserves keeps ⟨(step_moves lawful stepped).lawful lawful, lost⟩
    exact kept.1.silent kept.2 below called.1

end Bindings

def notifyMember : MemberName := ⟨"Notify", by rfl⟩

def voiceCallbacks : InterfaceName := ⟨"ai.tinyhumans.openhuman.VoiceCallbacks", by rfl⟩

def voiceEndpoint : HostCallbackEndpoint := ⟨ObjectPath.root, voiceCallbacks, [notifyMember]⟩

/-- The context of a confidential call from the module of the bindings below. -/
def voiceContext : CallContext := ⟨some (BusName.unique 1), true⟩

def voiceBindingEvents : List BindingEvent :=
  [.route (.attach 0), .route (.attach 1), .route (.attach 2),
    .route (.setAttestationForUnique (BusName.unique 1) voiceAttestation),
    .prepare (BusName.unique 2) [voiceEndpoint] [] [],
    .serve 0 voiceEndpoint.interfaceKey [notifyMember], .consume 0,
    .bind 0 (BusName.unique 1) true, .register 0,
    .createChild 0 voiceContext [voiceEndpoint] (BusName.unique 3),
    .serve 1 voiceEndpoint.interfaceKey [notifyMember]]

def derivedBindings : Bindings :=
  voiceBindingEvents.foldl Bindings.after Bindings.empty

namespace Bindings

private theorem run_next {first middle : Bindings} {events : List BindingEvent}
    (run : system.Run first events middle) (event : BindingEvent)
    (possible : middle.Possible event) :
    system.Run first (events ++ [event]) (middle.after event) :=
  .snoc run ⟨possible, rfl⟩

private theorem entered_of_find {bindings : Bindings} {id : CallbackId}
    (released : (bindings.find id).all (fun held => held.2.entered) = true)
    {capability : CallbackState} {binding : BindingState}
    (found : bindings.find id = some (capability, binding)) : binding.entered = true := by
  rw [found] at released
  exact released

theorem derivedBindings_reachable : system.Reachable derivedBindings := by
  have module := run_next (.nil : system.Run empty [] _) (.route (.attach 0))
    ⟨trivial, rfl, fun _ _ _ _ removes => nomatch removes⟩
  have parent := run_next module (.route (.attach 1))
    ⟨trivial, rfl, fun _ _ _ _ removes => nomatch removes⟩
  have child := run_next parent (.route (.attach 2))
    ⟨trivial, rfl, fun _ _ _ _ removes => nomatch removes⟩
  have admitted := run_next child
    (.route (.setAttestationForUnique (BusName.unique 1) voiceAttestation))
    ⟨trivial, rfl, fun _ _ _ _ removes => nomatch removes⟩
  have prepared := run_next admitted (.prepare (BusName.unique 2) [voiceEndpoint] [] []) trivial
  have served := run_next prepared
    (.serve 0 voiceEndpoint.interfaceKey [notifyMember]) trivial
  have consumed := run_next served (.consume 0) trivial
  have bound := run_next consumed (.bind 0 (BusName.unique 1) true) ⟨1, rfl, by decide⟩
  have registered := run_next bound (.register 0) trivial
  have created := run_next registered
    (.createChild 0 voiceContext [voiceEndpoint] (BusName.unique 3))
    (fun _ _ _ found _ _ => entered_of_find (by decide) found)
  have listening := run_next created
    (.serve 1 voiceEndpoint.interfaceKey [notifyMember]) trivial
  exact ⟨empty, voiceBindingEvents, rfl, listening⟩

theorem derivedBindings_authorized :
    (∃ capability binding module, derivedBindings.find 1 = some (capability, binding) ∧
      capability.module = some module ∧ voiceContext.sender = some module ∧
        capability.active = true ∧ ∀ ancestor above, derivedBindings.Ancestor ancestor 1 →
          derivedBindings.router.callbacks.lookup ancestor = some above →
            above.revoked = false) ∧ (derivedBindings.revoke 0).Revoked 1 := by
  obtain ⟨started, ended⟩ := callbacks_authorized derivedBindings_reachable
  constructor
  · refine started 1 voiceEndpoint.interfaceKey notifyMember voiceContext _ ⟨?_, rfl⟩ (by decide)
    exact fun _ _ _ found _ _ => entered_of_find (by decide) found
  · exact (ended 0 (.revoke 0) _ (.revoked rfl) ⟨trivial, rfl⟩).1 1
      (.single ⟨_, rfl, rfl⟩)

end Bindings

end TinyBus
