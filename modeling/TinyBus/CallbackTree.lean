import TinyBus.RouterRevocation

/-
The tree of callback bindings: parents and children agree, authority is handed
down from a parent and lost with it, and every event is one of a few moves.
-/

namespace TinyBus

open TransitionSystem

namespace Bindings

abbrev Ties := Option CallbackId × List CallbackId

def ties (bindings : Bindings) (id : CallbackId) : Option Ties :=
  (bindings.states.lookup id).map (fun binding => (binding.parent, binding.children))

structure Family (ties : CallbackId → Option Ties) (next : CallbackId) : Prop where
  fresh : ∀ id tie, ties id = some tie → id < next
  older : ∀ id parent children, ties id = some (some parent, children) → parent < id
  listed : ∀ id parent children, ties id = some (some parent, children) →
    ∃ above siblings, ties parent = some (above, siblings) ∧ id ∈ siblings
  claimed : ∀ parent above children, ties parent = some (above, children) →
    ∀ child ∈ children, ∃ below, ties child = some (some parent, below)
  distinct : ∀ parent above children, ties parent = some (above, children) →
    children.Nodup

variable {next parent child : CallbackId} {ties : CallbackId → Option Ties} {bindings : Bindings}
  {capability : CallbackState}

theorem Family.congr {others : CallbackId → Option Ties} (family : Family ties next)
    (same : ∀ id, ties id = others id) : Family others next :=
  funext same ▸ family

theorem Family.absent (family : Family ties next) : ties next = none := by
  cases found : ties next with
  | none => rfl
  | some tie => exact absurd (family.fresh next tie found) (Nat.lt_irrefl next)

private theorem Family.unlisted (family : Family ties next) {above : Option CallbackId}
    {children : List CallbackId} (found : ties parent = some (above, children)) :
    next ∉ children := by
  intro member
  obtain ⟨below, claimed⟩ := family.claimed parent above children found next member
  rw [family.absent] at claimed
  cases claimed

theorem Family.prepared (family : Family ties next) :
    Family (fun id => if id = next then some (none, []) else ties id) (next + 1) := by
  have old {id : CallbackId} {tie : Ties} (found : ties id = some tie) : id ≠ next :=
    Nat.ne_of_lt (family.fresh id tie found)
  constructor
  · intro id tie found
    by_cases same : id = next
    · exact same ▸ Nat.lt_succ_self next
    · rw [if_neg same] at found
      exact Nat.lt_succ_of_lt (family.fresh id tie found)
  · intro id parent children found
    by_cases same : id = next
    · rw [if_pos same] at found
      cases found
    · rw [if_neg same] at found
      exact family.older id parent children found
  · intro id parent children found
    by_cases same : id = next
    · rw [if_pos same] at found
      cases found
    · rw [if_neg same] at found
      obtain ⟨above, siblings, held, member⟩ := family.listed id parent children found
      exact ⟨above, siblings, by rw [if_neg (old held)]; exact held, member⟩
  · intro parent above children found child member
    by_cases same : parent = next
    · rw [if_pos same] at found
      cases found
      cases member
    · rw [if_neg same] at found
      obtain ⟨below, held⟩ := family.claimed parent above children found child member
      exact ⟨below, by rw [if_neg (old held)]; exact held⟩
  · intro parent above children found
    by_cases same : parent = next
    · rw [if_pos same] at found
      cases found
      exact List.nodup_nil
    · rw [if_neg same] at found
      exact family.distinct parent above children found

theorem Family.created (family : Family ties next) {above : Option CallbackId}
    {siblings : List CallbackId} (present : ties parent = some (above, siblings)) :
    Family (fun id => if id = next then some (some parent, [])
      else if id = parent then some (above, siblings ++ [next]) else ties id) (next + 1) := by
  have old {id : CallbackId} {tie : Ties} (found : ties id = some tie) : id ≠ next :=
    Nat.ne_of_lt (family.fresh id tie found)
  have apart : parent ≠ next := old present
  constructor
  · intro id tie found
    by_cases same : id = next
    · exact same ▸ Nat.lt_succ_self next
    · rw [if_neg same] at found
      by_cases here : id = parent
      · exact here ▸ Nat.lt_succ_of_lt (family.fresh parent _ present)
      · rw [if_neg here] at found
        exact Nat.lt_succ_of_lt (family.fresh id tie found)
  · intro id elder children found
    by_cases same : id = next
    · rw [if_pos same] at found
      cases found
      exact same ▸ family.fresh parent _ present
    · rw [if_neg same] at found
      by_cases here : id = parent
      · rw [if_pos here] at found
        cases found
        exact here ▸ family.older parent elder siblings present
      · rw [if_neg here] at found
        exact family.older id elder children found
  · intro id elder children found
    by_cases same : id = next
    · rw [if_pos same] at found
      cases found
      refine ⟨above, siblings ++ [next], ?_, ?_⟩
      · rw [if_neg apart, if_pos rfl]
      · exact same ▸ List.mem_append_right _ (List.mem_singleton_self _)
    · have listed : ∃ upper others, ties elder = some (upper, others) ∧ id ∈ others := by
        rw [if_neg same] at found
        by_cases here : id = parent
        · rw [if_pos here] at found
          cases found
          exact here ▸ family.listed parent elder siblings present
        · rw [if_neg here] at found
          exact family.listed id elder children found
      obtain ⟨upper, others, held, member⟩ := listed
      by_cases here : elder = parent
      · subst here
        rw [present] at held
        cases held
        refine ⟨above, siblings ++ [next], ?_, List.mem_append_left _ member⟩
        rw [if_neg apart, if_pos rfl]
      · refine ⟨upper, others, ?_, member⟩
        rw [if_neg (old held), if_neg here]
        exact held
  · intro elder upper children found child member
    have claimed : child = next ∧ elder = parent ∨
        ∃ below, ties child = some (some elder, below) := by
      by_cases same : elder = next
      · rw [if_pos same] at found
        cases found
        cases member
      · rw [if_neg same] at found
        by_cases here : elder = parent
        · rw [if_pos here] at found
          cases found
          rcases List.mem_append.mp member with before | last
          · exact .inr (here ▸ family.claimed parent above siblings present child before)
          · exact .inl ⟨List.mem_singleton.mp last, here⟩
        · rw [if_neg here] at found
          exact .inr (family.claimed elder upper children found child member)
    rcases claimed with ⟨new, here⟩ | ⟨below, held⟩
    · exact ⟨[], by rw [if_pos new, here]⟩
    · by_cases here : child = parent
      · subst here
        rw [present] at held
        cases held
        exact ⟨siblings ++ [next], by rw [if_neg apart, if_pos rfl]⟩
      · exact ⟨below, by rw [if_neg (old held), if_neg here]; exact held⟩
  · intro elder upper children found
    by_cases same : elder = next
    · rw [if_pos same] at found
      cases found
      exact List.nodup_nil
    · rw [if_neg same] at found
      by_cases here : elder = parent
      · rw [if_pos here] at found
        cases found
        refine List.nodup_append'.mpr
          ⟨family.distinct parent above siblings present, List.nodup_singleton next, ?_⟩
        intro child member last
        rw [List.mem_singleton] at last
        exact family.unlisted present (last ▸ member)
      · rw [if_neg here] at found
        exact family.distinct elder upper children found

theorem mem_childrenOf :
    child ∈ bindings.childrenOf parent ↔
      ∃ above children, bindings.ties parent = some (above, children) ∧ child ∈ children := by
  unfold childrenOf ties
  cases bindings.states.lookup parent with
  | none => simp
  | some binding => simp

theorem parent_iff :
    bindings.Parent parent child ↔
      ∃ children, bindings.ties child = some (some parent, children) := by
  unfold Parent ties
  cases bindings.states.lookup child with
  | none => simp
  | some binding => simp

theorem Family.shape (family : Family bindings.ties bindings.next) :
    Forest.Shape bindings.childrenOf (List.range bindings.next) id where
  listed := by
    intro parent child member
    obtain ⟨above, children, found, mine⟩ := mem_childrenOf.mp member
    obtain ⟨below, held⟩ := family.claimed parent above children found child mine
    exact List.mem_range.mpr (family.fresh child _ held)
  distinct := by
    intro parent
    unfold childrenOf
    cases found : bindings.states.lookup parent with
    | none => exact List.nodup_nil
    | some binding =>
        refine family.distinct parent binding.parent binding.children ?_
        rw [ties, found]
        rfl
  single := by
    intro child left right first second
    obtain ⟨_, _, leftTies, leftMine⟩ := mem_childrenOf.mp first
    obtain ⟨_, _, rightTies, rightMine⟩ := mem_childrenOf.mp second
    obtain ⟨_, here⟩ := family.claimed left _ _ leftTies child leftMine
    obtain ⟨_, there⟩ := family.claimed right _ _ rightTies child rightMine
    rw [here] at there
    cases there
    rfl
  ranked := by
    intro parent child member
    obtain ⟨above, children, found, mine⟩ := mem_childrenOf.mp member
    obtain ⟨below, held⟩ := family.claimed parent above children found child mine
    exact family.older child parent below held

theorem Family.mem_children (family : Family bindings.ties bindings.next)
    (direct : bindings.Parent parent child) : child ∈ bindings.childrenOf parent := by
  obtain ⟨children, found⟩ := parent_iff.mp direct
  obtain ⟨above, siblings, held, member⟩ := family.listed child parent children found
  exact mem_childrenOf.mpr ⟨above, siblings, held, member⟩

theorem Family.liveDescendants_closed (family : Family bindings.ties bindings.next)
    {id : CallbackId} (met : parent = id ∨ parent ∈ bindings.liveDescendants id)
    (direct : bindings.Parent parent child) : child ∈ bindings.liveDescendants id :=
  Forest.walk_closed family.shape (Nat.le_of_eq List.length_range) met
    (family.mem_children direct)

theorem Family.mem_liveDescendants (family : Family bindings.ties bindings.next)
    {ancestor id : CallbackId}
    (below : bindings.Ancestor ancestor id) : id ∈ bindings.liveDescendants ancestor :=
  Forest.mem_walk family.shape (Nat.le_of_eq List.length_range)
    (Relation.TransGen.mono (fun _ _ direct => family.mem_children direct) _ _ below)

theorem Family.parent_of_mem (family : Family bindings.ties bindings.next)
    (member : child ∈ bindings.childrenOf parent) : bindings.Parent parent child := by
  obtain ⟨above, children, found, mine⟩ := mem_childrenOf.mp member
  obtain ⟨below, held⟩ := family.claimed parent above children found child mine
  exact parent_iff.mpr ⟨below, held⟩

theorem Family.ancestor_of_mem (family : Family bindings.ties bindings.next)
    {ancestor id : CallbackId}
    (member : id ∈ bindings.liveDescendants ancestor) : bindings.Ancestor ancestor id := by
  have below : Forest.Descends bindings.childrenOf ancestor id := by
    refine Forest.descends_of_mem_walk bindings.next ?_ (fun _ none => absurd none List.not_mem_nil)
      id member
    intro node child
    exact .single (List.mem_reverse.mp child)
  exact Relation.TransGen.mono (fun _ _ listed => family.parent_of_mem listed) _ _ below

theorem find_iff {id : CallbackId} {binding : BindingState} :
    bindings.find id = some (capability, binding) ↔
      bindings.router.callbacks.lookup id = some capability ∧
        bindings.states.lookup id = some binding := by
  unfold find
  cases bindings.router.callbacks.lookup id <;> cases bindings.states.lookup id <;> simp

structure Lawful (bindings : Bindings) : Prop where
  family : Family bindings.ties bindings.next
  consistent : bindings.router.Consistent
  held : ∀ id, (bindings.router.callbacks.lookup id).isSome =
    (bindings.states.lookup id).isSome
  inactive : Router.RevokedInactive bindings.router.callbacks
  /-- A child is bound to its parent's module, and is blocked with its parent. -/
  inherits : ∀ parent child, bindings.Parent parent child → ∀ above below,
    bindings.router.callbacks.lookup parent = some above →
      bindings.router.callbacks.lookup child = some below →
        below.module = above.module ∧ (above.Blocked → below.Blocked)
  entered : ∀ id capability binding, bindings.find id = some (capability, binding) →
    binding.entered = true → capability.module.isSome = true ∧
      (capability.revoked = false → id ∈ bindings.router.hostCallbacks)
  generations : ∀ parent child, bindings.Parent parent child → ∀ id binding,
    id = parent ∨ id = child → bindings.states.lookup id = some binding →
      binding.entered = true
  minted : ∀ id capability module, bindings.router.callbacks.lookup id = some capability →
    capability.module = some module →
      ∃ number, module = BusName.unique number ∧ number ≤ bindings.router.nextId

inductive Moves (bindings : Bindings) : Bindings → Prop
  | same : Moves bindings bindings
  | revoked {ids : CallbackId → Bool} {router : Router}
      (revoking : Router.Revoking ids bindings.router router)
      (closed : ∀ parent child, bindings.Parent parent child → ids parent = true →
        ∀ below, bindings.router.callbacks.lookup child = some below →
          ids child = true ∨ below.Blocked) :
      Moves bindings { bindings with router := router }
  | faulted (module : BusName) : Moves bindings (bindings.fault module)
  | noted {id : CallbackId} {update : BindingState → BindingState}
      (parent : ∀ held, (update held).parent = held.parent)
      (children : ∀ held, (update held).children = held.children)
      (entered : ∀ held, (update held).entered = held.entered) :
      Moves bindings (bindings.modifyState id update)
  | prepared {capability : CallbackState} {streamEndpoints : List HostStreamCallbackEndpoint}
      (unbound : capability.module = none) (inactive : capability.active = false) :
      Moves bindings
        { router := { bindings.router with
            callbacks := bindings.router.callbacks.insert bindings.next capability }
          states := bindings.states.insert bindings.next
            ⟨streamEndpoints, none, [], false, [], 0, false⟩
          next := bindings.next + 1 }
  | bound {id : CallbackId} {capability : CallbackState} {number : PeerId} (live : Bool)
      (found : bindings.router.callbacks.lookup id = some capability)
      (unrevoked : capability.revoked = false) (unbound : capability.module = none)
      (minted : number ≤ bindings.router.nextId) :
      Moves bindings { bindings with
        router := bindings.router.modifyCallback id
          (fun held => held.bindModule (BusName.unique number) live) }
  | registered {id : CallbackId} {capability : CallbackState} {source : BusName}
      (found : bindings.router.callbacks.lookup id = some capability)
      (bound : capability.module = some source)
      (admitted : bindings.router.attestationOf source ≠ none) :
      Moves bindings
        ({ bindings with router := { bindings.router with
            hostCallbacks := bindings.router.hostCallbacks ++ [id] } }.modifyState id
          (fun held => { held with entered := true }))
  | created {id : CallbackId} {capability : CallbackState} {binding : BindingState}
      {context : CallContext} (endpoints : List HostCallbackEndpoint) (destination : BusName)
      (found : bindings.find id = some (capability, binding))
      (authorized : capability.authorizes context = true) (entered : binding.entered = true) :
      Moves bindings
        { router := { bindings.router with
            callbacks := bindings.router.callbacks.insert bindings.next
              ⟨destination, endpoints, [], true, true, false, capability.module⟩
            hostCallbacks := bindings.router.hostCallbacks ++ [bindings.next] }
          states := (bindings.states.modify id (fun held =>
              { held with children := held.children ++ [bindings.next] })).insert
            bindings.next ⟨[], some id, [], false, [], 0, true⟩
          next := bindings.next + 1 }

theorem authorizes_iff {context : CallContext} :
    capability.authorizes context = true ↔
      capability.active = true ∧ capability.moduleLive = true ∧
        context.confidential = true ∧
          ∃ module, capability.module = some module ∧ context.sender = some module := by
  unfold CallbackState.authorizes
  cases bound : capability.module with
  | none => simp
  | some module => simp [and_assoc]

theorem bindModule_of_free (unrevoked : capability.revoked = false)
    (unbound : capability.module = none) (module : BusName) (live : Bool) :
    capability.bindModule module live =
      { capability with moduleLive := live, module := some module, active := true } := by
  rw [CallbackState.bindModule, if_neg]
  rw [unrevoked, unbound]
  exact Bool.false_ne_true

private theorem route_moves (lawful : bindings.Lawful) {op : RouterOp}
    (possible : bindings.Possible (.route op)) : Moves bindings (bindings.after (.route op)) := by
  obtain ⟨issued, plain, spared⟩ := possible
  obtain ⟨ids, revoking, named, all⟩ := Router.perform_revoking plain issued
  refine .revoked revoking ?_
  intro parent child direct revoked below found
  obtain ⟨peer, above, removes, had, includes⟩ := named parent revoked
  obtain ⟨module, blocks⟩ := lawful.inherits parent child direct above below had found
  by_cases gone : below.Blocked
  · exact .inr gone
  · left
    have live : above.revoked = false := by
      cases state : above.revoked with
      | false => rfl
      | true => exact absurd (blocks (.inl state)) gone
    -- The removed peer is not the private one, so it is the module of both.
    have bound : above.module = some peer := by
      unfold CallbackState.includesPeer at includes
      rw [Bool.or_eq_true, decide_eq_true_iff, decide_eq_true_iff] at includes
      rcases includes with destination | module
      · exact absurd (destination ▸ removes) (spared parent above had live)
      · exact module
    obtain ⟨binding, here, own⟩ := direct
    have member : child ∈ bindings.router.hostCallbacks := by
      refine (lawful.entered child below binding (find_iff.mpr ⟨found, here⟩) ?_).2 ?_
      · exact lawful.generations parent child ⟨binding, here, own⟩ child binding (.inr rfl) here
      · cases state : below.revoked with
        | false => rfl
        | true => exact absurd (.inl state) gone
    refine all peer removes child member below found ?_
    unfold CallbackState.includesPeer
    rw [module, bound]
    simp

theorem createChild_cases (bindings : Bindings) (id : CallbackId) (context : CallContext)
    (endpoints : List HostCallbackEndpoint) (destination : BusName) :
    (∃ error, bindings.createChildBinding id context endpoints destination =
        (.error error, bindings)) ∨
      ∃ capability, bindings.router.callbacks.lookup id = some capability ∧
        capability.authorizes context = true ∧
        bindings.createChildBinding id context endpoints destination =
          (.ok bindings.next,
            { router := { bindings.router with
                callbacks := bindings.router.callbacks.insert bindings.next
                  ⟨destination, endpoints, [], true, true, false, capability.module⟩
                hostCallbacks := bindings.router.hostCallbacks ++ [bindings.next] }
              states := (bindings.states.modify id (fun held =>
                  { held with children := held.children ++ [bindings.next] })).insert
                bindings.next ⟨[], some id, [], false, [], 0, true⟩
              next := bindings.next + 1 }) := by
  unfold createChildBinding
  cases found : bindings.router.callbacks.lookup id with
  | none => exact .inl ⟨_, rfl⟩
  | some capability =>
      by_cases declared : (!childEndpointsDeclared endpoints) = true
      · simp only [if_pos declared]
        exact .inl ⟨_, rfl⟩
      · by_cases refused : (!capability.authorizes context) = true
        · simp only [if_neg declared, if_pos refused]
          exact .inl ⟨_, rfl⟩
        · simp only [if_neg declared, if_neg refused]
          rw [Bool.not_eq_true', Bool.not_eq_false] at refused
          rcases Router.addHostCallbacks_cases
            { bindings.router with
              callbacks := bindings.router.callbacks.insert bindings.next
                ⟨destination, endpoints, [], true, true, false, capability.module⟩ }
            bindings.next with ⟨error, failed⟩ | ⟨_, _, _, _, _, _, _, added⟩
          · rw [failed]
            exact .inl ⟨_, rfl⟩
          · rw [added]
            exact .inr ⟨capability, rfl, refused, rfl⟩

private theorem createChild_moves {id : CallbackId} {context : CallContext}
    {endpoints : List HostCallbackEndpoint} {destination : BusName} (lawful : bindings.Lawful)
    (possible : bindings.Possible (.createChild id context endpoints destination)) :
    Moves bindings (bindings.after (.createChild id context endpoints destination)) := by
  change Moves bindings (bindings.createChildBinding id context endpoints destination).2
  rcases bindings.createChild_cases id context endpoints destination with
    ⟨error, failed⟩ | ⟨capability, found, authorized, created⟩
  · rw [failed]
    exact .same
  · rw [created]
    have held := lawful.held id
    rw [found, Option.isSome_some, eq_comm, Option.isSome_iff_exists] at held
    obtain ⟨binding, here⟩ := held
    obtain ⟨_, _, _, module, bound, sender⟩ := authorizes_iff.mp authorized
    have both := find_iff.mpr ⟨found, here⟩
    exact .created endpoints destination both authorized
      (possible capability binding module both bound sender)

private theorem serve_moves (bindings : Bindings) (id : CallbackId)
    (key : ObjectPath × InterfaceName) (provided : List MemberName) :
    Moves bindings (bindings.after (.serve id key provided)) := by
  change Moves bindings (bindings.serveAt id key provided).2
  unfold serveAt
  cases bindings.find id with
  | none => exact .same
  | some held =>
      dsimp only
      split
      · exact .same
      · split
        · exact .same
        · split
          · exact .same
          · exact .noted (fun _ => rfl) (fun _ => rfl) (fun _ => rfl)

theorem consume_cases (bindings : Bindings) (id : CallbackId) :
    (∃ error, bindings.consume id = (.error error, bindings)) ∨
      ∃ capability binding, bindings.find id = some (capability, binding) ∧
        capability.revoked = false ∧
        bindings.consume id =
          (.ok (), bindings.modifyState id (fun held => { held with used := true })) := by
  unfold consume
  cases found : bindings.find id with
  | none => exact .inl ⟨_, rfl⟩
  | some held =>
      obtain ⟨capability, binding⟩ := held
      dsimp only
      split
      · exact .inl ⟨_, rfl⟩
      · rename_i admitted
        rw [Bool.not_eq_true, Bool.or_eq_false_iff, Bool.or_eq_false_iff] at admitted
        exact .inr ⟨capability, binding, rfl, admitted.1.2, rfl⟩

private theorem consume_moves (bindings : Bindings) (id : CallbackId) :
    Moves bindings (bindings.after (.consume id)) := by
  change Moves bindings (bindings.consume id).2
  rcases bindings.consume_cases id with ⟨error, failed⟩ | ⟨_, _, _, _, consumed⟩
  · rw [failed]
    exact .same
  · rw [consumed]
    exact .noted (fun _ => rfl) (fun _ => rfl) (fun _ => rfl)

theorem bind_cases (bindings : Bindings) (id : CallbackId) (module : BusName) (live : Bool) :
    (∃ error, bindings.bind id module live = (.error error, bindings)) ∨
      ∃ capability, bindings.router.callbacks.lookup id = some capability ∧
        capability.revoked = false ∧ capability.module = none ∧
        bindings.bind id module live =
          (.ok (), { bindings with
            router := bindings.router.modifyCallback id
              (fun held => held.bindModule module live) }) := by
  unfold bind
  cases found : bindings.router.callbacks.lookup id with
  | none => exact .inl ⟨_, rfl⟩
  | some capability =>
      by_cases taken : (capability.revoked || capability.module.isSome) = true
      · simp only [if_pos taken]
        exact .inl ⟨_, rfl⟩
      · simp only [if_neg taken]
        rw [Bool.or_eq_true, not_or, Bool.not_eq_true, Bool.not_eq_true,
          Option.isSome_eq_false_iff, Option.isNone_iff_eq_none] at taken
        exact .inr ⟨capability, rfl, taken.1, taken.2, trivial⟩

private theorem bind_moves {id : CallbackId} {module : BusName} {live : Bool}
    (possible : bindings.Possible (.bind id module live)) :
    Moves bindings (bindings.after (.bind id module live)) := by
  obtain ⟨number, rfl, minted⟩ := possible
  change Moves bindings (bindings.bind id (BusName.unique number) live).2
  rcases bindings.bind_cases id (BusName.unique number) live with
    ⟨error, failed⟩ | ⟨capability, found, unrevoked, unbound, taken⟩
  · rw [failed]
    exact .same
  · rw [taken]
    exact .bound live found unrevoked unbound minted

private theorem register_moves (bindings : Bindings) (id : CallbackId) :
    Moves bindings (bindings.after (.register id)) := by
  change Moves bindings (bindings.register id).2
  unfold register
  rcases bindings.router.addHostCallbacks_cases id with
    ⟨error, failed⟩ | ⟨_, _, found, bound, admitted, _, _, added⟩
  · rw [failed]
    exact .same
  · rw [added]
    exact .registered found bound admitted

private theorem revoke_moves (lawful : bindings.Lawful)
    (id : CallbackId) : Moves bindings (bindings.after (.revoke id)) := by
  refine .revoked (bindings.router.revokeHostCallbacks_revoking _) ?_
  intro parent child direct revoked below _
  rw [List.contains_iff_mem, List.mem_cons] at revoked
  rw [List.contains_iff_mem]
  exact .inl (List.mem_cons_of_mem id (lawful.family.liveDescendants_closed revoked direct))

theorem Lawful.capability_of_parent (lawful : bindings.Lawful)
    (direct : bindings.Parent parent child) :
    ∃ above, bindings.router.callbacks.lookup parent = some above := by
  obtain ⟨children, found⟩ := parent_iff.mp direct
  obtain ⟨above, siblings, ties, _⟩ := lawful.family.listed child parent children found
  have held := lawful.held parent
  obtain ⟨binding, here, _⟩ := Option.map_eq_some_iff.mp ties
  rw [here, Option.isSome_some, Option.isSome_iff_exists] at held
  exact held

private theorem drained_moves (lawful : bindings.Lawful) {id : CallbackId}
    (possible : bindings.Possible (.drained id)) :
    Moves bindings (bindings.after (.drained id)) := by
  refine .revoked (bindings.router.revokeCallback_revoking id) ?_
  intro parent child direct revoked below found
  obtain ⟨above, had⟩ := lawful.capability_of_parent direct
  have gone : above.Blocked := possible above (beq_iff_eq.mp revoked ▸ had)
  exact .inr ((lawful.inherits parent child direct above below had found).2 gone)

theorem after_moves (lawful : bindings.Lawful) {event : BindingEvent}
    (possible : bindings.Possible event) : Moves bindings (bindings.after event) := by
  cases event with
  | route op => exact route_moves lawful possible
  | prepare destination endpoints signals streamEndpoints =>
      change Moves bindings
        (bindings.prepareHostCallbacks destination endpoints signals streamEndpoints).2
      unfold prepareHostCallbacks
      split
      · exact .same
      · split
        · exact .same
        · exact .prepared rfl rfl
  | serve id key provided => exact serve_moves bindings id key provided
  | consume id => exact consume_moves bindings id
  | bind id module live => exact bind_moves possible
  | register id => exact register_moves bindings id
  | createChild id context endpoints destination => exact createChild_moves lawful possible
  | revoke id => exact revoke_moves lawful id
  | fault module => exact .faulted module
  | drained id => exact drained_moves lawful possible
  | call id key member context =>
      change Moves bindings (bindings.callWithContext id key member context).2
      unfold callWithContext
      split
      · exact .noted (fun _ => rfl) (fun _ => rfl) (fun _ => rfl)
      · exact .same
  | returned id => exact .noted (fun _ => rfl) (fun _ => rfl) (fun _ => rfl)

end Bindings

end TinyBus
