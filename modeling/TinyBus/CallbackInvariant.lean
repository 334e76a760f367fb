import TinyBus.CallbackTree

/-
Each move of the callback bindings keeps their invariant, and so every
reachable state has it.
-/

namespace TinyBus

open TransitionSystem

namespace Bindings

variable {bindings after : Bindings} {capability : CallbackState} {id : CallbackId}
  {binding : BindingState}

private theorem Lawful.revoked (lawful : bindings.Lawful) {ids : CallbackId → Bool}
    {router : Router} (revoking : Router.Revoking ids bindings.router router)
    (closed : ∀ parent child, bindings.Parent parent child → ids parent = true →
      ∀ below, bindings.router.callbacks.lookup child = some below →
        ids child = true ∨ below.Blocked) :
    Lawful { bindings with router := router } where
  family := lawful.family
  consistent := revoking.consistent lawful.consistent
  held := by
    intro id
    change (router.callbacks.lookup id).isSome = _
    rw [revoking.lookup]
    split
    · rw [Option.isSome_map]
      exact lawful.held id
    · exact lawful.held id
  inactive := by
    intro id capability found revoked
    obtain ⟨old, had, _, _, _, ⟨_, _, inactive⟩ | ⟨_, same⟩⟩ := revoking.origin found
    · exact inactive
    · rw [same] at revoked ⊢
      exact lawful.inactive id old had revoked
  inherits := by
    intro parent child direct above below foundAbove foundBelow
    obtain ⟨oldAbove, hadAbove, moduleAbove, _, _, wayAbove⟩ := revoking.origin foundAbove
    obtain ⟨oldBelow, hadBelow, moduleBelow, _, later, wayBelow⟩ := revoking.origin foundBelow
    obtain ⟨module, blocks⟩ :=
      lawful.inherits parent child direct oldAbove oldBelow hadAbove hadBelow
    refine ⟨moduleBelow.trans (module.trans moduleAbove.symm), ?_⟩
    intro gone
    rcases wayAbove with ⟨chosen, _⟩ | ⟨_, same⟩
    · rcases closed parent child direct chosen oldBelow hadBelow with also | before
      · rcases wayBelow with ⟨_, revoked, _⟩ | ⟨spared, _⟩
        · exact .inl revoked
        · rw [spared] at also
          cases also
      · exact later before
    · exact later (blocks (same ▸ gone))
  entered := by
    intro id capability binding found entered
    obtain ⟨here, state⟩ := find_iff.mp found
    obtain ⟨old, had, module, _, _, way⟩ := revoking.origin here
    obtain ⟨bound, registered⟩ :=
      lawful.entered id old binding (find_iff.mpr ⟨had, state⟩) entered
    refine ⟨module ▸ bound, ?_⟩
    intro unrevoked
    rcases way with ⟨_, revoked, _⟩ | ⟨spared, same⟩
    · rw [unrevoked] at revoked
      cases revoked
    · exact revoking.kept id (registered (same ▸ unrevoked)) spared
  generations := lawful.generations
  minted := by
    intro id capability module found bound
    obtain ⟨old, had, same, _⟩ := revoking.origin found
    obtain ⟨number, name, bound⟩ := lawful.minted id old module had (same ▸ bound)
    exact ⟨number, name, Nat.le_trans bound revoking.nextId⟩

private theorem fault_origin {module : BusName}
    (found : (bindings.fault module).router.callbacks.lookup id = some capability) :
    ∃ old, bindings.router.callbacks.lookup id = some old ∧
      capability.module = old.module ∧ capability.revoked = old.revoked ∧
      capability.active = old.active ∧ (old.Blocked → capability.Blocked) ∧
      (old.module = some module → capability.Blocked) ∧
      (old.module ≠ some module → capability = old) := by
  change (bindings.router.callbacks.mapValues _).lookup id = _ at found
  rw [Table.lookup_mapValues] at found
  obtain ⟨old, had, same⟩ := Option.map_eq_some_iff.mp found
  by_cases bound : old.module = some module
  · rw [if_pos bound] at same
    subst same
    exact ⟨old, had, rfl, rfl, rfl, fun _ => .inr rfl, fun _ => .inr rfl, absurd bound⟩
  · rw [if_neg bound] at same
    subst same
    exact ⟨old, had, rfl, rfl, rfl, fun gone => gone, fun now => absurd now bound, fun _ => rfl⟩

private theorem Lawful.faulted (lawful : bindings.Lawful)
    (module : BusName) : (bindings.fault module).Lawful where
  family := lawful.family
  consistent := lawful.consistent.kept rfl rfl (fun _ => rfl)
  held := by
    intro id
    change ((bindings.router.callbacks.mapValues _).lookup id).isSome = _
    rw [Table.lookup_mapValues, Option.isSome_map]
    exact lawful.held id
  inactive := by
    intro id capability found revoked
    obtain ⟨old, had, _, same, active, _⟩ := fault_origin found
    rw [active]
    exact lawful.inactive id old had (same ▸ revoked)
  inherits := by
    intro parent child direct above below foundAbove foundBelow
    obtain ⟨oldAbove, hadAbove, moduleAbove, _, _, _, _, spared⟩ := fault_origin foundAbove
    obtain ⟨oldBelow, hadBelow, moduleBelow, _, _, later, struck, _⟩ := fault_origin foundBelow
    obtain ⟨same, blocks⟩ :=
      lawful.inherits parent child direct oldAbove oldBelow hadAbove hadBelow
    refine ⟨moduleBelow.trans (same.trans moduleAbove.symm), ?_⟩
    intro gone
    by_cases bound : oldAbove.module = some module
    · exact struck (same.trans bound)
    · exact later (blocks (spared bound ▸ gone))
  entered := by
    intro id capability binding found entered
    obtain ⟨here, state⟩ := find_iff.mp found
    obtain ⟨old, had, same, revoked, _⟩ := fault_origin here
    rw [same, revoked]
    exact lawful.entered id old binding (find_iff.mpr ⟨had, state⟩) entered
  generations := lawful.generations
  minted := by
    intro id capability other found bound
    obtain ⟨old, had, same, _⟩ := fault_origin found
    exact lawful.minted id old other had (same ▸ bound)

private theorem modifyState_origin {target : CallbackId} {update : BindingState → BindingState}
    (found : (bindings.modifyState target update).states.lookup id = some binding) :
    ∃ old, bindings.states.lookup id = some old ∧
      (id = target ∧ binding = update old ∨ id ≠ target ∧ binding = old) := by
  change (bindings.states.modify target update).lookup id = _ at found
  rw [Table.lookup_modify] at found
  by_cases same : id = target
  · rw [if_pos same] at found
    obtain ⟨old, had, rfl⟩ := Option.map_eq_some_iff.mp found
    exact ⟨old, same ▸ had, .inl ⟨same, rfl⟩⟩
  · rw [if_neg same] at found
    exact ⟨binding, found, .inr ⟨same, rfl⟩⟩

theorem modifyState_held (bindings : Bindings) (target id : CallbackId)
    (update : BindingState → BindingState) :
    ((bindings.modifyState target update).states.lookup id).isSome =
      (bindings.states.lookup id).isSome := by
  change ((bindings.states.modify target update).lookup id).isSome = _
  rw [Table.lookup_modify]
  by_cases same : id = target
  · rw [if_pos same, same, Option.isSome_map]
  · rw [if_neg same]

private theorem modifyState_ties (bindings : Bindings) (target : CallbackId)
    (update : BindingState → BindingState)
    (parent : ∀ held, (update held).parent = held.parent)
    (children : ∀ held, (update held).children = held.children) :
    (bindings.modifyState target update).ties = bindings.ties := by
  funext id
  change ((bindings.states.modify target update).lookup id).map _ = _
  rw [Table.lookup_modify, ties]
  by_cases same : id = target
  · rw [if_pos same, same, Option.map_map]
    congr 1
    funext held
    rw [Function.comp_apply, parent, children]
  · rw [if_neg same]

private theorem parent_of_ties {left right : Bindings} (same : left.ties = right.ties)
    {parent child : CallbackId} (direct : left.Parent parent child) :
    right.Parent parent child := by
  rw [parent_iff, ← same, ← parent_iff]
  exact direct

private theorem Lawful.noted (lawful : bindings.Lawful) {target : CallbackId}
    {update : BindingState → BindingState} (parent : ∀ held, (update held).parent = held.parent)
    (children : ∀ held, (update held).children = held.children)
    (entered : ∀ held, (update held).entered = held.entered) :
    (bindings.modifyState target update).Lawful where
  family := by
    rw [modifyState_ties bindings target update parent children]
    exact lawful.family
  consistent := lawful.consistent
  held := by
    intro id
    rw [modifyState_held]
    exact lawful.held id
  inactive := lawful.inactive
  inherits := by
    intro above below direct
    exact lawful.inherits above below
      (parent_of_ties (modifyState_ties bindings target update parent children) direct)
  entered := by
    intro id capability binding found entering
    obtain ⟨here, state⟩ := find_iff.mp found
    obtain ⟨old, had, way⟩ := modifyState_origin state
    refine lawful.entered id capability old (find_iff.mpr ⟨here, had⟩) ?_
    rcases way with ⟨_, same⟩ | ⟨_, same⟩
    · rw [same, entered] at entering
      exact entering
    · exact same ▸ entering
  generations := by
    intro above below direct id binding which found
    obtain ⟨old, had, way⟩ := modifyState_origin found
    have before := lawful.generations above below
      (parent_of_ties (modifyState_ties bindings target update parent children) direct) id old which had
    rcases way with ⟨_, same⟩ | ⟨_, same⟩
    · rw [same, entered]
      exact before
    · exact same ▸ before
  minted := lawful.minted

theorem Lawful.next_absent (lawful : bindings.Lawful) :
    bindings.states.lookup bindings.next = none ∧
      bindings.router.callbacks.lookup bindings.next = none := by
  have absent : bindings.states.lookup bindings.next = none :=
    Option.map_eq_none_iff.mp lawful.family.absent
  refine ⟨absent, ?_⟩
  have held := lawful.held bindings.next
  rw [absent, Option.isSome_none, Option.isSome_eq_false_iff,
    Option.isNone_iff_eq_none] at held
  exact held

private structure Grown (bindings : Bindings) (capability : CallbackState)
    (binding : BindingState) (after : Bindings) : Prop where
  family : Family after.ties after.next
  consistent : after.router.Consistent
  nextId : after.router.nextId = bindings.router.nextId
  callbacks : after.router.callbacks =
    bindings.router.callbacks.insert bindings.next capability
  others : ∀ id, id ≠ bindings.next →
    (after.states.lookup id).map (fun state => (state.parent, state.entered)) =
      (bindings.states.lookup id).map (fun state => (state.parent, state.entered))
  state : after.states.lookup bindings.next = some binding
  registered : ∀ id ∈ bindings.router.hostCallbacks, id ∈ after.router.hostCallbacks
  inactive : capability.revoked = true → capability.active = false
  born : ∀ parent, binding.parent = some parent →
    ∃ above upper, bindings.find parent = some (above, upper) ∧ upper.entered = true ∧
      binding.entered = true ∧ capability.module = above.module ∧ ¬ above.Blocked
  enters : binding.entered = true →
    capability.module.isSome = true ∧ bindings.next ∈ after.router.hostCallbacks
  minted : ∀ module, capability.module = some module →
    ∃ number, module = BusName.unique number ∧ number ≤ bindings.router.nextId

private theorem Grown.lookup (grown : Grown bindings capability binding after)
    (id : CallbackId) : after.router.callbacks.lookup id =
      if id = bindings.next then some capability
      else bindings.router.callbacks.lookup id := by
  rw [grown.callbacks, Table.lookup_insert_eq]

private theorem Grown.older {state : BindingState} (grown : Grown bindings capability binding after)
    (old : id ≠ bindings.next) (found : after.states.lookup id = some state) :
    ∃ before, bindings.states.lookup id = some before ∧ before.parent = state.parent ∧
      before.entered = state.entered := by
  have same := grown.others id old
  rw [found, Option.map_some, eq_comm] at same
  obtain ⟨before, had, equal⟩ := Option.map_eq_some_iff.mp same
  rw [Prod.mk.injEq] at equal
  exact ⟨before, had, equal.1, equal.2⟩

private theorem Grown.direct (grown : Grown bindings capability binding after)
    (lawful : bindings.Lawful) {parent child : CallbackId}
    (direct : after.Parent parent child) : parent ≠ bindings.next ∧
      (child = bindings.next ∧ binding.parent = some parent ∨
        child ≠ bindings.next ∧ bindings.Parent parent child) := by
  obtain ⟨state, found, own⟩ := direct
  have parentOld {other : CallbackId} {tie : Ties} (found : bindings.ties other = some tie) :
      other ≠ bindings.next := Nat.ne_of_lt (lawful.family.fresh other tie found)
  by_cases new : child = bindings.next
  · rw [new, grown.state] at found
    cases found
    obtain ⟨above, upper, both, _⟩ := grown.born parent own
    have ties : bindings.ties parent = some (upper.parent, upper.children) := by
      rw [ties, (find_iff.mp both).2]
      rfl
    exact ⟨parentOld ties, .inl ⟨new, own⟩⟩
  · obtain ⟨before, had, same, _⟩ := grown.older new found
    have direct : bindings.Parent parent child := ⟨before, had, same.trans own⟩
    obtain ⟨children, ties⟩ := parent_iff.mp direct
    obtain ⟨above, siblings, upper, _⟩ := lawful.family.listed child parent children ties
    exact ⟨parentOld upper, .inr ⟨new, direct⟩⟩

private theorem Grown.lawful (grown : Grown bindings capability binding after)
    (lawful : bindings.Lawful) : after.Lawful where
  family := grown.family
  consistent := grown.consistent
  held := by
    intro id
    rw [grown.lookup]
    by_cases new : id = bindings.next
    · rw [if_pos new, new, grown.state]
      rfl
    · have same := congrArg Option.isSome (grown.others id new)
      rw [Option.isSome_map, Option.isSome_map] at same
      rw [if_neg new, same]
      exact lawful.held id
  inactive := by
    intro id found lookup revoked
    rw [grown.lookup] at lookup
    by_cases new : id = bindings.next
    · rw [if_pos new] at lookup
      cases lookup
      exact grown.inactive revoked
    · rw [if_neg new] at lookup
      exact lawful.inactive id found lookup revoked
  inherits := by
    intro parent child direct above below foundAbove foundBelow
    obtain ⟨old, way⟩ := grown.direct lawful direct
    rw [grown.lookup, if_neg old] at foundAbove
    rw [grown.lookup] at foundBelow
    rcases way with ⟨new, own⟩ | ⟨older, before⟩
    · rw [if_pos new] at foundBelow
      cases foundBelow
      obtain ⟨parentState, upper, both, _, _, module, live⟩ := grown.born parent own
      have same := (find_iff.mp both).1
      rw [foundAbove] at same
      cases same
      exact ⟨module, fun gone => absurd gone live⟩
    · rw [if_neg older] at foundBelow
      exact lawful.inherits parent child before above below foundAbove foundBelow
  entered := by
    intro id found state both entering
    obtain ⟨here, held⟩ := find_iff.mp both
    rw [grown.lookup] at here
    by_cases new : id = bindings.next
    · rw [if_pos new] at here
      cases here
      rw [new, grown.state] at held
      cases held
      have enters := grown.enters entering
      exact ⟨enters.1, fun _ => new ▸ enters.2⟩
    · rw [if_neg new] at here
      obtain ⟨before, had, _, same⟩ := grown.older new held
      obtain ⟨bound, registered⟩ := lawful.entered id found before
        (find_iff.mpr ⟨here, had⟩) (same.trans entering)
      exact ⟨bound, fun unrevoked => grown.registered id (registered unrevoked)⟩
  generations := by
    intro parent child direct id state which found
    obtain ⟨old, way⟩ := grown.direct lawful direct
    by_cases new : id = bindings.next
    · rw [new, grown.state] at found
      cases found
      rcases way with ⟨_, own⟩ | ⟨older, _⟩
      · obtain ⟨_, _, _, _, entered, _⟩ := grown.born parent own
        exact entered
      · rcases which with atParent | atChild
        · exact absurd (atParent.symm.trans new) old
        · exact absurd (atChild.symm.trans new) older
    · obtain ⟨before, had, _, same⟩ := grown.older new found
      rw [← same]
      rcases way with ⟨fresh, own⟩ | ⟨_, earlier⟩
      · rcases which with atParent | atChild
        · obtain ⟨_, upper, both, entered, _⟩ := grown.born parent own
          rw [atParent, (find_iff.mp both).2] at had
          cases had
          exact entered
        · exact absurd (atChild.trans fresh) new
      · exact lawful.generations parent child earlier id before which had
  minted := by
    intro id found module lookup bound
    rw [grown.nextId]
    rw [grown.lookup] at lookup
    by_cases new : id = bindings.next
    · rw [if_pos new] at lookup
      cases lookup
      exact grown.minted module bound
    · rw [if_neg new] at lookup
      exact lawful.minted id found module lookup bound

private theorem Lawful.prepared (lawful : bindings.Lawful) (unbound : capability.module = none)
    (inactive : capability.active = false) (streamEndpoints : List HostStreamCallbackEndpoint) :
    Lawful
      { router := { bindings.router with
          callbacks := bindings.router.callbacks.insert bindings.next capability }
        states := bindings.states.insert bindings.next
          ⟨streamEndpoints, none, [], false, [], 0, false⟩
        next := bindings.next + 1 } := by
  have grown : Grown bindings capability ⟨streamEndpoints, none, [], false, [], 0, false⟩
      { router := { bindings.router with
          callbacks := bindings.router.callbacks.insert bindings.next capability }
        states := bindings.states.insert bindings.next
          ⟨streamEndpoints, none, [], false, [], 0, false⟩
        next := bindings.next + 1 } :=
    { family := by
        refine lawful.family.prepared.congr ?_
        intro id
        change _ = ((bindings.states.insert _ _).lookup id).map _
        rw [Table.lookup_insert_eq]
        split <;> rfl
      consistent := lawful.consistent.kept rfl rfl (fun _ => rfl)
      nextId := rfl
      callbacks := rfl
      others := by
        intro id old
        change ((bindings.states.insert _ _).lookup id).map _ = _
        rw [Table.lookup_insert_eq, if_neg old]
      state := AList.lookup_insert _
      registered := fun _ member => member
      inactive := fun _ => inactive
      born := by
        intro parent own
        cases own
      enters := by
        intro entered
        cases entered
      minted := by
        intro module bound
        rw [unbound] at bound
        cases bound }
  exact grown.lawful lawful

private theorem Lawful.created (lawful : bindings.Lawful) {context : CallContext}
    (endpoints : List HostCallbackEndpoint) (destination : BusName)
    (found : bindings.find id = some (capability, binding))
    (authorized : capability.authorizes context = true) (entered : binding.entered = true) :
    Lawful
      { router := { bindings.router with
          callbacks := bindings.router.callbacks.insert bindings.next
            ⟨destination, endpoints, [], true, true, false, capability.module⟩
          hostCallbacks := bindings.router.hostCallbacks ++ [bindings.next] }
        states := (bindings.states.modify id (fun held =>
            { held with children := held.children ++ [bindings.next] })).insert
          bindings.next ⟨[], some id, [], false, [], 0, true⟩
        next := bindings.next + 1 } := by
  obtain ⟨here, state⟩ := find_iff.mp found
  obtain ⟨active, live, _, module, bound, _⟩ := authorizes_iff.mp authorized
  have ties : bindings.ties id = some (binding.parent, binding.children) := by
    rw [ties, state]
    rfl
  have unblocked : ¬ capability.Blocked := by
    rintro (revoked | dead)
    · rw [lawful.inactive id capability here revoked] at active
      cases active
    · rw [live] at dead
      cases dead
  have grown : Grown bindings ⟨destination, endpoints, [], true, true, false, capability.module⟩
      ⟨[], some id, [], false, [], 0, true⟩
      { router := { bindings.router with
          callbacks := bindings.router.callbacks.insert bindings.next
            ⟨destination, endpoints, [], true, true, false, capability.module⟩
          hostCallbacks := bindings.router.hostCallbacks ++ [bindings.next] }
        states := (bindings.states.modify id (fun held =>
            { held with children := held.children ++ [bindings.next] })).insert
          bindings.next ⟨[], some id, [], false, [], 0, true⟩
        next := bindings.next + 1 } :=
    { family := by
        refine (lawful.family.created ties).congr ?_
        intro other
        change _ = (((bindings.states.modify _ _).insert _ _).lookup other).map _
        rw [Table.lookup_insert_eq, Table.lookup_modify]
        by_cases new : other = bindings.next
        · rw [if_pos new, if_pos new]
          rfl
        · rw [if_neg new, if_neg new]
          by_cases parent : other = id
          · rw [if_pos parent, if_pos parent, state]
            rfl
          · rw [if_neg parent, if_neg parent]
            rfl
      consistent := lawful.consistent.kept rfl rfl (fun _ => rfl)
      nextId := rfl
      callbacks := rfl
      others := by
        intro other old
        change (((bindings.states.modify _ _).insert _ _).lookup other).map _ = _
        rw [Table.lookup_insert_eq, if_neg old, Table.lookup_modify]
        by_cases parent : other = id
        · rw [if_pos parent, parent, Option.map_map]
          rfl
        · rw [if_neg parent]
      state := AList.lookup_insert _
      registered := fun _ member => List.mem_append_left _ member
      inactive := by
        intro revoked
        cases revoked
      born := by
        intro parent own
        cases own
        exact ⟨capability, binding, found, entered, rfl, rfl, unblocked⟩
      enters := by
        intro _
        refine ⟨?_, List.mem_append_right _ (List.mem_singleton_self _)⟩
        rw [bound]
        rfl
      minted := by
        intro other same
        exact lawful.minted id capability other here same }
  exact grown.lawful lawful

private theorem Lawful.bound (lawful : bindings.Lawful) {number : PeerId} (live : Bool)
    (found : bindings.router.callbacks.lookup id = some capability)
    (unrevoked : capability.revoked = false) (unbound : capability.module = none)
    (minted : number ≤ bindings.router.nextId) :
    Lawful { bindings with
      router := bindings.router.modifyCallback id
        (fun held => held.bindModule (BusName.unique number) live) } := by
  have lookup (other : CallbackId) :
      (bindings.router.callbacks.modify id
        (fun held => held.bindModule (BusName.unique number) live)).lookup other =
        if other = id then
          some { capability with
            moduleLive := live, module := some (BusName.unique number), active := true }
        else bindings.router.callbacks.lookup other := by
    rw [Table.lookup_modify, found, Option.map_some,
      bindModule_of_free unrevoked unbound]
  -- A binding without a module has neither a parent nor a child.
  have alone (parent child : CallbackId) (direct : bindings.Parent parent child) :
      parent ≠ id ∧ child ≠ id := by
    have bound (other : CallbackId) (which : other = parent ∨ other = child) : other ≠ id := by
      intro same
      have held := lawful.held other
      rw [same, found, Option.isSome_some, eq_comm, Option.isSome_iff_exists] at held
      obtain ⟨binding, here⟩ := held
      have entered := lawful.generations parent child direct other binding which (same ▸ here)
      have named := (lawful.entered id capability binding
        (find_iff.mpr ⟨found, here⟩) entered).1
      rw [unbound] at named
      cases named
    exact ⟨bound parent (.inl rfl), bound child (.inr rfl)⟩
  constructor
  · exact lawful.family
  · exact lawful.consistent.kept rfl rfl (fun _ => rfl)
  · intro other
    change ((bindings.router.callbacks.modify id _).lookup other).isSome = _
    rw [lookup]
    split
    · rename_i same
      rw [same, ← lawful.held id, found]
      rfl
    · exact lawful.held other
  · intro other held here revoked
    change (bindings.router.callbacks.modify id _).lookup other = _ at here
    rw [lookup] at here
    split at here
    · cases here
      change capability.revoked = true at revoked
      rw [unrevoked] at revoked
      cases revoked
    · exact lawful.inactive other held here revoked
  · intro parent child direct above below foundAbove foundBelow
    have apart := alone parent child direct
    change (bindings.router.callbacks.modify id _).lookup parent = _ at foundAbove
    change (bindings.router.callbacks.modify id _).lookup child = _ at foundBelow
    rw [lookup, if_neg apart.1] at foundAbove
    rw [lookup, if_neg apart.2] at foundBelow
    exact lawful.inherits parent child direct above below foundAbove foundBelow
  · intro other held binding both entered
    obtain ⟨here, state⟩ := find_iff.mp both
    change (bindings.router.callbacks.modify id _).lookup other = _ at here
    rw [lookup] at here
    split at here
    · rename_i same
      have named := (lawful.entered id capability binding
        (find_iff.mpr ⟨found, same ▸ state⟩) entered).1
      rw [unbound] at named
      cases named
    · exact lawful.entered other held binding (find_iff.mpr ⟨here, state⟩) entered
  · exact lawful.generations
  · intro other held module here bound
    change (bindings.router.callbacks.modify id _).lookup other = _ at here
    rw [lookup] at here
    split at here
    · cases here
      cases bound
      exact ⟨number, rfl, minted⟩
    · exact lawful.minted other held module here bound

private theorem Lawful.registered (lawful : bindings.Lawful) {source : BusName}
    (found : bindings.router.callbacks.lookup id = some capability)
    (bound : capability.module = some source) :
    Lawful ({ bindings with router := { bindings.router with
        hostCallbacks := bindings.router.hostCallbacks ++ [id] } }.modifyState id
      (fun held => { held with entered := true })) := by
  have ties := modifyState_ties { bindings with router := { bindings.router with
      hostCallbacks := bindings.router.hostCallbacks ++ [id] } } id
    (fun held => { held with entered := true }) (fun _ => rfl) (fun _ => rfl)
  constructor
  · rw [ties]
    exact lawful.family
  · exact lawful.consistent.kept rfl rfl (fun _ => rfl)
  · intro other
    rw [modifyState_held]
    exact lawful.held other
  · exact lawful.inactive
  · intro parent child direct
    exact lawful.inherits parent child (parent_of_ties ties direct)
  · intro other held binding both entered
    obtain ⟨here, state⟩ := find_iff.mp both
    obtain ⟨old, had, way⟩ := modifyState_origin state
    rcases way with ⟨same, _⟩ | ⟨_, same⟩
    · refine ⟨?_, fun _ => same ▸ List.mem_append_right _ (List.mem_singleton_self _)⟩
      rw [same] at here
      change bindings.router.callbacks.lookup id = _ at here
      rw [found] at here
      cases here
      rw [bound]
      rfl
    · obtain ⟨named, registered⟩ :=
        lawful.entered other held old (find_iff.mpr ⟨here, had⟩) (same ▸ entered)
      exact ⟨named, fun unrevoked => List.mem_append_left _ (registered unrevoked)⟩
  · intro parent child direct other binding which state
    obtain ⟨old, had, way⟩ := modifyState_origin state
    rcases way with ⟨_, same⟩ | ⟨_, same⟩
    · rw [same]
    · rw [same]
      exact lawful.generations parent child (parent_of_ties ties direct) other old which had
  · exact lawful.minted

theorem Moves.lawful (moves : Moves bindings after) (lawful : bindings.Lawful) : after.Lawful := by
  cases moves with
  | same => exact lawful
  | revoked revoking closed => exact lawful.revoked revoking closed
  | faulted module => exact lawful.faulted module
  | noted parent children entered => exact lawful.noted parent children entered
  | prepared unbound inactive => exact lawful.prepared unbound inactive _
  | bound live found unrevoked unbound minted =>
      exact lawful.bound live found unrevoked unbound minted
  | registered found bound _ => exact lawful.registered found bound
  | created endpoints destination found authorized entered =>
      exact lawful.created endpoints destination found authorized entered

private theorem lawful_empty : empty.Lawful where
  family := by
    constructor
    · intro id tie found
      cases found
    · intro id parent children found
      cases found
    · intro id parent children found
      cases found
    · intro parent above children found
      cases found
    · intro parent above children found
      cases found
  consistent := Router.consistent_empty
  held := fun _ => rfl
  inactive := by
    intro id capability found
    cases found
  inherits := by
    intro parent child direct
    obtain ⟨binding, found, _⟩ := direct
    cases found
  entered := by
    intro id capability binding found
    cases found
  generations := by
    intro parent child direct
    obtain ⟨binding, found, _⟩ := direct
    cases found
  minted := by
    intro id capability module found
    cases found

theorem step_moves {before : Bindings} {event : BindingEvent} (lawful : before.Lawful)
    (stepped : system.step before event after) : Moves before after := by
  obtain ⟨possible, rfl⟩ := stepped
  exact after_moves lawful possible

theorem reachable_lawful (reached : system.Reachable bindings) :
    bindings.Lawful := by
  refine reached.invariant ?_ ?_
  · rintro _ rfl
    exact lawful_empty
  · intro before event after stepped lawful
    exact (step_moves lawful stepped).lawful lawful

end Bindings

end TinyBus
