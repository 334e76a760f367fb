import TinyBus.CallbackDrains

/-
What a step leaves of the tree of bindings: parents stay, new bindings are
leaves, and authority that is gone for good stays gone.
-/

namespace TinyBus

namespace Bindings

variable {bindings : Bindings} {node : CallbackId}

theorem Barred.blocked {id : CallbackId} (barred : bindings.Barred id) {capability : CallbackState}
    (found : bindings.router.callbacks.lookup id = some capability) : capability.Blocked := by
  obtain ⟨same, there, way⟩ := barred
  obtain rfl : same = capability := Option.some.inj (there.symm.trans found)
  exact way.imp (fun revoked => revoked) And.left

theorem Revoked.barred {id : CallbackId} (revoked : bindings.Revoked id) :
    bindings.Barred id := by
  obtain ⟨capability, found, gone⟩ := revoked
  exact ⟨capability, found, .inl gone⟩

theorem Moves.barred {after : Bindings} (moves : Moves bindings after) (lawful : bindings.Lawful)
    {id : CallbackId} (barred : bindings.Barred id) :
    after.Barred id := by
  obtain ⟨capability, found, way⟩ := barred
  have old : id ≠ bindings.next := by
    rintro rfl
    rw [lawful.next_absent.2] at found
    cases found
  cases moves with
  | same => exact ⟨capability, found, way⟩
  | @revoked ids router revoking closed =>
      have lookup := revoking.lookup id
      rw [found] at lookup
      split at lookup
      · exact ⟨capability.revoke, lookup, .inl rfl⟩
      · exact ⟨capability, lookup, way⟩
  | faulted module =>
      have lookup : (bindings.fault module).router.callbacks.lookup id =
          some (if capability.module = some module then { capability with moduleLive := false }
            else capability) := by
        change (bindings.router.callbacks.mapValues _).lookup id = _
        rw [Table.lookup_mapValues, found]
        rfl
      refine ⟨_, lookup, ?_⟩
      split
      · exact way.imp (fun gone => gone) (fun dead => ⟨rfl, dead.2⟩)
      · exact way
  | noted parent children entered => exact ⟨capability, found, way⟩
  | prepared unbound inactive =>
      exact ⟨capability, (Table.lookup_insert_eq _ _ _ _).trans ((if_neg old).trans found), way⟩
  | @bound target other number live there unrevoked unbound minted =>
      have apart : id ≠ target := by
        rintro rfl
        obtain rfl : other = capability := Option.some.inj (there.symm.trans found)
        rcases way with gone | ⟨_, named⟩
        · rw [unrevoked] at gone
          cases gone
        · rw [unbound] at named
          cases named
      exact ⟨capability, (Table.lookup_modify _ _ _ _).trans ((if_neg apart).trans found), way⟩
  | registered there bound admitted => exact ⟨capability, found, way⟩
  | created endpoints destination there authorized entered =>
      exact ⟨capability, (Table.lookup_insert_eq _ _ _ _).trans ((if_neg old).trans found), way⟩

theorem Lawful.blocked_below (lawful : bindings.Lawful) {root : CallbackId}
    (barred : bindings.Barred root) (below : node = root ∨ bindings.Ancestor root node)
    {capability : CallbackState}
    (found : bindings.router.callbacks.lookup node = some capability) : capability.Blocked := by
  rcases below with rfl | below
  · exact barred.blocked found
  · have ⟨above, there, _⟩ := barred
    obtain ⟨held, _, both, _, _, blocks⟩ := lawful.blocks_descendants below above there
    obtain rfl : held = capability :=
      Option.some.inj ((find_iff.mp both).1.symm.trans found)
    exact blocks (barred.blocked there)

theorem Lawful.blocked_silent (lawful : bindings.Lawful)
    (blocked : ∀ capability, bindings.router.callbacks.lookup node = some capability →
      capability.Blocked) (key : ObjectPath × InterfaceName) (member : MemberName)
    (context : CallContext) :
    bindings.starts node key member context = false := by
  rw [← Bool.not_eq_true]
  intro started
  obtain ⟨capability, _, _, found, active, live, _⟩ := starts_some started
  rcases blocked capability (find_iff.mp found).1 with revoked | dead
  · rw [lawful.inactive node capability (find_iff.mp found).1 revoked] at active
    cases active
  · rw [live] at dead
    cases dead

/-- The bindings that are there keep their parent and their count, but for what `count` does
to it; a new binding has the parent `born` and no call. -/
structure Outgrows (born : Option CallbackId) (count : CallbackId → Nat → Nat)
    (before after : Bindings) : Prop where
  kept : ∀ id binding, before.states.lookup id = some binding →
    ∃ later, after.states.lookup id = some later ∧ later.parent = binding.parent ∧
      later.running = count id binding.running
  fresh : ∀ id later, before.states.lookup id = none → after.states.lookup id = some later →
    id = before.next ∧ later.parent = born ∧ later.running = 0

theorem Outgrows.same {born : Option CallbackId} {before after : Bindings} (states : after.states = before.states) :
    Outgrows born (fun _ running => running) before after := by
  refine ⟨?_, ?_⟩
  · intro id binding found
    exact ⟨binding, states ▸ found, rfl, rfl⟩
  · intro id later absent found
    rw [states, absent] at found
    cases found

theorem Outgrows.modified {born : Option CallbackId} (bindings : Bindings) (target : CallbackId)
    (update : BindingState → BindingState) (count : Nat → Nat)
    (parent : ∀ held, (update held).parent = held.parent)
    (running : ∀ held, (update held).running = count held.running) :
    Outgrows born (fun id => if id = target then count else fun running => running) bindings
      (bindings.modifyState target update) := by
  have lookup (id : CallbackId) : (bindings.modifyState target update).states.lookup id =
      if id = target then (bindings.states.lookup target).map update
      else bindings.states.lookup id := Table.lookup_modify _ _ _ _
  refine ⟨?_, ?_⟩
  · intro id binding found
    by_cases same : id = target
    · subst same
      refine ⟨update binding, ?_, parent binding, ?_⟩
      · rw [lookup, if_pos rfl, found]
        rfl
      · rw [if_pos rfl]
        exact running binding
    · refine ⟨binding, ?_, rfl, ?_⟩
      · rw [lookup, if_neg same]
        exact found
      · rw [if_neg same]
  · intro id later absent found
    rw [lookup] at found
    split at found
    · rename_i same
      rw [← same, absent] at found
      cases found
    · rw [absent] at found
      cases found

theorem Outgrows.noted {born : Option CallbackId} (bindings : Bindings) (target : CallbackId)
    (update : BindingState → BindingState)
    (parent : ∀ held, (update held).parent = held.parent)
    (running : ∀ held, (update held).running = held.running) :
    Outgrows born (fun _ running => running) bindings (bindings.modifyState target update) := by
  have grown : Outgrows born _ bindings _ :=
    .modified bindings target update (fun running => running) parent running
  simpa only [ite_self] using grown

theorem Outgrows.inserted {after : Bindings} (binding : BindingState)
    (absent : bindings.states.lookup bindings.next = none) (idle : binding.running = 0)
    (states : after.states = bindings.states.insert bindings.next binding) :
    Outgrows binding.parent (fun _ running => running) bindings after := by
  refine ⟨?_, ?_⟩
  · intro id held found
    refine ⟨held, ?_, rfl, rfl⟩
    rw [states, Table.lookup_insert_eq, if_neg]
    · exact found
    · rintro rfl
      rw [absent] at found
      cases found
  · intro id later none found
    rw [states, Table.lookup_insert_eq] at found
    split at found
    · rename_i same
      obtain rfl := Option.some.inj found
      exact ⟨same, rfl, idle⟩
    · rw [none] at found
      cases found

theorem Outgrows.trans {born : Option CallbackId} {first middle last : Bindings}
    (early : Outgrows born (fun _ running => running) first middle)
    (late : Outgrows born (fun _ running => running) middle last) (same : middle.next = first.next) :
    Outgrows born (fun _ running => running) first last := by
  refine ⟨?_, ?_⟩
  · intro id binding found
    obtain ⟨between, there, parent, running⟩ := early.kept id binding found
    obtain ⟨later, here, parent', running'⟩ := late.kept id between there
    exact ⟨later, here, parent'.trans parent, running'.trans running⟩
  · intro id later absent found
    cases there : middle.states.lookup id with
    | none =>
        obtain ⟨new, parent, idle⟩ := late.fresh id later there found
        exact ⟨new.trans same, parent, idle⟩
    | some between =>
        obtain ⟨new, own, idle⟩ := early.fresh id between absent there
        obtain ⟨held, here, parent, running⟩ := late.kept id between there
        obtain rfl : held = later := Option.some.inj (here.symm.trans found)
        exact ⟨new, parent.trans own, running.trans idle⟩

theorem createChild_outgrows (lawful : bindings.Lawful) (id : CallbackId) (context : CallContext)
    (endpoints : List HostCallbackEndpoint) (destination : BusName) :
    Outgrows (some id) (fun _ running => running) bindings
      (bindings.createChildBinding id context endpoints destination).2 := by
  rcases bindings.createChild_cases id context endpoints destination with
    ⟨error, failed⟩ | ⟨_, _, _, created⟩
  · rw [failed]
    exact .same rfl
  · rw [created]
    have noted : Outgrows (some id) _ bindings _ := .noted bindings id
      (fun held => { held with children := held.children ++ [bindings.next] })
      (fun _ => rfl) (fun _ => rfl)
    refine noted.trans (.inserted ⟨[], some id, [], false, [], 0, true⟩ ?_ rfl rfl) rfl
    rw [← Option.isNone_iff_eq_none, ← Option.isSome_eq_false_iff, modifyState_held]
    exact Option.isSome_eq_false_iff.mpr (Option.isNone_iff_eq_none.mpr lawful.next_absent.1)

theorem after_outgrows (lawful : bindings.Lawful) {event : BindingEvent}
    (plain : Drainage.Plain event) :
    Outgrows none (fun _ running => running) bindings (bindings.after event) := by
  cases event with
  | route op => exact .same rfl
  | prepare destination endpoints signals streamEndpoints =>
      change Outgrows none _ bindings
        (bindings.prepareHostCallbacks destination endpoints signals streamEndpoints).2
      unfold prepareHostCallbacks
      split
      · exact .same rfl
      · split
        · exact .same rfl
        · exact .inserted ⟨streamEndpoints, none, [], false, [], 0, false⟩ lawful.next_absent.1 rfl rfl
  | serve id key provided =>
      change Outgrows none _ bindings (bindings.serveAt id key provided).2
      unfold serveAt
      split
      · exact .same rfl
      · dsimp only
        split
        · exact .same rfl
        · split
          · exact .same rfl
          · split
            · exact .same rfl
            · exact .noted _ _ _ (fun _ => rfl) (fun _ => rfl)
  | consume id =>
      change Outgrows none _ bindings (bindings.consume id).2
      rcases bindings.consume_cases id with ⟨error, failed⟩ | ⟨_, _, _, _, consumed⟩
      · rw [failed]
        exact .same rfl
      · rw [consumed]
        exact .noted _ _ _ (fun _ => rfl) (fun _ => rfl)
  | bind id module live =>
      change Outgrows none _ bindings (bindings.bind id module live).2
      rcases bindings.bind_cases id module live with ⟨error, failed⟩ | ⟨_, _, _, _, taken⟩
      · rw [failed]
        exact .same rfl
      · rw [taken]
        exact .same rfl
  | register id =>
      change Outgrows none _ bindings (bindings.register id).2
      unfold register
      split
      · exact .same rfl
      · rename_i router _
        have noted : Outgrows none _ _ _ := .noted { bindings with router := router } id
          (fun held => { held with entered := true }) (fun _ => rfl) (fun _ => rfl)
        exact ⟨noted.kept, noted.fresh⟩
  | revoke id => exact .same rfl
  | fault module => exact .same rfl
  | createChild => exact plain.elim
  | drained => exact plain.elim
  | call => exact plain.elim
  | returned => exact plain.elim

variable {born : Option CallbackId} {count : CallbackId → Nat → Nat} {before after : Bindings}

theorem Outgrows.parent_iff (grown : Outgrows born count before after) {parent child : CallbackId}
    {binding : BindingState} (present : before.states.lookup child = some binding) :
    after.Parent parent child ↔ before.Parent parent child := by
  obtain ⟨later, found, same, _⟩ := grown.kept child binding present
  constructor
  · rintro ⟨held, there, own⟩
    obtain rfl : later = held := Option.some.inj (found.symm.trans there)
    exact ⟨binding, present, same.symm.trans own⟩
  · rintro ⟨held, there, own⟩
    obtain rfl : binding = held := Option.some.inj (present.symm.trans there)
    exact ⟨later, found, same.trans own⟩

theorem Lawful.parent_present (lawful : before.Lawful) {parent child : CallbackId}
    (direct : before.Parent parent child) :
    ∃ binding, before.states.lookup parent = some binding := by
  obtain ⟨children, found⟩ := Bindings.parent_iff.mp direct
  obtain ⟨above, siblings, ties, _⟩ := lawful.family.listed child parent children found
  obtain ⟨binding, there, _⟩ := Option.map_eq_some_iff.mp ties
  exact ⟨binding, there⟩

theorem Outgrows.ancestor (grown : Outgrows born count before after) {ancestor : CallbackId}
    (below : before.Ancestor ancestor node) : after.Ancestor ancestor node := by
  refine Relation.TransGen.mono ?_ _ _ below
  intro parent child direct
  have ⟨held, there, _⟩ := direct
  exact (grown.parent_iff there).mpr direct

theorem Outgrows.ancestor_iff (grown : Outgrows born count before after) (lawful : before.Lawful)
    {ancestor : CallbackId} {binding : BindingState}
    (present : before.states.lookup node = some binding) :
    after.Ancestor ancestor node ↔ before.Ancestor ancestor node := by
  constructor
  · intro below
    induction below generalizing binding with
    | single direct => exact .single ((grown.parent_iff present).mp direct)
    | tail _ direct ih =>
        have direct := (grown.parent_iff present).mp direct
        obtain ⟨held, there⟩ := lawful.parent_present direct
        exact .tail (ih there) direct
  · exact grown.ancestor

end Bindings

end TinyBus
