import TinyBus.CallbackGrowth

/-
The count of a binding is the number of its calls in progress, a state with a
call in progress is owned up to the root of its tree, and a physical worker
locks only bindings whose authority is gone.
-/

namespace TinyBus

open TransitionSystem

namespace Drainage

def calling (id : CallbackId) (call : OngoingCall) : Nat :=
  if call.binding = id then 1 else 0

/-- Somebody's call to the binding is between its count and the end of it. -/
def Busy (drainage : Drainage) (id : CallbackId) : Prop :=
  ∃ number call, drainage.calls.lookup number = some call ∧ call.binding = id

def nodes : DrainStage → List CallbackId
  | .locking node rest | .waiting node rest | .descending node rest => node :: rest
  | _ => []

def Within (bindings : Bindings) (root node : CallbackId) : Prop :=
  node = root ∨ bindings.Ancestor root node

structure Sound (drainage : Drainage) : Prop where
  lawful : drainage.bindings.Lawful
  counted : ∀ id, drainage.calls.total (calling id) = drainage.running id
  numbered : ∀ number call, drainage.calls.lookup number = some call →
    number < drainage.nextCall
  placed : ∀ id, drainage.Busy id →
    (∃ binding, drainage.bindings.states.lookup id = some binding) ∧
      id ∉ drainage.freed ∧ drainage.unlisted ≠ some id
  freed : ∀ parent child, drainage.bindings.Parent parent child → parent ∈ drainage.freed →
    child ∈ drainage.freed
  leaf : ∀ id child, drainage.unlisted = some id → ¬ drainage.bindings.Parent id child
  begun : ∀ number drain, drainage.drains.lookup number = some drain →
    number < drainage.nextDrain
  chased : ∀ number drain, drainage.drains.lookup number = some drain →
    ∀ node ∈ nodes drain.stage,
      drainage.bindings.Barred drain.root ∧ Within drainage.bindings drain.root node

theorem empty_sound : Sound empty := by
  have nobody {number : Nat} {call : OngoingCall} (found : empty.calls.lookup number = some call) :
      False := by
    rw [show empty.calls.lookup number = none from Table.lookup_empty number] at found
    cases found
  have childless {parent child : CallbackId} (direct : empty.bindings.Parent parent child) :
      False := by
    obtain ⟨binding, found, _⟩ := direct
    cases found
  have undrained {number : Nat} {drain : Drain} (found : empty.drains.lookup number = some drain) :
      False := by
    rw [show empty.drains.lookup number = none from Table.lookup_empty number] at found
    cases found
  refine ⟨Bindings.reachable_lawful ⟨_, [], rfl, .nil⟩, fun _ => rfl, ?_, ?_, ?_, ?_, ?_, ?_⟩
  · exact fun _ _ found => (nobody found).elim
  · exact fun _ ⟨_, _, found, _⟩ => (nobody found).elim
  · exact fun _ _ direct => (childless direct).elim
  · exact fun _ _ _ direct => childless direct
  · exact fun _ _ found => (undrained found).elim
  · exact fun _ _ found => (undrained found).elim

variable {drainage : Drainage}

variable {id : CallbackId}

theorem Sound.idle (sound : Sound drainage) (idle : drainage.running id = 0) :
    ¬ drainage.Busy id := by
  rintro ⟨number, call, found, rfl⟩
  have counted := sound.counted call.binding
  have weighed := Table.weigh_le_total (calling call.binding) found
  unfold calling at weighed counted
  rw [if_pos rfl] at weighed
  omega

theorem Sound.live_child (sound : Sound drainage) {node : CallbackId} (busy : drainage.Busy id)
    (below : drainage.bindings.Ancestor node id) :
    ∃ child ∈ drainage.liveChildren node, Within drainage.bindings child id := by
  obtain ⟨child, direct, rest⟩ := Relation.TransGen.head'_iff.mp below
  have placed := sound.placed id busy
  have within : Within drainage.bindings child id := by
    rcases Relation.reflTransGen_iff_eq_or_transGen.mp rest with same | further
    · exact .inl same
    · exact .inr further
  -- A freed binding has only freed ones below it, and an unlisted one has none.
  have held : child ∉ drainage.freed := by
    intro freed
    have spread : ∀ other, drainage.bindings.Ancestor child other → other ∈ drainage.freed := by
      intro other further
      induction further with
      | single edge => exact sound.freed _ _ edge freed
      | tail _ edge ih => exact sound.freed _ _ edge ih
    rcases within with same | further
    · exact placed.2.1 (same ▸ freed)
    · exact placed.2.1 (spread id further)
  have listed : drainage.unlisted ≠ some child := by
    intro pending
    rcases within with same | further
    · exact placed.2.2 (same ▸ pending)
    · obtain ⟨lower, edge, _⟩ := Relation.TransGen.head'_iff.mp further
      exact sound.leaf child lower pending edge
  refine ⟨child, ?_, within⟩
  unfold liveChildren
  rw [List.mem_filter, Bool.and_eq_true]
  exact ⟨sound.lawful.family.mem_children direct, decide_eq_true listed, decide_eq_true held⟩

theorem Sound.rebind (sound : Sound drainage) {bindings : Bindings}
    {born : Option CallbackId} (unlisted : Option CallbackId)
    (moves : Bindings.Moves drainage.bindings bindings)
    (grown : Bindings.Outgrows born (fun _ running => running) drainage.bindings bindings)
    (pending : ∀ id, unlisted = some id →
      drainage.unlisted = some id ∨ id = drainage.bindings.next)
    (owned : ∀ parent, born = some parent → parent ∉ drainage.freed ∧ unlisted ≠ some parent) :
    Sound { drainage with bindings := bindings, unlisted := unlisted } := by
  have absent := sound.lawful.next_absent.1
  -- A child is as old as its parent, or new.
  have older {parent child : CallbackId} (direct : bindings.Parent parent child) :
      born = some parent ∨ drainage.bindings.Parent parent child := by
    have ⟨later, found, own⟩ := direct
    cases had : drainage.bindings.states.lookup child with
    | none => exact .inl ((grown.fresh child later had found).2.1.symm.trans own)
    | some binding => exact .inr ((grown.parent_iff had).mp direct)
  refine ⟨moves.lawful sound.lawful, ?_, sound.numbered, ?_, ?_, ?_, sound.begun, ?_⟩
  · intro id
    refine (sound.counted id).trans ?_
    unfold running
    cases had : drainage.bindings.states.lookup id with
    | none =>
        cases found : bindings.states.lookup id with
        | none => rfl
        | some later => exact (grown.fresh id later had found).2.2.symm
    | some binding =>
        obtain ⟨later, found, _, same⟩ := grown.kept id binding had
        dsimp only
        rw [found]
        exact same.symm
  · intro id busy
    obtain ⟨⟨binding, had⟩, unfreed, listed⟩ := sound.placed id busy
    obtain ⟨later, found, _⟩ := grown.kept id binding had
    refine ⟨⟨later, found⟩, unfreed, ?_⟩
    intro waits
    rcases pending id waits with same | rfl
    · exact listed same
    · rw [absent] at had
      cases had
  · intro parent child direct freed
    rcases older direct with new | before
    · exact ((owned parent new).1 freed).elim
    · exact sound.freed parent child before freed
  · intro id child waits direct
    rcases older direct with new | before
    · exact (owned id new).2 waits
    · rcases pending id waits with same | rfl
      · exact sound.leaf id child same before
      · obtain ⟨binding, had⟩ := sound.lawful.parent_present before
        rw [absent] at had
        cases had
  · intro number drain found node member
    obtain ⟨barred, within⟩ := sound.chased number drain found node member
    exact ⟨moves.barred sound.lawful barred, within.imp (fun same => same) grown.ancestor⟩

theorem Sound.redrain (sound : Sound drainage) {drains : Table Nat Drain} {next : Nat}
    (begun : ∀ number drain, drains.lookup number = some drain → number < next)
    (chased : ∀ number drain, drains.lookup number = some drain →
      ∀ node ∈ nodes drain.stage,
        drainage.bindings.Barred drain.root ∧ Within drainage.bindings drain.root node) :
    Sound { drainage with drains := drains, nextDrain := next } :=
  ⟨sound.lawful, sound.counted, sound.numbered, sound.placed, sound.freed, sound.leaf, begun,
    chased⟩

theorem Sound.recount (sound : Sound drainage) {target : CallbackId} {binding : BindingState}
    (present : drainage.bindings.states.lookup target = some binding) (count : Nat → Nat)
    (calls : Table Nat OngoingCall) (next : Nat)
    (counted : ∀ id, calls.total (calling id) =
      if id = target then count (drainage.running id) else drainage.running id)
    (numbered : ∀ number call, calls.lookup number = some call → number < next)
    (placed : ∀ number call, calls.lookup number = some call →
      drainage.Busy call.binding ∨ call.binding = target ∧ target ∉ drainage.freed ∧
        drainage.unlisted ≠ some target) :
    Sound { drainage with
      bindings := drainage.bindings.modifyState target (fun held =>
        { held with running := count held.running })
      calls := calls
      nextCall := next } := by
  have grown : Bindings.Outgrows none _ drainage.bindings _ := .modified drainage.bindings target
    (fun held => { held with running := count held.running }) count (fun _ => rfl) (fun _ => rfl)
  have moves : Bindings.Moves drainage.bindings (drainage.bindings.modifyState target (fun held =>
      { held with running := count held.running })) :=
    .noted (fun _ => rfl) (fun _ => rfl) (fun _ => rfl)
  have direct {parent child : CallbackId} (later : (drainage.bindings.modifyState target
      (fun held => { held with running := count held.running })).Parent parent child) :
      drainage.bindings.Parent parent child := by
    have ⟨held, found, _⟩ := later
    cases had : drainage.bindings.states.lookup child with
    | none =>
        have known := drainage.bindings.modifyState_held target child (fun held =>
          { held with running := count held.running })
        rw [found, had] at known
        cases known
    | some old => exact (grown.parent_iff had).mp later
  refine ⟨moves.lawful sound.lawful, ?_, numbered, ?_, ?_, ?_, sound.begun, ?_⟩
  · intro id
    refine (counted id).trans ?_
    unfold running
    change _ = (((drainage.bindings.states.modify target _).lookup id).map _).getD 0
    rw [Table.lookup_modify]
    by_cases same : id = target
    · subst same
      rw [if_pos rfl, if_pos rfl, present]
      rfl
    · rw [if_neg same, if_neg same]
  · rintro id ⟨number, call, found, rfl⟩
    rcases placed number call found with busy | ⟨rfl, owned, listed⟩
    · obtain ⟨⟨old, had⟩, owned, listed⟩ := sound.placed call.binding busy
      obtain ⟨later, there, _⟩ := grown.kept call.binding old had
      exact ⟨⟨later, there⟩, owned, listed⟩
    · obtain ⟨later, there, _⟩ := grown.kept call.binding binding present
      exact ⟨⟨later, there⟩, owned, listed⟩
  · exact fun parent child edge freed => sound.freed parent child (direct edge) freed
  · exact fun id child waits edge => sound.leaf id child waits (direct edge)
  · intro number drain found node member
    obtain ⟨barred, within⟩ := sound.chased number drain found node member
    exact ⟨moves.barred sound.lawful barred, within.imp (fun same => same) grown.ancestor⟩

theorem callWithContext_cases (drainage : Drainage) (id : CallbackId)
    (key : ObjectPath × InterfaceName) (member : MemberName) (context : CallContext) :
    drainage.bindings.starts id key member context = false ∧
      drainage.callWithContext id key member context = drainage ∨
    drainage.bindings.starts id key member context = true ∧
      drainage.callWithContext id key member context =
        { drainage with
          bindings := drainage.bindings.modifyState id (fun held =>
            { held with running := held.running + 1 })
          calls := drainage.calls.insert drainage.nextCall ⟨id, .counted⟩
          nextCall := drainage.nextCall + 1 } := by
  unfold callWithContext Bindings.callWithContext
  cases started : drainage.bindings.starts id key member context with
  | false => exact .inl ⟨rfl, rfl⟩
  | true => exact .inr ⟨rfl, rfl⟩

theorem Sound.called (sound : Sound drainage) {key : ObjectPath × InterfaceName}
    {member : MemberName} {context : CallContext} (owned : id ∉ drainage.freed)
    (listed : drainage.unlisted ≠ some id) :
    Sound (drainage.callWithContext id key member context) := by
  rcases drainage.callWithContext_cases id key member context with
    ⟨_, refused⟩ | ⟨started, counted⟩
  · rw [refused]
    exact sound
  · rw [counted]
    obtain ⟨_, binding, _, found, _⟩ := Bindings.starts_some started
    have absent : drainage.calls.lookup drainage.nextCall = none := by
      cases taken : drainage.calls.lookup drainage.nextCall with
      | none => rfl
      | some call => exact absurd (sound.numbered _ call taken) (Nat.lt_irrefl _)
    refine sound.recount (Bindings.find_iff.mp found).2 (· + 1) _ _ ?_ ?_ ?_
    · intro other
      rw [Table.total_insert_new _ absent, sound.counted other]
      unfold calling
      by_cases same : id = other
      · rw [if_pos same, if_pos same.symm, Nat.add_comm]
      · rw [if_neg same, if_neg (Ne.symm same), Nat.zero_add]
    · intro number call there
      rw [Table.lookup_insert_eq] at there
      split at there
      · rename_i new
        exact new ▸ Nat.lt_succ_self _
      · exact Nat.lt_succ_of_lt (sound.numbered number call there)
    · intro number call there
      rw [Table.lookup_insert_eq] at there
      split at there
      · obtain rfl := Option.some.inj there
        exact .inr ⟨rfl, owned, listed⟩
      · exact .inl ⟨number, call, there, rfl⟩

@[simp] theorem notify_root (drain : Drain) (id : CallbackId) : (drain.notify id).root = drain.root := by
  unfold Drain.notify
  split
  · split <;> rfl
  · split <;> rfl
  · rfl

@[simp] theorem nodes_notify (drain : Drain) (id : CallbackId) :
    nodes (drain.notify id).stage = nodes drain.stage := by
  unfold Drain.notify
  split
  · rename_i stage
    split
    · rw [stage]
      rfl
    · rfl
  · rename_i stage
    split
    · rw [stage]
      rfl
    · rfl
  · rfl

theorem Sound.notified (sound : Sound drainage) (id : CallbackId) :
    Sound { drainage with
      drains := drainage.drains.mapValues (fun _ drain => drain.notify id) } := by
  refine sound.redrain ?_ ?_
  · intro number drain found
    rw [Table.lookup_mapValues] at found
    obtain ⟨old, had, _⟩ := Option.map_eq_some_iff.mp found
    exact sound.begun number old had
  · intro number drain found node member
    rw [Table.lookup_mapValues] at found
    obtain ⟨old, had, rfl⟩ := Option.map_eq_some_iff.mp found
    rw [nodes_notify] at member
    rw [notify_root]
    exact sound.chased number old had node member

theorem dropRunning_cases (drainage : Drainage) (number : Nat) :
    drainage.dropRunning number = drainage ∨
    ∃ call, drainage.calls.lookup number = some call ∧ ∃ drains,
      (drains = drainage.drains ∨
        drains = drainage.drains.mapValues (fun _ drain => drain.notify call.binding)) ∧
      drainage.dropRunning number =
        { drainage with
          bindings := drainage.bindings.after (.returned call.binding)
          calls := drainage.calls.erase number
          drains := drains } := by
  unfold dropRunning
  cases found : drainage.calls.lookup number with
  | none => exact .inl rfl
  | some call =>
      dsimp only
      split
      · exact .inl rfl
      · split
        · exact .inr ⟨call, rfl, _, .inr rfl, rfl⟩
        · exact .inr ⟨call, rfl, _, .inl rfl, rfl⟩

theorem Sound.dropped (sound : Sound drainage) (number : Nat) :
    Sound (drainage.dropRunning number) := by
  rcases drainage.dropRunning_cases number with same | ⟨call, found, drains, way, ended⟩
  · rw [same]
    exact sound
  · have busy : drainage.Busy call.binding := ⟨number, call, found, rfl⟩
    obtain ⟨⟨binding, present⟩, _⟩ := sound.placed call.binding busy
    have left := sound.recount present (· - 1) (drainage.calls.erase number)
      drainage.nextCall ?_ ?_ ?_
    · rw [ended]
      rcases way with rfl | rfl
      · exact left
      · exact left.notified call.binding
    · intro id
      have erased := Table.total_erase (calling id) found
      rw [sound.counted id] at erased
      unfold calling at erased
      by_cases same : call.binding = id
      · rw [if_pos same] at erased
        rw [if_pos same.symm]
        exact Nat.eq_sub_of_add_eq erased
      · rw [if_neg same] at erased
        rw [if_neg (Ne.symm same)]
        exact erased
    · intro other held there
      rw [Table.lookup_erase_eq] at there
      split at there
      · cases there
      · exact sound.numbered other held there
    · intro other held there
      rw [Table.lookup_erase_eq] at there
      split at there
      · cases there
      · exact .inl ⟨other, held, there, rfl⟩

theorem movePhase_cases (drainage : Drainage) (number : Nat) (before after : CallPhase) :
    drainage.movePhase number before after = drainage ∨
    ∃ call, drainage.calls.lookup number = some call ∧
      drainage.movePhase number before after =
        { drainage with calls := drainage.calls.insert number { call with phase := after } } := by
  unfold movePhase
  cases found : drainage.calls.lookup number with
  | none => exact .inl rfl
  | some call =>
      dsimp only
      split
      · exact .inr ⟨call, rfl, rfl⟩
      · exact .inl rfl

theorem origin_of_phase {number other : Nat} {call held : OngoingCall} {phase : CallPhase}
    (found : drainage.calls.lookup number = some call)
    (there : (drainage.calls.insert number { call with phase := phase }).lookup other =
      some held) :
    ∃ old, drainage.calls.lookup other = some old ∧ held.binding = old.binding := by
  rw [Table.lookup_insert_eq] at there
  split at there
  · rename_i same
    obtain rfl := Option.some.inj there
    exact ⟨call, same ▸ found, rfl⟩
  · exact ⟨held, there, rfl⟩

theorem Sound.moved (sound : Sound drainage) (number : Nat) (before after : CallPhase) :
    Sound (drainage.movePhase number before after) := by
  rcases drainage.movePhase_cases number before after with same | ⟨call, found, moved⟩
  · rw [same]
    exact sound
  · rw [moved]
    refine ⟨sound.lawful, ?_, ?_, ?_, sound.freed, sound.leaf, sound.begun, sound.chased⟩
    · intro id
      have total := Table.total_insert (calling id) found { call with phase := after }
      have counted := sound.counted id
      change _ = drainage.running id
      unfold calling at total counted ⊢
      dsimp only at total ⊢
      omega
    · intro other held there
      obtain ⟨old, had, _⟩ := origin_of_phase found there
      exact sound.numbered other old had
    · rintro id ⟨other, held, there, rfl⟩
      obtain ⟨old, had, same⟩ := origin_of_phase found there
      exact sound.placed held.binding ⟨other, old, had, same.symm⟩

theorem Sound.forgotten (sound : Sound drainage)
    (possible : drainage.Possible (.freed id)) : Sound (drainage.after (.freed id)) := by
  obtain ⟨_, _, uncalled, childless⟩ := possible
  refine ⟨sound.lawful, sound.counted, sound.numbered, ?_, ?_, sound.leaf, sound.begun,
    sound.chased⟩
  · intro other busy
    obtain ⟨present, owned, listed⟩ := sound.placed other busy
    refine ⟨present, ?_, listed⟩
    obtain ⟨number, call, found, rfl⟩ := busy
    exact List.not_mem_cons_of_ne_of_not_mem (uncalled number call found) owned
  · intro parent child direct freed
    rcases List.mem_cons.mp freed with rfl | before
    · exact List.mem_cons_of_mem _ (childless child direct)
    · exact List.mem_cons_of_mem _ (sound.freed parent child direct before)

@[simp] theorem nodes_eachOf (targets : List CallbackId) : nodes (.eachOf targets) = [] := by
  cases targets <;> rfl

@[simp] theorem nodes_lockNext (pending : List CallbackId) : nodes (.lockNext pending) = pending := by
  cases pending <;> rfl

theorem nodes_advance {drain : Drain} {node : CallbackId}
    (member : node ∈ nodes (drainage.advance drain).2) :
    node ∈ nodes drain.stage ∨
      ∃ parent ∈ nodes drain.stage, node ∈ drainage.liveChildren parent := by
  obtain ⟨root, kind, stage⟩ := drain
  cases stage with
  | own wait =>
      unfold advance at member
      dsimp only at member
      split at member <;> cases member
  | looking => cases member
  | walking pending found =>
      cases pending with
      | nil =>
          change node ∈ nodes (.eachOf found) at member
          rw [nodes_eachOf] at member
          cases member
      | cons => cases member
  | each target left wait =>
      unfold advance at member
      dsimp only at member
      split at member
      · cases member
      · rw [nodes_eachOf] at member
        cases member
  | locking here rest =>
      refine .inl ?_
      change node ∈ nodes (if drainage.running here = 0 then _ else _) at member
      split at member
      · exact member
      · exact member
  | waiting here rest =>
      refine .inl ?_
      change node ∈ nodes (if drainage.running here = 0 then _ else _) at member
      split at member
      · exact member
      · exact member
  | descending here rest =>
      change node ∈ nodes (.lockNext (drainage.liveChildren here ++ rest)) at member
      rw [nodes_lockNext] at member
      rcases List.mem_append.mp member with child | later
      · exact .inr ⟨here, List.mem_cons_self .., child⟩
      · exact .inl (List.mem_cons_of_mem here later)
  | returned => cases member
  | expired => cases member

theorem Sound.child_within (sound : Sound drainage) {root parent child : CallbackId}
    (within : Within drainage.bindings root parent)
    (live : child ∈ drainage.liveChildren parent) : Within drainage.bindings root child := by
  have direct := sound.lawful.family.parent_of_mem (List.mem_of_mem_filter live)
  rcases within with rfl | below
  · exact .inr (.single direct)
  · exact .inr (.tail below direct)

theorem advance_bindings (drainage : Drainage) (drain : Drain) :
    (drainage.advance drain).1 = drainage.bindings ∨
      ∃ node ∈ nodes drain.stage, (drainage.advance drain).1 = drainage.bindings.waitDrained node := by
  obtain ⟨root, kind, stage⟩ := drain
  cases stage with
  | locking here rest => exact .inr ⟨here, List.mem_cons_self .., rfl⟩
  | own wait =>
      refine .inl ?_
      unfold advance
      dsimp only
      split <;> rfl
  | each target left wait =>
      refine .inl ?_
      unfold advance
      dsimp only
      split <;> rfl
  | walking pending found => cases pending <;> exact .inl rfl
  | _ => exact .inl rfl

theorem advance_outgrows (drainage : Drainage) (drain : Drain) :
    Bindings.Outgrows none (fun _ running => running) drainage.bindings
      (drainage.advance drain).1 := by
  rcases drainage.advance_bindings drain with same | ⟨_, _, locked⟩
  · exact .same (congrArg Bindings.states same)
  · refine .same ?_
    rw [locked]
    rfl

theorem Sound.advance_moves (sound : Sound drainage) {number : Nat} {drain : Drain}
    (found : drainage.drains.lookup number = some drain) :
    Bindings.Moves drainage.bindings (drainage.advance drain).1 := by
  rcases drainage.advance_bindings drain with same | ⟨node, member, locked⟩
  · rw [same]
    exact .same
  · obtain ⟨barred, within⟩ := sound.chased number drain found node member
    have possible : drainage.bindings.Possible (.drained node) :=
      fun _ held => sound.lawful.blocked_below barred within held
    rw [locked]
    exact Bindings.after_moves sound.lawful possible

theorem advanceDrain_eq {number : Nat} {drain : Drain}
    (found : drainage.drains.lookup number = some drain) :
    drainage.advanceDrain number =
      { drainage with
        bindings := (drainage.advance drain).1
        drains := drainage.drains.insert number
          { drain with stage := (drainage.advance drain).2 } } := by
  unfold advanceDrain
  rw [found]

theorem Sound.advanced (sound : Sound drainage) (number : Nat) :
    Sound (drainage.advanceDrain number) := by
  cases found : drainage.drains.lookup number with
  | none =>
      unfold advanceDrain
      rw [found]
      exact sound
  | some drain =>
      rw [advanceDrain_eq found]
      have bound : Sound { drainage with bindings := (drainage.advance drain).1 } :=
        sound.rebind drainage.unlisted (sound.advance_moves found)
          (drainage.advance_outgrows drain) (fun _ => .inl) nofun
      refine bound.redrain ?_ ?_
      · intro other held there
        rw [Table.lookup_insert_eq] at there
        split at there
        · rename_i same
          exact same ▸ sound.begun number drain found
        · exact sound.begun other held there
      · intro other held there node member
        rw [Table.lookup_insert_eq] at there
        split at there
        · obtain rfl := Option.some.inj there
          rcases nodes_advance member with before | ⟨parent, before, live⟩
          · exact bound.chased number drain found node before
          · -- The children are those of the same tree.
            obtain ⟨barred, _⟩ := bound.chased number drain found parent before
            have within := sound.child_within (sound.chased number drain found parent before).2 live
            refine ⟨barred, within.imp (fun same => same) ?_⟩
            exact (drainage.advance_outgrows drain).ancestor
        · exact bound.chased other held there node member

theorem Sound.expired (sound : Sound drainage) (number : Nat) :
    Sound (drainage.expireDrain number) := by
  unfold expireDrain
  split
  · exact sound
  · rename_i drain found
    split
    · exact sound
    · refine sound.redrain ?_ ?_
      · intro other held there
        rw [Table.lookup_insert_eq] at there
        split at there
        · rename_i same
          exact same ▸ sound.begun number drain found
        · exact sound.begun other held there
      · intro other held there node member
        rw [Table.lookup_insert_eq] at there
        split at there
        · obtain rfl := Option.some.inj there
          cases member
        · exact sound.chased other held there node member
    · exact sound

theorem Sound.drained (sound : Sound drainage) {kind : DrainKind}
    (possible : drainage.Possible (.drain id kind)) :
    Sound (drainage.after (.drain id kind)) := by
  refine sound.redrain ?_ ?_
  · intro number drain found
    rw [Table.lookup_insert_eq] at found
    split at found
    · rename_i new
      exact new ▸ Nat.lt_succ_self _
    · exact Nat.lt_succ_of_lt (sound.begun number drain found)
  · intro number drain found node member
    rw [Table.lookup_insert_eq] at found
    split at found
    · obtain rfl := Option.some.inj found
      cases kind with
      | guard => cases member
      | drain => cases member
      | physical =>
          have same : node = id := List.mem_singleton.mp member
          exact ⟨possible.2.2 rfl, .inl same⟩
    · exact sound.chased number drain found node member

theorem Sound.next (sound : Sound drainage) {event : Event}
    (possible : drainage.Possible event) : Sound (drainage.after event) := by
  have absent := sound.lawful.next_absent.1
  cases event with
  | binding event =>
      obtain ⟨plain, allowed, _⟩ := possible
      have grown := Bindings.after_outgrows sound.lawful plain
      exact sound.rebind drainage.unlisted (Bindings.after_moves sound.lawful allowed) grown
        (fun _ => .inl) nofun
  | createChild id context endpoints destination =>
      obtain ⟨allowed, listed, owned⟩ := possible
      have moves := Bindings.after_moves sound.lawful allowed
      have grown := Bindings.createChild_outgrows sound.lawful id context endpoints destination
      unfold Drainage.after
      dsimp only
      change Bindings.Moves _ (drainage.bindings.createChildBinding id context endpoints
        destination).2 at moves
      rcases drainage.bindings.createChild_cases id context endpoints destination with
        ⟨error, failed⟩ | ⟨capability, found, _, created⟩
      · rw [failed]
        exact sound
      · rw [created] at moves grown ⊢
        refine sound.rebind (some drainage.bindings.next) moves grown ?_ ?_
        · intro child same
          exact .inr (Option.some.inj same).symm
        · intro parent own
          obtain rfl := Option.some.inj own
          refine ⟨owned, ?_⟩
          intro same
          have held := sound.lawful.held id
          rw [found, ← Option.some.inj same, absent] at held
          cases held
  | listed =>
      exact ⟨sound.lawful, sound.counted, sound.numbered,
        fun id busy => ⟨(sound.placed id busy).1, (sound.placed id busy).2.1, nofun⟩,
        sound.freed, nofun, sound.begun, sound.chased⟩
  | call id key member context => exact sound.called possible.2.1 possible.2.2
  | begin number => exact sound.moved number _ _
  | finish number => exact sound.moved number _ _
  | returned number => exact sound.dropped number
  | freed id => exact sound.forgotten possible
  | drain id kind => exact sound.drained possible
  | advance number => exact sound.advanced number
  | expire number => exact sound.expired number

theorem reachable_sound (reached : system.Reachable drainage) : Sound drainage := by
  refine reached.invariant ?_ ?_
  · rintro _ rfl
    exact empty_sound
  · rintro before event _ ⟨possible, rfl⟩ sound
    exact sound.next possible

end Drainage

end TinyBus
