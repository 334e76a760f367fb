import TinyBus.CallbackCounts

/-
A drain that was begun after the revocation of a binding ends when nothing of
its tree runs: what it has still to wait for covers every call of the tree that
is in progress, and no further call starts.
-/

namespace TinyBus

open TransitionSystem

namespace Drainage

variable {drainage : Drainage}

def Ahead (bindings : Bindings) (drain : Drain) (id : CallbackId) : Prop :=
  match drain.stage with
  | .own _ | .expired => True
  | .looking => id ≠ drain.root
  | .walking pending found => id ∈ found ∨ ∃ node ∈ pending, Within bindings node id
  | .each target left _ => id ∈ target :: left
  | .locking node rest | .waiting node rest => ∃ other ∈ node :: rest, Within bindings other id
  | .descending node rest =>
      bindings.Ancestor node id ∨ ∃ other ∈ rest, Within bindings other id
  | .returned => drain.kind = .guard ∧ id ≠ drain.root

variable {drain : Drain} {id root : CallbackId} {bindings : Bindings} {before : Drainage}
  {number : Nat}

theorem Ahead.mono {before after : Bindings}
    (forward : ∀ {node}, before.Ancestor node id → after.Ancestor node id)
    (ahead : Ahead before drain id) : Ahead after drain id := by
  have within {node : CallbackId} (inside : Within before node id) : Within after node id :=
    inside.imp (fun same => same) forward
  obtain ⟨root, kind, stage⟩ := drain
  cases stage with
  | own => trivial
  | looking => exact ahead
  | walking pending found =>
      rcases ahead with met | ⟨node, member, inside⟩
      · exact .inl met
      · exact .inr ⟨node, member, within inside⟩
  | each target left wait => exact ahead
  | locking node rest =>
      obtain ⟨other, member, inside⟩ := ahead
      exact ⟨other, member, within inside⟩
  | waiting node rest =>
      obtain ⟨other, member, inside⟩ := ahead
      exact ⟨other, member, within inside⟩
  | descending node rest =>
      rcases ahead with below | ⟨other, member, inside⟩
      · exact .inl (forward below)
      · exact .inr ⟨other, member, within inside⟩
  | returned => exact ahead
  | expired => trivial

theorem ahead_notify {target : CallbackId} :
    Ahead bindings (drain.notify target) id ↔ Ahead bindings drain id := by
  obtain ⟨root, kind, stage⟩ := drain
  unfold Drain.notify
  dsimp only
  split
  · split <;> exact .rfl
  · split <;> exact .rfl
  · exact .rfl

theorem ahead_eachOf {kind : DrainKind} {targets : List CallbackId} (member : id ∈ targets) :
    Ahead bindings ⟨root, kind, .eachOf targets⟩ id := by
  cases targets with
  | nil => cases member
  | cons target left => exact member

theorem ahead_lockNext {kind : DrainKind} {node : CallbackId} {pending : List CallbackId}
    (member : node ∈ pending) (within : Within bindings node id) :
    Ahead bindings ⟨root, kind, .lockNext pending⟩ id := by
  cases pending with
  | nil => cases member
  | cons first rest => exact ⟨node, member, within⟩

theorem poll_none {count : Nat} {wait : Drained} (ended : wait.poll count = none) :
    count = 0 := by
  unfold Drained.poll at ended
  split at ended
  · cases ended
  · split at ended
    · assumption
    · cases ended
  · cases ended
  · cases ended

theorem Sound.advance_ahead (sound : Sound drainage) (busy : drainage.Busy id)
    (within : Within drainage.bindings drain.root id) (ahead : Ahead drainage.bindings drain id) :
    Ahead drainage.bindings { drain with stage := (drainage.advance drain).2 } id := by
  have apart {node : CallbackId} (idle : drainage.running node = 0) : id ≠ node := by
    rintro rfl
    exact sound.idle idle busy
  obtain ⟨root, kind, stage⟩ := drain
  cases stage with
  | own wait =>
      unfold advance
      dsimp only
      split
      · trivial
      · rename_i ended
        exact ⟨rfl, apart (poll_none ended)⟩
      · rename_i ended _
        exact apart (poll_none ended)
  | looking =>
      obtain ⟨child, live, below⟩ := sound.live_child busy (within.resolve_left ahead)
      exact .inr ⟨child, List.mem_reverse.mpr live, below⟩
  | walking pending found =>
      cases pending with
      | nil =>
          refine ahead_eachOf (ahead.resolve_right ?_)
          rintro ⟨node, member, _⟩
          cases member
      | cons node pending =>
          change id ∈ found ++ [node] ∨
            ∃ other ∈ (drainage.liveChildren node).reverse ++ pending,
              Within drainage.bindings other id
          rcases ahead with met | ⟨other, member, inside⟩
          · exact .inl (List.mem_append_left _ met)
          · rcases List.mem_cons.mp member with rfl | later
            · rcases inside with rfl | below
              · exact .inl (List.mem_append_right _ (List.mem_singleton_self _))
              · obtain ⟨child, live, further⟩ := sound.live_child busy below
                exact .inr ⟨child, List.mem_append_left _ (List.mem_reverse.mpr live), further⟩
            · exact .inr ⟨other, List.mem_append_right _ later, inside⟩
  | each target left wait =>
      unfold advance
      dsimp only
      split
      · exact ahead
      · rename_i ended
        exact ahead_eachOf ((List.mem_cons.mp ahead).resolve_left (apart (poll_none ended)))
  | locking node rest =>
      unfold advance
      dsimp only
      split
      · rename_i idle
        obtain ⟨other, member, inside⟩ := ahead
        rcases List.mem_cons.mp member with rfl | later
        · exact .inl (inside.resolve_left (apart idle))
        · exact .inr ⟨other, later, inside⟩
      · exact ahead
  | waiting node rest =>
      unfold advance
      dsimp only
      split
      · rename_i idle
        obtain ⟨other, member, inside⟩ := ahead
        rcases List.mem_cons.mp member with rfl | later
        · exact .inl (inside.resolve_left (apart idle))
        · exact .inr ⟨other, later, inside⟩
      · exact ahead
  | descending node rest =>
      rcases ahead with below | ⟨other, member, inside⟩
      · obtain ⟨child, live, further⟩ := sound.live_child busy below
        exact ahead_lockNext (List.mem_append_left _ live) further
      · exact ahead_lockNext (List.mem_append_right _ member) inside
  | returned => exact ahead
  | expired => trivial

/-- The drain of a tree that is revoked, or is by the first step of its worker; every call in
the tree is ahead of it. -/
structure Clearing (drainage : Drainage) (root : CallbackId) (drain : Drain) : Prop where
  revoked : drainage.bindings.Revoked root ∨
    drain.kind = .physical ∧ drain.stage = .locking root []
  ahead : ∀ id, drainage.Busy id → Within drainage.bindings root id →
    Ahead drainage.bindings drain id

theorem Clearing.kept {after : Drainage} (sound : Sound before)
    (clearing : Clearing before root drain) {born : Option CallbackId}
    {count : CallbackId → Nat → Nat} (moves : Bindings.Moves before.bindings after.bindings)
    (grown : Bindings.Outgrows born count before.bindings after.bindings)
    (calls : ∀ id, after.Busy id → before.Busy id ∨
      (Within after.bindings root id → Ahead after.bindings drain id)) :
    Clearing after root drain := by
  refine ⟨clearing.revoked.imp ?_ (fun first => first), ?_⟩
  · rintro ⟨capability, found, gone⟩
    obtain ⟨later, there, stays⟩ := moves.stays sound.lawful found
    exact ⟨later, there, stays gone⟩
  · intro id busy within
    rcases calls id busy with busy | ahead
    · obtain ⟨⟨binding, present⟩, _⟩ := sound.placed id busy
      have inside : Within before.bindings root id :=
        within.imp (fun same => same) (grown.ancestor_iff sound.lawful present).mp
      exact (clearing.ahead id busy inside).mono grown.ancestor
    · exact ahead within

theorem Clearing.same {after : Drainage} (sound : Sound before)
    (clearing : Clearing before root drain) (bindings : after.bindings = before.bindings)
    (calls : ∀ id, after.Busy id → before.Busy id) : Clearing after root drain := by
  have moves : Bindings.Moves before.bindings after.bindings := bindings ▸ .same
  have grown : Bindings.Outgrows none _ before.bindings after.bindings :=
    .same (congrArg Bindings.states bindings)
  exact clearing.kept sound moves grown (fun id busy => .inl (calls id busy))

theorem Clearing.called (sound : Sound before) (clearing : Clearing before root drain)
    (id : CallbackId) (key : ObjectPath × InterfaceName) (member : MemberName)
    (context : CallContext) :
    Clearing (before.callWithContext id key member context) root drain := by
  rcases before.callWithContext_cases id key member context with
    ⟨_, refused⟩ | ⟨started, counted⟩
  · rw [refused]
    exact clearing
  · have moves : Bindings.Moves before.bindings (before.bindings.modifyState id (fun held =>
        { held with running := held.running + 1 })) :=
      .noted (fun _ => rfl) (fun _ => rfl) (fun _ => rfl)
    have grown : Bindings.Outgrows none _ before.bindings _ := .modified before.bindings id
      (fun held => { held with running := held.running + 1 }) (· + 1) (fun _ => rfl)
      (fun _ => rfl)
    rw [counted]
    refine clearing.kept sound moves grown ?_
    rintro other ⟨number, call, found, rfl⟩
    rw [Table.lookup_insert_eq] at found
    split at found
    · -- In a revoked tree no call starts, and the first step of a worker is still to come.
      refine .inr ?_
      intro within
      obtain rfl := Option.some.inj found
      obtain ⟨_, new, _, present, _⟩ := Bindings.starts_some started
      have inside : Within before.bindings root id := within.imp (fun same => same)
        (grown.ancestor_iff sound.lawful (Bindings.find_iff.mp present).2).mp
      rcases clearing.revoked with revoked | ⟨_, first⟩
      · have silent := sound.lawful.blocked_silent
          (fun _ held => sound.lawful.blocked_below revoked.barred inside held)
          key member context
        rw [started] at silent
        cases silent
      · unfold Ahead
        rw [first]
        exact ⟨root, List.mem_cons_self .., within⟩
    · exact .inl ⟨number, call, found, rfl⟩

theorem Clearing.advanced (sound : Sound before) (found : before.drains.lookup number = some drain)
    (clearing : Clearing before drain.root drain) :
    Clearing (before.advanceDrain number) drain.root
      { drain with stage := (before.advance drain).2 } := by
  have grown := before.advance_outgrows drain
  rw [advanceDrain_eq found]
  refine ⟨.inl ?_, ?_⟩
  · rcases clearing.revoked with ⟨capability, held, gone⟩ | ⟨_, first⟩
    · obtain ⟨later, there, stays⟩ := (sound.advance_moves found).stays sound.lawful held
      exact ⟨later, there, stays gone⟩
    · have ⟨⟨capability, held, _⟩, _⟩ := sound.chased number drain found drain.root
        (first ▸ List.mem_cons_self ..)
      have locked : (before.advance drain).1 = before.bindings.waitDrained drain.root := by
        unfold advance
        rw [first]
      refine ⟨capability.revoke, ?_, rfl⟩
      dsimp only
      rw [locked]
      exact (Table.lookup_modify _ _ _ _).trans ((if_pos rfl).trans (congrArg _ held))
  · intro id busy within
    obtain ⟨⟨binding, present⟩, _⟩ := sound.placed id busy
    have inside : Within before.bindings drain.root id :=
      within.imp (fun same => same) (grown.ancestor_iff sound.lawful present).mp
    exact (sound.advance_ahead busy inside (clearing.ahead id busy inside)).mono grown.ancestor

/-- The drain of that number goes on clearing its tree, and stays where it has returned. -/
def Pursues (drainage : Drainage) (number : Nat) (drain : Drain) : Prop :=
  ∃ later, drainage.drains.lookup number = some later ∧ later.root = drain.root ∧
    later.kind = drain.kind ∧ (drain.stage = .returned → later.stage = .returned) ∧
      Clearing drainage drain.root later

theorem Clearing.pursues (clearing : Clearing drainage root drain) (same : root = drain.root)
    (found : drainage.drains.lookup number = some drain) : drainage.Pursues number drain :=
  ⟨drain, found, rfl, rfl, fun returned => returned, same ▸ clearing⟩

theorem Clearing.moved (sound : Sound before) (found : before.drains.lookup number = some drain)
    (clearing : Clearing before drain.root drain) (other : Nat) (early late : CallPhase) :
    (before.movePhase other early late).Pursues number drain := by
  rcases before.movePhase_cases other early late with same | ⟨call, there, moved⟩
  · rw [same]
    exact clearing.pursues rfl found
  · rw [moved]
    refine Clearing.pursues (clearing.same sound rfl ?_) rfl found
    rintro id ⟨turn, held, lookup, rfl⟩
    obtain ⟨old, had, same⟩ := origin_of_phase there lookup
    exact ⟨turn, old, had, same.symm⟩

theorem Clearing.dropped (sound : Sound before) (found : before.drains.lookup number = some drain)
    (clearing : Clearing before drain.root drain) (other : Nat) :
    (before.dropRunning other).Pursues number drain := by
  rcases before.dropRunning_cases other with same | ⟨call, there, drains, way, ended⟩
  · rw [same]
    exact clearing.pursues rfl found
  · have moves : Bindings.Moves before.bindings (before.bindings.after (.returned call.binding)) :=
      .noted (fun _ => rfl) (fun _ => rfl) (fun _ => rfl)
    have grown : Bindings.Outgrows none _ before.bindings
        (before.bindings.after (.returned call.binding)) :=
      .modified before.bindings call.binding
        (fun held => { held with running := held.running - 1 }) (· - 1) (fun _ => rfl)
        (fun _ => rfl)
    have left : Clearing (before.dropRunning other) drain.root drain := by
      rw [ended]
      refine clearing.kept sound moves grown ?_
      rintro id ⟨turn, held, lookup, rfl⟩
      rw [Table.lookup_erase_eq] at lookup
      split at lookup
      · cases lookup
      · exact .inl ⟨turn, held, lookup, rfl⟩
    rw [ended] at left ⊢
    rcases way with rfl | rfl
    · exact left.pursues rfl found
    · refine ⟨drain.notify call.binding, ?_, notify_root drain _, ?_, ?_, ?_⟩
      · dsimp only
        rw [Table.lookup_mapValues, found]
        rfl
      · unfold Drain.notify
        split
        · split <;> rfl
        · split <;> rfl
        · rfl
      · intro returned
        unfold Drain.notify
        rw [returned]
        exact returned
      · refine ⟨left.revoked.imp (fun revoked => revoked) ?_, ?_⟩
        · rintro ⟨physical, first⟩
          unfold Drain.notify
          rw [first]
          exact ⟨physical, first⟩
        · exact fun id busy within => ahead_notify.mpr (left.ahead id busy within)

theorem Clearing.advance (sound : Sound before) (found : before.drains.lookup number = some drain)
    (clearing : Clearing before drain.root drain) (other : Nat) :
    (before.advanceDrain other).Pursues number drain := by
  by_cases mine : other = number
  · subst mine
    refine ⟨{ drain with stage := (before.advance drain).2 }, ?_, rfl, rfl, ?_,
      clearing.advanced sound found⟩
    · rw [advanceDrain_eq found]
      exact AList.lookup_insert _
    · intro returned
      change (before.advance drain).2 = .returned
      unfold Drainage.advance
      rw [returned]
  · cases there : before.drains.lookup other with
    | none =>
        unfold advanceDrain
        rw [there]
        exact clearing.pursues rfl found
    | some held =>
        have kept : Clearing (before.advanceDrain other) drain.root drain := by
          rw [advanceDrain_eq there]
          exact clearing.kept sound (sound.advance_moves there) (before.advance_outgrows held)
            (fun _ => .inl)
        refine kept.pursues rfl ?_
        rw [advanceDrain_eq there]
        exact (AList.lookup_insert_ne (Ne.symm mine)).trans found

theorem Clearing.expire (sound : Sound before) (found : before.drains.lookup number = some drain)
    (clearing : Clearing before drain.root drain) (other : Nat) :
    (before.expireDrain other).Pursues number drain := by
  unfold expireDrain
  split
  · exact clearing.pursues rfl found
  · rename_i held there
    split
    · exact clearing.pursues rfl found
    · rename_i kind unreturned
      by_cases mine : other = number
      · subst mine
        obtain rfl : drain = held := Option.some.inj (found.symm.trans there)
        refine ⟨{ drain with stage := .expired }, AList.lookup_insert _, rfl, rfl, ?_, ?_, ?_⟩
        · exact fun returned => (unreturned returned).elim
        · refine clearing.revoked.imp (fun revoked => revoked) ?_
          rintro ⟨physical, _⟩
          rw [kind] at physical
          cases physical
        · exact fun _ _ _ => trivial
      · refine Clearing.pursues (clearing.same sound rfl (fun _ busy => busy)) rfl ?_
        exact (AList.lookup_insert_ne (Ne.symm mine)).trans found
    · exact clearing.pursues rfl found

theorem Clearing.next (sound : Sound before) {event : Event} (possible : before.Possible event)
    (found : before.drains.lookup number = some drain)
    (clearing : Clearing before drain.root drain) :
    (before.after event).Pursues number drain := by
  cases event with
  | binding event =>
      obtain ⟨plain, allowed, _⟩ := possible
      exact Clearing.pursues (clearing.kept sound (Bindings.after_moves sound.lawful allowed)
        (Bindings.after_outgrows sound.lawful plain) (fun _ => .inl)) rfl found
  | createChild id context endpoints destination =>
      have moves := Bindings.after_moves sound.lawful possible.1
      have grown := Bindings.createChild_outgrows sound.lawful id context endpoints destination
      change Bindings.Moves _ (before.bindings.createChildBinding id context endpoints
        destination).2 at moves
      unfold Drainage.after
      dsimp only
      split
      · rename_i made
        rw [made] at moves grown
        exact Clearing.pursues (clearing.kept sound moves grown (fun _ => .inl)) rfl found
      · rename_i made
        rw [made] at moves grown
        exact Clearing.pursues (clearing.kept sound moves grown (fun _ => .inl)) rfl found
  | listed => exact Clearing.pursues (clearing.same sound rfl (fun _ busy => busy)) rfl found
  | call id key member context =>
      refine Clearing.pursues (clearing.called sound id key member context) rfl ?_
      change (before.callWithContext id key member context).drains.lookup number = _
      rcases before.callWithContext_cases id key member context with ⟨_, same⟩ | ⟨_, same⟩
      · rw [same]
        exact found
      · rw [same]
        exact found
  | begin other => exact clearing.moved sound found other _ _
  | finish other => exact clearing.moved sound found other _ _
  | returned other => exact clearing.dropped sound found other
  | freed id => exact Clearing.pursues (clearing.same sound rfl (fun _ busy => busy)) rfl found
  | drain id kind =>
      refine Clearing.pursues (clearing.same sound rfl (fun _ busy => busy)) rfl ?_
      change (before.drains.insert before.nextDrain _).lookup number = _
      rw [Table.lookup_insert_eq, if_neg (Nat.ne_of_lt (sound.begun number drain found))]
      exact found
  | advance other => exact clearing.advance sound found other
  | expire other => exact clearing.expire sound found other

theorem Clearing.run {first last : Drainage} {events : List Event} (sound : Sound first)
    (run : system.Run first events last) (found : first.drains.lookup number = some drain)
    (clearing : Clearing first drain.root drain) :
    Sound last ∧ last.Pursues number drain := by
  induction run with
  | nil => exact ⟨sound, clearing.pursues rfl found⟩
  | @snoc middle _ _ event _ stepped ih =>
      obtain ⟨middle_sound, later, there, root, kind, stays, kept⟩ := ih
      obtain ⟨possible, rfl⟩ := stepped
      rw [← root] at kept
      obtain ⟨last, lookup, root', kind', stays', final⟩ := kept.next middle_sound possible there
      exact ⟨middle_sound.next possible, last, lookup, root'.trans root, kind'.trans kind,
        fun returned => stays' (stays returned), root ▸ final⟩

/-- A drain begun after the revocation of a binding, or on a physical worker, returns only
when no call of the binding is in progress, nor one of its descendants but for a guard's
drain; none starts in the tree afterwards. -/
theorem returned_drain_quiet {before begun last later : Drainage} {id : CallbackId}
    {kind : DrainKind} {early late : List Event} {drain : Drain}
    (reached : system.Reachable before)
    (revoked : kind ≠ .physical → before.bindings.Revoked id)
    (stepped : system.step before (.drain id kind) begun)
    (run : system.Run begun early last)
    (found : last.drains.lookup before.nextDrain = some drain)
    (returned : drain.stage = .returned) (rest : system.Run last late later) :
    ∀ other, other = id ∨ kind ≠ .guard ∧ later.bindings.Ancestor id other →
      ¬ later.Busy other ∧
        ∀ key member context, later.bindings.starts other key member context = false := by
  obtain ⟨possible, rfl⟩ := stepped
  have sound := (reachable_sound reached).next possible
  let first : Drain := ⟨id, kind, .start id kind⟩
  have there : (before.after (.drain id kind)).drains.lookup before.nextDrain = some first :=
    AList.lookup_insert _
  have clearing : Clearing (before.after (.drain id kind)) first.root first := by
    cases kind with
    | guard => exact ⟨.inl (revoked nofun), fun _ _ _ => trivial⟩
    | drain => exact ⟨.inl (revoked nofun), fun _ _ _ => trivial⟩
    | physical =>
        exact ⟨.inr ⟨rfl, rfl⟩, fun _ _ within => ⟨id, List.mem_cons_self .., within⟩⟩
  obtain ⟨last_sound, held, lookup, root, same, _, kept⟩ := clearing.run sound run there
  obtain rfl : held = drain := Option.some.inj (lookup.symm.trans found)
  have root : held.root = id := root
  obtain ⟨later_sound, final, _, root', same', stays, done⟩ :=
    Clearing.run last_sound rest lookup (root.symm ▸ kept)
  have stage := stays returned
  have base : final.root = id := root'.trans root
  have gone : later.bindings.Revoked id := by
    rcases done.revoked with gone | ⟨_, locking⟩
    · exact root ▸ gone
    · rw [stage] at locking
      cases locking
  intro other below
  have within : Within later.bindings id other := below.imp (fun same => same) And.right
  refine ⟨?_, fun key member context => later_sound.lawful.blocked_silent
    (fun _ present => later_sound.lawful.blocked_below gone.barred within present) key member
    context⟩
  intro busy
  have ahead := done.ahead other busy (root ▸ within)
  unfold Ahead at ahead
  rw [stage] at ahead
  obtain ⟨guard, apart⟩ := ahead
  rcases below with same | ⟨tree, _⟩
  · exact apart (same.trans base.symm)
  · exact tree ((same'.trans same).symm.trans guard)

private theorem run_on {first middle : Drainage} {events : List Event}
    (run : system.Run first events middle) (event : Event) (possible : middle.Possible event) :
    system.Run first (events ++ [event]) (middle.after event) :=
  .snoc run ⟨possible, rfl⟩

private theorem released (entered : (bindings.find id).all (fun held => held.2.entered) = true) :
    ∀ capability binding module, bindings.find id = some (capability, binding) →
      capability.module = some module → voiceContext.sender = some module →
        binding.entered = true := by
  intro capability binding module found _ _
  rw [found] at entered
  exact entered

def voiceDrainage : Drainage :=
  { empty with bindings := derivedBindings }

theorem voiceDrainage_reachable : system.Reachable voiceDrainage := by
  have attach (number : PeerId) {middle : Drainage} (unlisted : middle.unlisted = none) :
      middle.Possible (.binding (.route (.attach number))) :=
    ⟨trivial, ⟨trivial, rfl, fun _ _ _ _ removes => nomatch removes⟩, fun _ => unlisted⟩
  have module := run_on (.nil : system.Run empty [] _) _ (attach 0 rfl)
  have parent := run_on module _ (attach 1 rfl)
  have child := run_on parent _ (attach 2 rfl)
  have admitted := run_on child
    (.binding (.route (.setAttestationForUnique (BusName.unique 1) voiceAttestation)))
    ⟨trivial, ⟨trivial, rfl, fun _ _ _ _ removes => nomatch removes⟩, fun _ => rfl⟩
  have prepared := run_on admitted (.binding (.prepare (BusName.unique 2) [voiceEndpoint] [] []))
    ⟨trivial, trivial, nofun⟩
  have served := run_on prepared (.binding (.serve 0 voiceEndpoint.interfaceKey [notifyMember]))
    ⟨trivial, trivial, nofun⟩
  have consumed := run_on served (.binding (.consume 0)) ⟨trivial, trivial, nofun⟩
  have bound := run_on consumed (.binding (.bind 0 (BusName.unique 1) true))
    ⟨trivial, ⟨1, rfl, by decide⟩, nofun⟩
  have registered := run_on bound (.binding (.register 0)) ⟨trivial, trivial, fun _ => rfl⟩
  have created := run_on registered
    (.createChild 0 voiceContext [voiceEndpoint] (BusName.unique 3))
    ⟨released (by decide), rfl, List.not_mem_nil⟩
  have listed := run_on created .listed trivial
  have listening := run_on listed
    (.binding (.serve 1 voiceEndpoint.interfaceKey [notifyMember])) ⟨trivial, trivial, nofun⟩
  exact ⟨empty, _, rfl, listening⟩

/-- Steps of the drain that was begun first. -/
def advances : Nat → Drainage → Drainage
  | 0, drainage => drainage
  | count + 1, drainage => advances count (drainage.after (.advance 0))

theorem advances_run (count : Nat) (drainage : Drainage) :
    ∃ events, system.Run drainage events (advances count drainage) := by
  induction count generalizing drainage with
  | zero => exact ⟨[], .nil⟩
  | succ count ih =>
      obtain ⟨events, run⟩ := ih (drainage.after (.advance 0))
      exact ⟨_, (run_on .nil (.advance 0) trivial).append run⟩

/-- The child is called, and its parent revoked. -/
def revokedVoice : Drainage :=
  ((voiceDrainage.after (.call 1 voiceEndpoint.interfaceKey notifyMember voiceContext)).after
    (.begin 0)).after (.binding (.revoke 0))

/-- The drain has gone to sleep over the call, and the call has ended. -/
def endedVoice : Drainage :=
  ((advances 7 (revokedVoice.after (.drain 0 .drain))).after (.finish 0)).after (.returned 0)

theorem revokedVoice_quiet :
    (advances 7 (revokedVoice.after (.drain 0 .drain))).drains.lookup 0 =
        some ⟨0, .drain, .each 1 [] (.asleep false)⟩ ∧
      (advances 3 endedVoice).drains.lookup 0 = some ⟨0, .drain, .returned⟩ ∧
        ¬ (advances 3 endedVoice).Busy 1 := by
  have returned : (advances 3 endedVoice).drains.lookup 0 = some ⟨0, .drain, .returned⟩ := by
    decide +kernel
  refine ⟨by decide +kernel, returned, ?_⟩
  obtain ⟨first, history, initial, past⟩ := voiceDrainage_reachable
  have called := run_on past (.call 1 voiceEndpoint.interfaceKey notifyMember voiceContext)
    ⟨released (by decide), List.not_mem_nil, nofun⟩
  have running := run_on called (.begin 0) trivial
  have revoked := run_on running (.binding (.revoke 0)) ⟨trivial, trivial, fun _ => rfl⟩
  obtain ⟨early, asleep⟩ := advances_run 7 (revokedVoice.after (.drain 0 .drain))
  have finished := run_on asleep (.finish 0) trivial
  have ended := run_on finished (.returned 0) trivial
  obtain ⟨late, done⟩ := advances_run 3 endedVoice
  have gone : revokedVoice.bindings.Revoked 0 := by
    refine ⟨⟨BusName.unique 2, [voiceEndpoint], [], true, false, true, some (BusName.unique 1)⟩,
      ?_, rfl⟩
    decide +kernel
  have begun : system.step revokedVoice (.drain 0 .drain) (revokedVoice.after (.drain 0 .drain)) :=
    ⟨⟨List.not_mem_nil, nofun, nofun⟩, rfl⟩
  have child : (advances 3 endedVoice).bindings.Parent 0 1 := by
    refine ⟨⟨[], some 0, [], false, [voiceEndpoint.interfaceKey], 0, true⟩, ?_, rfl⟩
    decide +kernel
  exact (returned_drain_quiet ⟨first, _, initial, revoked⟩ (fun _ => gone) begun
    (ended.append done) returned rfl .nil 1 (.inr ⟨nofun, .single child⟩)).1

/-- A drain that was begun before the revocation has read the count before a call came. -/
theorem earlyDrain_returns :
    ¬ ∀ (before begun middle last : Drainage) (id : CallbackId) (kind : DrainKind)
      (early late : List Event) (drain : Drain), system.Reachable before →
        system.step before (.drain id kind) begun → system.Run begun early middle →
          middle.bindings.Revoked id → system.Run middle late last →
            last.drains.lookup before.nextDrain = some drain → drain.stage = .returned →
              ∀ number call, last.calls.lookup number = some call →
                Within last.bindings id call.binding → call.phase ≠ .running := by
  intro quiet
  obtain ⟨early, looking⟩ := advances_run 2 (voiceDrainage.after (.drain 0 .drain))
  have called := run_on looking (.call 0 voiceEndpoint.interfaceKey notifyMember voiceContext)
    ⟨released (by decide +kernel), by decide +kernel, by decide +kernel⟩
  have running := run_on called (.begin 0) trivial
  have revoked := run_on running (.binding (.revoke 0))
    ⟨trivial, trivial, fun _ => by decide +kernel⟩
  obtain ⟨late, done⟩ := advances_run 5
    (((advances 2 (voiceDrainage.after (.drain 0 .drain))).after
      (.call 0 voiceEndpoint.interfaceKey notifyMember voiceContext)).after (.begin 0) |>.after
        (.binding (.revoke 0)))
  refine quiet _ _ _ _ 0 .drain _ _ ⟨0, .drain, .returned⟩ voiceDrainage_reachable
    ⟨⟨List.not_mem_nil, nofun, nofun⟩, rfl⟩ revoked ?_ done (by decide +kernel) rfl 0
    ⟨0, .running⟩ (by decide +kernel) (.inl rfl) rfl
  refine ⟨⟨BusName.unique 2, [voiceEndpoint], [], true, false, true, some (BusName.unique 1)⟩,
    ?_, rfl⟩
  decide +kernel

end Drainage

end TinyBus
