/-
What the announcements of ownership say.  The ledger of changes chains for each
name up to its owner in the table, and the announcements account for the ledger.
Announcements overtake one another between the sections that hold the lock; where
those of a name do not, their watcher hears a part of its chain.
-/

import TinyBus.Announcements

namespace TinyBus

open TransitionSystem Ownership

/-! ### What an operation tells -/

namespace Router

variable {change : NameChange}

private theorem nameTaken_refused {holder : Except Error BusName} {name : BusName}
    (done : (holder.bind
      (fun unique => .error (.nameTaken name unique)) : Except Error NameChange) = .ok change) :
    False := by
  cases holder with
  | error refusal => cases done
  | ok unique => cases done

theorem requestName_ok {router : Router} {id : PeerId} {name : BusName}
    (done : (router.requestName id name).1 = .ok change) :
    (∃ unique, change = ⟨name, none, some unique⟩) ∨
      ∃ unique, change = ⟨name, some unique, some unique⟩ ∧
        router.names.lookup name = some id := by
  unfold requestName at done
  split at done
  · cases done
  · split at done
    · cases done
    · split at done
      · rename_i owner held
        split at done
        · rename_i own
          obtain ⟨unique, _, same⟩ := Broker.map_ok done
          exact .inr ⟨unique, same.symm, own ▸ held⟩
        · exact (nameTaken_refused done).elim
      · obtain ⟨unique, _, same⟩ := Broker.map_ok done
        exact .inl ⟨unique, same.symm⟩

theorem releaseName_ok {router : Router} {id : PeerId} {name : BusName}
    (done : (router.releaseName id name).1 = .ok change) :
    ∃ unique, change = ⟨name, some unique, none⟩ := by
  unfold releaseName at done
  split at done
  · cases done
  · split at done
    · split at done
      · obtain ⟨unique, _, same⟩ := Broker.map_ok done
        exact ⟨unique, same.symm⟩
      · exact (nameTaken_refused done).elim
    · cases done

theorem detach_vacates {router : Router} {id : PeerId} (reported : change ∈ (router.detach id).1) :
    ∃ unique, change = ⟨change.name, some unique, none⟩ := by
  cases present : router.peers.lookup id with
  | none =>
      rw [detach_of_absent present] at reported
      cases reported
  | some peer =>
      rw [detach_changes present] at reported
      obtain ⟨name, _, rfl⟩ := List.mem_map.mp reported
      exact ⟨peer.unique, rfl⟩

theorem Performed.reported {router : Router}
    {outcome : Except Error (List NameChange) × Router}
    (performed : Performed router outcome) (consistent : router.Consistent) :
    Explains wellKnown router.ownerOf outcome.2.ownerOf
      (Broker.reportedChanges outcome) := by
  rcases outcome with ⟨result, after⟩
  cases result with
  | ok changes => exact performed.explains consistent
  | error refusal =>
      cases performed
      exact .refl _ _

end Router

namespace Broker

variable {Host : Type}

theorem Moves.explains {source : PeerId} {router after : Router}
    {changes : List NameChange} (moves : Moves source router changes after)
    (consistent : router.Consistent)
    (issued : ∀ op : RouterOp, op.OfPeer source → op.Issued router) :
    after.Consistent ∧
      Explains Router.wellKnown router.ownerOf after.ownerOf changes := by
  cases moves with
  | still => exact ⟨consistent, .refl _ _⟩
  | @moved op own =>
      have performed := Router.perform_performed consistent op (issued op own)
      exact ⟨performed.consistent consistent, performed.reported consistent⟩

theorem busMethod_silent {broker : Broker Host} {source : PeerId} {sourceName : BusName}
    (unattached : broker.router.isAttached source sourceName ≠ true)
    (control : ModuleControl Host) (member : MemberName) (body : Value) :
    (busMethod control broker source sourceName member body).changes = [] := by
  unfold busMethod
  rw [Router.ensurePeerAttached, if_neg unattached]

end Broker

section

variable {Name Holder : Type} [DecidableEq Holder]

private theorem effective_of_moving {changes : List (Change Name Holder)}
    (moving : ∀ change ∈ changes, change.oldOwner ≠ change.newOwner) :
    effective changes = changes := by
  rw [effective, List.filter_eq_self]
  intro change member
  simpa using moving change member

end

theorem detach_effective (router : Router) (id : PeerId) :
    effective (router.detach id).1 = (router.detach id).1 := by
  apply effective_of_moving
  intro change member
  obtain ⟨unique, shape⟩ := Router.detach_vacates member
  rw [shape]
  exact Option.some_ne_none unique

private theorem reportedChanges_reported {outcome : Except Error NameChange × Router}
    {change : NameChange}
    (member : change ∈ Broker.reportedChanges (Router.reported outcome)) :
    outcome.1 = .ok change := by
  rcases outcome with ⟨result, after⟩
  cases result with
  | error refusal => cases member
  | ok reported =>
      cases List.mem_singleton.mp member
      rfl

theorem requestNameForUnique_ok {router : Router} {unique name : BusName}
    {change : NameChange}
    (member : change ∈ Broker.reportedChanges
      (router.perform (.requestNameForUnique unique name))) :
    ∃ id, router.names.lookup unique = some id ∧
      (router.requestName id name).1 = .ok change := by
  have done := reportedChanges_reported member
  unfold Router.requestNameForUnique at done
  cases found : router.names.lookup unique with
  | none =>
      rw [found] at done
      cases done
  | some id =>
      rw [found] at done
      exact ⟨id, rfl, done⟩

theorem told_effective (router : Router) (op : RouterOp) (hosted : op.Hosted) :
    op.told (Broker.reportedChanges (router.perform op)) =
      effective (Broker.reportedChanges (router.perform op)) := by
  cases op with
  | detachUnique unique =>
      change (router.detachUnique unique).1 = effective (router.detachUnique unique).1
      unfold Router.detachUnique
      cases router.names.lookup unique with
      | none => rfl
      | some id => exact (detach_effective router id).symm
  | requestNameForUnique unique name =>
      apply List.filter_congr
      intro change member
      obtain ⟨id, _, done⟩ := requestNameForUnique_ok member
      rcases Router.requestName_ok done with ⟨claimant, rfl⟩ | ⟨holder, rfl, _⟩
      · simp
      · simp
  | releaseNameForUnique unique name =>
      symm
      apply effective_of_moving
      intro change member
      have done := reportedChanges_reported member
      unfold Router.releaseNameForUnique at done
      split at done
      · cases done
      · split at done
        · cases done
        · obtain ⟨holder, rfl⟩ := Router.releaseName_ok done
          exact Option.some_ne_none holder
  | addHostCallbacks id =>
      change Broker.reportedChanges ((router.addHostCallbacks id).1.map (fun _ => []), _) =
        effective (Broker.reportedChanges ((router.addHostCallbacks id).1.map (fun _ => []), _))
      cases (router.addHostCallbacks id).1 with
      | error refusal => rfl
      | ok _ => rfl
  | requestName _ _ => cases hosted
  | releaseName _ _ => cases hosted
  | detach _ => cases hosted
  | _ => rfl

theorem reserved_effective {router : Router} (consistent : router.Consistent)
    {id : PeerId} {name : BusName} (lacks : router.ownerOf name ≠ some (BusName.unique id)) :
    effective (Broker.reportedChanges
        (router.perform (.requestNameForUnique (BusName.unique id) name))) =
      Broker.reportedChanges
        (router.perform (.requestNameForUnique (BusName.unique id) name)) := by
  apply effective_of_moving
  intro change member
  obtain ⟨holder, owned, done⟩ := requestNameForUnique_ok member
  have minted := consistent.uniqueOwner _ holder owned (BusName.isUnique_unique id)
  have own : holder = id := (BusName.unique_injective minted).symm
  rcases Router.requestName_ok done with ⟨claimant, rfl⟩ | ⟨_, _, held⟩
  · exact (Option.some_ne_none claimant).symm
  · rw [consistent.ownerOf_eq, held, own] at lacks
    exact absurd rfl lacks

namespace AnnounceState

variable {Host : Type} {control : ModuleControl Host} {watcher : Outbox}
variable {state before after : AnnounceState Host}

/-! ### What a step does -/

/-- The ledger with those who work it off. -/
def work (state : AnnounceState Host) : Journal.Work NameChange :=
  ⟨state.ledger, state.sent.map Prod.fst, state.outstanding, state.lost⟩

def names (name : BusName) (change : NameChange) : Bool := change.name = name

/-- The inversion of a step: a section moves the table and notes what it changed, or
an announcer works and leaves the table alone. -/
inductive Turn (before after : AnnounceState Host) : Journal.Act NameChange → Prop
  | moved {changes : List NameChange} (consistent : after.broker.router.Consistent)
      (explains : Explains Router.wellKnown before.broker.router.ownerOf
        after.broker.router.ownerOf changes)
      (noted : Journal.Step before.work (.note (effective changes)) after.work) :
      Turn before after (.note (effective changes))
  | worked {act : Journal.Act NameChange}
      (table : after.broker.router = before.broker.router)
      (ledger : after.ledger = before.ledger)
      (step : Journal.Step before.work act after.work) : Turn before after act

theorem record_turn {left : Broker Host} {changes told : List NameChange}
    (consistent : left.router.Consistent)
    (explains : Explains Router.wellKnown state.broker.router.ownerOf
      left.router.ownerOf changes) (all : told = effective changes)
    (reader : Option PeerId) (stage : Stage) :
    Turn state (state.record left changes reader stage told)
      (.note (effective changes)) := by
  refine .moved consistent explains (.note ?_)
  have owed : (state.record left changes reader stage told).outstanding =
      state.outstanding ++ (effective changes).zipIdx state.ledger.length := by
    unfold outstanding record
    rw [List.flatMap_append, all]
    simp
  rw [owed]
  exact .refl _

theorem still_turn (state : AnnounceState Host) : Turn state state .pass :=
  .worked rfl rfl (.pass (.refl _))

theorem setAnnouncer_turn {index : Nat} {reader : Option PeerId} {stage : Stage}
    {owed : List Announcement}
    (found : state.announcers[index]? = some ⟨reader, stage, owed⟩) (later : Stage) :
    Turn state (state.setAnnouncer index ⟨reader, later, owed⟩) .pass := by
  obtain ⟨rest, whole, updated⟩ := Journal.owed_set Announcer.owed found
  have moved := updated ⟨reader, later, owed⟩
  exact .worked rfl rfl (.pass (whole.trans moved.symm))

theorem perform_turn (consistent : state.broker.router.Consistent) (op : RouterOp)
    (issued : op.Issued state.broker.router) {told : List NameChange}
    (all : told = effective (Broker.reportedChanges (state.broker.router.perform op)))
    (reader : Option PeerId) (stage : Stage) :
    Turn state
      (state.record (state.withRouter (state.broker.router.perform op).2)
        (Broker.reportedChanges (state.broker.router.perform op)) reader stage told)
      (.note (effective (Broker.reportedChanges (state.broker.router.perform op)))) := by
  have performed := Router.perform_performed consistent op issued
  exact record_turn (performed.consistent consistent) (performed.reported consistent) all
    reader stage

theorem call_turn (consistent : state.broker.router.Consistent) (source : PeerId)
    (member : MemberName) (body : Value) :
    Turn state (state.call control source member body)
      (.note (effective (Broker.busMethod control state.broker source
        (BusName.unique source) member body).changes)) := by
  have kept : (Broker.busMethod control state.broker source (BusName.unique source) member
        body).broker.router.Consistent ∧
      Explains Router.wellKnown state.broker.router.ownerOf
        (Broker.busMethod control state.broker source (BusName.unique source) member
          body).broker.router.ownerOf
        (Broker.busMethod control state.broker source (BusName.unique source) member
          body).changes := by
    by_cases attached : state.broker.router.isAttached source (BusName.unique source) = true
    · have moves := (Broker.busMethod_moves control state.broker source
        (BusName.unique source) member body).1
      exact moves.explains consistent (fun op own => own.issued attached)
    · rw [Broker.busMethod_silent attached, Broker.busMethod_unattached attached]
      exact ⟨consistent, .refl _ _⟩
  exact record_turn kept.1 kept.2 rfl (some source) .replying

theorem answer_turn (state : AnnounceState Host) (index : Nat) :
    ∃ act, Turn state (state.answer index) act ∧ ∀ name,
      state.Orderly name (AnnounceEvent.answer index : AnnounceEvent Host) →
        act.Orderly (names name) state.work := by
  unfold answer
  split
  · rename_i source owed found
    split
    · exact ⟨.pass, setAnnouncer_turn found .announcing, fun _ _ => trivial⟩
    · rename_i refusal gone
      obtain ⟨rest, whole, updated⟩ := Journal.owed_set Announcer.owed found
      have emptied := updated ⟨some source, .announcing, []⟩
      refine ⟨.lose owed, .worked rfl rfl (.lose (whole.trans ?_)), ?_⟩
      · exact emptied.symm.append_left owed
      · intro name orderly entry member
        rcases orderly source owed found with ⟨target, resolved⟩ | others
        · rw [resolved] at gone
          cases gone
        · simpa [names] using others entry member
  · exact ⟨.pass, still_turn state, fun _ _ => trivial⟩

theorem push_turn (state : AnnounceState Host) (index : Nat) (full : Bool) :
    ∃ act, Turn state (state.push index full) act ∧ ∀ name,
      state.Orderly name (AnnounceEvent.push index full : AnnounceEvent Host) →
        act.Orderly (names name) state.work := by
  unfold push
  split
  · rename_i reader picked entry owed found
    obtain ⟨rest, whole, updated⟩ := Journal.owed_set Announcer.owed found
    have popped := updated ⟨reader, .announcing, owed⟩
    have step : Journal.Step state.work (.finish entry) _ :=
      .finish (whole.trans (popped.symm.cons entry))
    refine ⟨.finish entry, .worked rfl rfl ?_, ?_⟩
    · unfold work
      rw [List.map_append]
      exact step
    · intro name orderly named
      have own : entry.1.name = name := of_decide_eq_true named
      intro other owing same
      exact (orderly reader picked entry owed found own).1 other owing
        (of_decide_eq_true same)
  · exact ⟨.pass, still_turn state, fun _ _ => trivial⟩

theorem issued_of_hosted {op : RouterOp} (hosted : op.Hosted) (router : Router) :
    op.Issued router := by
  cases op with
  | requestName _ _ => cases hosted
  | releaseName _ _ => cases hosted
  | addMatch _ _ => cases hosted
  | removeMatch _ _ => cases hosted
  | _ => trivial

theorem next_turn (control : ModuleControl Host) (watcher : Outbox)
    (consistent : state.broker.router.Consistent)
    {event : AnnounceEvent Host} (possible : state.Possible event) :
    ∃ act, Turn state (state.next control watcher event) act ∧ ∀ name,
      state.Orderly name event → act.Orderly (names name) state.work := by
  cases event with
  | call source member body =>
      exact ⟨_, call_turn consistent source member body, fun _ _ => trivial⟩
  | readerEnds source =>
      have told := (detach_effective state.broker.router source).symm
      exact ⟨_, perform_turn consistent (.detach source) trivial told (some source)
        .announcing, fun _ _ => trivial⟩
  | act op =>
      have told := told_effective state.broker.router op possible
      exact ⟨_, perform_turn consistent op (issued_of_hosted possible _) told none
        .announcing, fun _ _ => trivial⟩
  | reserve id name =>
      have told := (reserved_effective consistent possible).symm
      exact ⟨_, perform_turn consistent (.requestNameForUnique (BusName.unique id) name)
        trivial told none .withheld, fun _ _ => trivial⟩
  | hostMoves modules controller =>
      exact ⟨.pass, .worked rfl rfl (.pass (.refl _)), fun _ _ => trivial⟩
  | answer index => exact answer_turn state index
  | ready index =>
      change ∃ act, Turn state (state.ready index) act ∧ _
      unfold ready
      split
      · rename_i reader owed found
        exact ⟨.pass, setAnnouncer_turn found .announcing, fun _ _ => trivial⟩
      · exact ⟨.pass, still_turn state, fun _ _ => trivial⟩
  | aim index =>
      change ∃ act, Turn state (state.aim watcher index) act ∧ _
      unfold aim
      split
      · rename_i reader entry owed found
        exact ⟨.pass, setAnnouncer_turn found _, fun _ _ => trivial⟩
      · exact ⟨.pass, still_turn state, fun _ _ => trivial⟩
  | push index full => exact push_turn state index full

/-! ### What holds in every run -/

structure Sound (state : AnnounceState Host) : Prop where
  consistent : state.broker.router.Consistent
  accounts : state.work.Accounts
  effective : ∀ change ∈ state.ledger, change.oldOwner ≠ change.newOwner
  chain : ∀ name, Router.wellKnown name →
    Chain none (changesOf name state.ledger) (state.broker.router.ownerOf name)

theorem Turn.sound {act : Journal.Act NameChange} (turn : Turn before after act)
    (sound : before.Sound) : after.Sound := by
  cases turn with
  | @moved changes consistent explains noted =>
      have ledger : after.ledger = before.ledger ++ Ownership.effective changes :=
        noted.items_note
      refine ⟨consistent, noted.accounts sound.accounts, ?_, ?_⟩
      · intro change member
        rw [ledger] at member
        rcases List.mem_append.mp member with old | new
        · exact sound.effective change old
        · simpa using (List.mem_filter.mp new).2
      · intro name watched
        rw [ledger, changesOf_append, changesOf_effective]
        exact (sound.chain name watched).append (explains.chain watched).effective
  | worked table ledger step =>
      refine ⟨table ▸ sound.consistent, step.accounts sound.accounts, ?_, ?_⟩
      · rw [ledger]
        exact sound.effective
      · rw [ledger, table]
        exact sound.chain

theorem sound_fresh (fresh : Fresh state) : state.Sound := by
  obtain ⟨announcers, ledger, sent, lost⟩ := fresh.quiet
  refine ⟨fresh.table ▸ Router.consistent_empty, ?_, ?_, ?_⟩
  · change (state.sent.map Prod.fst ++ (state.outstanding ++ state.lost)).Perm
      state.ledger.zipIdx
    rw [outstanding, announcers, ledger, sent, lost]
    exact .refl _
  · simp [ledger]
  · intro name _
    rw [ledger, fresh.table]
    exact .nil

theorem reachable_sound (reached : (system control watcher).Reachable state) :
    state.Sound := by
  apply reached.invariant
  · intro first fresh
    exact sound_fresh fresh
  · intro before event after stepped sound
    obtain ⟨possible, rfl⟩ := stepped
    obtain ⟨act, turn, _⟩ := next_turn control watcher sound.consistent possible
    exact turn.sound sound

/-! ### What an orderly run lets the watcher hear -/

def sentOf (state : AnnounceState Host) (name : BusName) : List (Announcement × Bool) :=
  state.sent.filter (fun entry => names name entry.1.1)

def Attentive (name : BusName) (state : AnnounceState Host) : Prop :=
  ∃ missed got, state.sentOf name = missed ++ got ∧
    (∀ entry ∈ missed, entry.2 = false) ∧ ∀ entry ∈ got, entry.2 = true

theorem heard_eq (state : AnnounceState Host) (name : BusName) :
    state.heard name =
      ((state.sentOf name).filter (fun entry => entry.2)).map (fun entry => entry.1.1) := by
  rw [heard, sentOf, List.filter_filter]
  congr 2
  funext entry
  exact Bool.and_comm _ _

theorem heard_of_split {name : BusName} {missed got : List (Announcement × Bool)}
    (split : state.sentOf name = missed ++ got) (unheard : ∀ entry ∈ missed, entry.2 = false)
    (reached : ∀ entry ∈ got, entry.2 = true) :
    state.heard name = got.map (fun entry => entry.1.1) := by
  rw [heard_eq, split, List.filter_append]
  have first : missed.filter (fun entry => entry.2) = [] := by
    rw [List.filter_eq_nil_iff]
    intro entry member
    simp [unheard entry member]
  have second : got.filter (fun entry => entry.2) = got := by
    rw [List.filter_eq_self]
    exact reached
  rw [first, second, List.nil_append]

theorem next_sent (control : ModuleControl Host) (watcher : Outbox)
    (state : AnnounceState Host) (event : AnnounceEvent Host) :
    (state.next control watcher event).sent = state.sent ∨
      ∃ index full reader picked entry owed, event = .push index full ∧
        state.announcers[index]? = some ⟨reader, .aimed picked, entry :: owed⟩ ∧
          (state.next control watcher event).sent =
            state.sent ++ [(entry, picked && !full)] := by
  cases event with
  | answer index =>
      left
      change (state.answer index).sent = _
      unfold answer
      split
      · split
        · rfl
        · rfl
      · rfl
  | ready index =>
      left
      change (state.ready index).sent = _
      unfold ready
      split
      · rfl
      · rfl
  | aim index =>
      left
      change (state.aim watcher index).sent = _
      unfold aim
      split
      · rfl
      · rfl
  | push index full =>
      change (state.push index full).sent = _ ∨ _
      change _ ∨ ∃ index' full' reader picked entry owed, _ ∧ _ ∧ (state.push index full).sent = _
      unfold push
      split
      · rename_i reader picked entry owed found
        exact .inr ⟨index, full, reader, picked, entry, owed, rfl, found, rfl⟩
      · exact .inl rfl
  | _ => exact .inl rfl

theorem Attentive.next {name : BusName} {event : AnnounceEvent Host}
    (attentive : state.Attentive name) (orderly : state.Orderly name event) :
    (state.next control watcher event).Attentive name := by
  obtain ⟨missed, got, split, unheard, reached⟩ := attentive
  rcases next_sent control watcher state event with
    same | ⟨index, full, reader, picked, entry, owed, rfl, found, sent⟩
  · refine ⟨missed, got, ?_, unheard, reached⟩
    rw [sentOf, same]
    exact split
  · have grown : (state.next control watcher (.push index full)).sentOf name =
        state.sentOf name ++
          [(entry, picked && !full)].filter (fun entry => names name entry.1.1) := by
      rw [sentOf, sent, List.filter_append]
      rfl
    rw [split] at grown
    cases named : names name entry.1 with
    | false =>
        rw [List.filter_cons, if_neg (by simp [named])] at grown
        refine ⟨missed, got, ?_, unheard, reached⟩
        simpa using grown
    | true =>
        rw [List.filter_cons, if_pos named] at grown
        obtain ⟨_, arrives⟩ := orderly reader picked entry owed found (of_decide_eq_true named)
        cases delivered : (picked && !full) with
        | true =>
            rw [delivered] at grown
            refine ⟨missed, got ++ [(entry, true)], ?_, unheard, ?_⟩
            · simpa using grown
            · intro other member
              rcases List.mem_append.mp member with old | new
              · exact reached other old
              · rw [List.mem_singleton.mp new]
        | false =>
            rw [delivered] at arrives grown
            have unaware : state.heard name = [] := by
              rcases arrives with impossible | unaware
              · cases impossible
              · exact unaware
            rw [heard_of_split split unheard reached, List.map_eq_nil_iff] at unaware
            subst unaware
            refine ⟨missed ++ [(entry, false)], [], ?_, ?_, ?_⟩
            · simpa using grown
            · intro other member
              rcases List.mem_append.mp member with old | new
              · exact unheard other old
              · rw [List.mem_singleton.mp new]
            · intro other member
              cases member

/-- The announcements of a name are made in the order of the ledger, and heard from
some point on. -/
structure Faithful (name : BusName) (state : AnnounceState Host) : Prop where
  sound : state.Sound
  inOrder : state.work.InOrder (names name)
  attentive : state.Attentive name

theorem orderly_faithful {name : BusName}
    (reached : ((system control watcher).restrict (Orderly name)).Reachable state) :
    state.Faithful name := by
  apply reached.invariant
  · intro first fresh
    obtain ⟨announcers, ledger, sent, lost⟩ := fresh.quiet
    refine ⟨sound_fresh fresh, ⟨[], ?_, ?_⟩, ⟨[], [], ?_, ?_, ?_⟩⟩
    · simp [work, ledger, sent, Journal.selected]
    · simp [work, outstanding, announcers, Journal.selected]
    · simp [sentOf, sent]
    · simp
    · simp
  · intro before event after stepped faithful
    obtain ⟨orderly, possible, rfl⟩ := stepped
    obtain ⟨act, turn, spares⟩ :=
      next_turn control watcher faithful.sound.consistent possible
    refine ⟨turn.sound faithful.sound, ?_, faithful.attentive.next orderly⟩
    cases turn with
    | moved consistent explains noted =>
        exact noted.inOrder faithful.inOrder (spares name orderly)
    | worked table ledger step =>
        exact step.inOrder faithful.inOrder (spares name orderly)

structure HearsChain (name : BusName) (state : AnnounceState Host) : Prop where
  /-- What is heard is a stretch of the changes of the name, to their end once all of
  them are told. -/
  stretch : ∃ early late, changesOf name state.ledger =
    early ++ state.heard name ++ late ∧
      ((∀ entry ∈ state.outstanding, entry.1.name ≠ name) → late = [])
  /-- Each announcement starts from the owner that the one before it left. -/
  chained : ∀ early left right late,
    state.heard name = early ++ left :: right :: late → right.oldOwner = left.newOwner
  /-- Once all of the name is told, the last announcement tells its owner. -/
  settled : (∀ entry ∈ state.outstanding, entry.1.name ≠ name) →
    ∀ early final, state.heard name = early ++ [final] →
      state.broker.router.ownerOf name = final.newOwner

theorem Faithful.hearsChain {name : BusName} (faithful : state.Faithful name)
    (watched : Router.wellKnown name) : state.HearsChain name := by
  obtain ⟨missed, got, split, unheard, reached⟩ := faithful.attentive
  obtain ⟨late, ordered, complete⟩ := faithful.inOrder.done_prefix
  have heard := heard_of_split split unheard reached
  have told : (Journal.selected (names name) state.work.done).map Prod.fst =
      missed.map (fun entry => entry.1.1) ++ state.heard name := by
    have sent : Journal.selected (names name) (state.sent.map Prod.fst) =
        (state.sentOf name).map Prod.fst := by
      rw [Journal.selected, List.filter_map]
      rfl
    change (Journal.selected (names name) (state.sent.map Prod.fst)).map Prod.fst = _
    rw [sent, split, List.map_map, List.map_append, heard]
    rfl
  rw [told] at ordered
  have chain := faithful.sound.chain name watched
  have whole : changesOf name state.ledger =
      missed.map (fun entry => entry.1.1) ++ state.heard name ++ late := ordered.symm
  have finished : (∀ entry ∈ state.outstanding, entry.1.name ≠ name) → late = [] := by
    intro others
    apply complete
    rw [Journal.selected, List.filter_eq_nil_iff]
    intro entry member
    simpa [names] using others entry member
  refine ⟨⟨_, late, whole, finished⟩, ?_, ?_⟩
  · intro early left right rest shape
    rw [whole, shape, List.append_assoc, List.append_assoc, List.cons_append,
      List.cons_append, ← List.append_assoc] at chain
    exact chain.meets
  · intro others early final shape
    rw [whole, finished others, shape, List.append_nil, ← List.append_assoc] at chain
    exact chain.last_eq

/-- What the announcements of a broker say in every run. -/
structure AnnouncesChanges (control : ModuleControl Host) (watcher : Outbox)
    (state : AnnounceState Host) : Prop where
  /-- The ledger has every change of an owner, and no other. -/
  ledger : ∀ change ∈ state.ledger, change.oldOwner ≠ change.newOwner
  /-- For each name it goes from no owner to the owner in the table. -/
  chain : ∀ name, Router.wellKnown name →
    Chain none (changesOf name state.ledger) (state.broker.router.ownerOf name)
  /-- Every change is announced, outstanding or lost, one of these and once. -/
  account : (state.sent.map Prod.fst ++ (state.outstanding ++ state.lost)).Perm
    state.ledger.zipIdx
  /-- Where the announcements of a name do not overtake one another, its watcher
  hears its changes as a chain. -/
  orderly : ∀ name, Router.wellKnown name →
    ((system control watcher).restrict (Orderly name)).Reachable state →
      state.HearsChain name

theorem announces_changes (reached : (system control watcher).Reachable state) :
    state.AnnouncesChanges control watcher := by
  have sound := reachable_sound reached
  exact ⟨sound.effective, sound.chain, sound.accounts,
    fun name watched orderly => (orderly_faithful orderly).hearsChain watched⟩

/-! ### Two runs -/

def fresh : AnnounceState Unit := ⟨⟨Router.empty, "tinybus", none, none⟩, [], [], [], []⟩

def subscribes (source : PeerId) : AnnounceEvent Unit :=
  .call source MatchRule.addMember (.array [.string "member=NameOwnerChanged"])

def requests (source : PeerId) (name : BusName) : AnnounceEvent Unit :=
  .call source Broker.requestNameMember (.array [name.toValue])

def releases (source : PeerId) (name : BusName) : AnnounceEvent Unit :=
  .call source ⟨"ReleaseName", by rfl⟩ (.array [name.toValue])

def announces (index : Nat) : List (AnnounceEvent Unit) :=
  [.aim index, .push index false]

/-- Three peers attach, the second subscribes, and the first takes a name; it gives
the name up, and the third peer takes it. -/
def handover : List (AnnounceEvent Unit) :=
  [.act (.attach 0), .act (.attach 1), .act (.attach 2), subscribes 2, .answer 3,
    requests 1 voiceName, .answer 4] ++ announces 4 ++
    [releases 1 voiceName, requests 3 voiceName]

def inTurn : List (AnnounceEvent Unit) :=
  handover ++ [.answer 5] ++ announces 5 ++ [.answer 6] ++ announces 6

/-- The third peer announces before the first.  A module gets a name and goes before it
is ready, and the announcement of the next owner of that name meets a full queue. -/
def tangled : List (AnnounceEvent Unit) :=
  handover ++ [.answer 6] ++ announces 6 ++ [.answer 5] ++ announces 5 ++
    [.act (.attach 3), .reserve 4 mailName, .act (.detachUnique (BusName.unique 4))] ++
    announces 9 ++ announces 9 ++
    [requests 1 mailName, .answer 10, .aim 10, .push 10 true]

def admits (state : AnnounceState Unit) : AnnounceEvent Unit → Bool
  | .call source _ _ => state.announcers.all (fun announcer =>
      announcer.reader != some source || announcer.owed.isEmpty)
  | .readerEnds _ => false
  | .act (.attach _) => true
  | .act (.detachUnique _) => true
  | .act _ => false
  | .reserve id name => state.broker.router.ownerOf name != some (BusName.unique id)
  | _ => true

/-- Every announcement is the oldest outstanding and gets to the watcher, and every
caller is there for its answer. -/
def orderlyFor (state : AnnounceState Unit) : AnnounceEvent Unit → Bool
  | .answer index =>
      match state.announcers[index]? with
      | some ⟨some source, .replying, _⟩ =>
          (state.broker.router.resolve (BusName.unique source)).isOk
      | _ => true
  | .push index full =>
      match state.announcers[index]? with
      | some ⟨_, .aimed picked, entry :: _⟩ =>
          (picked && !full) &&
            state.outstanding.all (fun other => decide (entry.2 ≤ other.2))
      | _ => true
  | _ => true

def replayed (guard : AnnounceState Unit → AnnounceEvent Unit → Bool)
    (events : List (AnnounceEvent Unit)) : Option (AnnounceState Unit) :=
  replay (next emptyControl 1) (fun state event => admits state event && guard state event)
    fresh events

theorem admits_possible (state : AnnounceState Unit) (event : AnnounceEvent Unit)
    (admitted : admits state event = true) : state.Possible event := by
  cases event with
  | call source member body =>
      intro announcer member own
      have idle := List.all_eq_true.mp admitted announcer member
      rw [own] at idle
      simpa using idle
  | readerEnds source => cases admitted
  | act op =>
      cases op with
      | attach outbox => trivial
      | detachUnique unique => trivial
      | _ => cases admitted
  | reserve id name => simpa [admits, Possible] using admitted
  | _ => trivial

theorem orderlyFor_orderly (name : BusName) (state : AnnounceState Unit)
    (event : AnnounceEvent Unit) (orderly : orderlyFor state event = true) :
    state.Orderly name event := by
  cases event with
  | answer index =>
      intro source owed found
      left
      rw [orderlyFor, found] at orderly
      change (state.broker.router.resolve (BusName.unique source)).isOk = true at orderly
      cases resolved : state.broker.router.resolve (BusName.unique source) with
      | ok target => exact ⟨target, rfl⟩
      | error refusal =>
          rw [resolved] at orderly
          cases orderly
  | push index full =>
      intro reader picked entry owed found _
      rw [orderlyFor, found] at orderly
      obtain ⟨delivered, oldest⟩ := Bool.and_eq_true_iff.mp orderly
      refine ⟨?_, .inl delivered⟩
      intro other owing _
      exact of_decide_eq_true (List.all_eq_true.mp oldest other owing)
  | _ => trivial

theorem fresh_fresh : Fresh fresh := ⟨rfl, rfl, rfl, rfl, rfl⟩

theorem inTurn_announced :
    ∃ state : AnnounceState Unit, state.AnnouncesChanges emptyControl 1 ∧
      ((system emptyControl 1).restrict (Orderly voiceName)).Reachable state ∧
      state.outstanding = [] ∧
      state.broker.router.ownerOf voiceName = some (BusName.unique 3) ∧
      state.heard voiceName =
        [⟨voiceName, none, some (BusName.unique 1)⟩,
          ⟨voiceName, some (BusName.unique 1), none⟩,
          ⟨voiceName, none, some (BusName.unique 3)⟩] := by
  have run : (replayed orderlyFor inTurn).map (fun state =>
      (state.outstanding, state.broker.router.ownerOf voiceName, state.heard voiceName)) =
      some ([], some (BusName.unique 3),
        [⟨voiceName, none, some (BusName.unique 1)⟩,
          ⟨voiceName, some (BusName.unique 1), none⟩,
          ⟨voiceName, none, some (BusName.unique 3)⟩]) := by
    rfl
  obtain ⟨state, replayed, seen⟩ := Option.map_eq_some_iff.mp run
  rw [Prod.mk.injEq, Prod.mk.injEq] at seen
  have orderly : ((system emptyControl 1).restrict (Orderly voiceName)).Reachable state := by
    refine ⟨fresh, inTurn, fresh_fresh, System.Run.of_replay ?_ replayed⟩
    intro before event admitted
    obtain ⟨possible, spared⟩ := Bool.and_eq_true_iff.mp admitted
    exact ⟨orderlyFor_orderly voiceName before event spared,
      admits_possible before event possible, rfl⟩
  exact ⟨state, announces_changes orderly.of_restrict, orderly, seen⟩

/-- The third peer owns the name whose last announcement tells that nobody does; of
the other name only one change of three is told. -/
theorem tangled_announcements :
    ∃ state : AnnounceState Unit, (system emptyControl 1).Reachable state ∧
      state.outstanding = [(⟨mailName, none, some (BusName.unique 4)⟩, 3)] ∧
      state.broker.router.ownerOf voiceName = some (BusName.unique 3) ∧
      state.broker.router.ownerOf mailName = some (BusName.unique 1) ∧
      state.heard voiceName =
        [⟨voiceName, none, some (BusName.unique 1)⟩,
          ⟨voiceName, none, some (BusName.unique 3)⟩,
          ⟨voiceName, some (BusName.unique 1), none⟩] ∧
      state.heard mailName = [⟨mailName, some (BusName.unique 4), none⟩] := by
  have run : (replayed (fun _ _ => true) tangled).map (fun state =>
      (state.outstanding, state.broker.router.ownerOf voiceName,
        state.broker.router.ownerOf mailName, state.heard voiceName,
        state.heard mailName)) =
      some ([(⟨mailName, none, some (BusName.unique 4)⟩, 3)], some (BusName.unique 3),
        some (BusName.unique 1),
        [⟨voiceName, none, some (BusName.unique 1)⟩,
          ⟨voiceName, none, some (BusName.unique 3)⟩,
          ⟨voiceName, some (BusName.unique 1), none⟩],
        [⟨mailName, some (BusName.unique 4), none⟩]) := by
    rfl
  obtain ⟨state, replayed, seen⟩ := Option.map_eq_some_iff.mp run
  rw [Prod.mk.injEq, Prod.mk.injEq, Prod.mk.injEq, Prod.mk.injEq] at seen
  refine ⟨state, ⟨fresh, tangled, fresh_fresh, System.Run.of_replay ?_ replayed⟩, seen⟩
  intro before event admitted
  exact ⟨admits_possible before event (Bool.and_eq_true_iff.mp admitted).1, rfl⟩

end AnnounceState

end TinyBus
