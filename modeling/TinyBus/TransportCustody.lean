import TinyBus.NativeCalls

/-
Who has the message of a send.  A message is with its own send, in the queue, with
the drainer or with the answers that a fault writes; from there it is delivered,
answered or discarded, and every action hands it on to one of these.
-/

namespace TinyBus

namespace ModuleTransport

/-! ### What the actions know of the sends -/

def Queued (shared : Shared) (entry : Entry) : Prop :=
  entry ∈ shared.sent ∧ Shared.isCall entry.message = true

def Delivery.Known (self : Nat) (shared : Shared) (delivery : Delivery) : Prop :=
  if delivery.queued then Queued shared ⟨delivery.id, delivery.message⟩
  else delivery.id = self ∧ ⟨self, delivery.message⟩ ∈ shared.sent

/-- A message that does not wait for READY: no call, or one of the controller that
binds the module. -/
def Privileged (shared : Shared) (message : Message) : Prop :=
  Shared.isCall message = false ∨ message.header.confidential = true ∧
    ∃ peer, shared.controller = some peer ∧ message.header.sender = some peer

def InitUse.Known (self : Nat) (shared : Shared) : InitUse → Prop
  | .send message => ⟨self, message⟩ ∈ shared.sent
  | .host => True
  | .reinit _ => True

def Action.Known (self : Nat) (shared : Shared) : Action → Prop
  | .arrive _ => ∀ entry ∈ shared.sent, entry.id ≠ self
  | .gate use => use.Known self shared
  | .schedule use => use.Known self shared
  | .await use _ => use.Known self shared
  | .fail use _ => use.Known self shared
  | .answerFailed message => ⟨self, message⟩ ∈ shared.sent
  | .authorize message => ⟨self, message⟩ ∈ shared.sent
  | .enqueue message bypass => ⟨self, message⟩ ∈ shared.sent ∧
      (bypass.isSome = true → Privileged shared message)
  | .frame delivery => delivery.Known self shared
  | .check delivery => delivery.Known self shared
  | .enter delivery => delivery.Known self shared
  | .permit delivery => delivery.Known self shared
  | .delivering delivery => delivery.Known self shared
  | .backpressure delivery => delivery.Known self shared
  | .stalled delivery => delivery.Known self shared
  | .expire delivery => delivery.Known self shared
  | .undelivered delivery _ => delivery.Known self shared
  | .faultPending failed _ => Queued shared failed
  | .clone failed => ∀ entry ∈ failed, Queued shared entry
  | .answer failed => ∀ entry ∈ failed, Queued shared entry
  | _ => True

def Action.silent : Action → Bool
  | .arrive _ => false
  | .gate _ => false
  | .schedule _ => false
  | .await _ _ => false
  | .fail _ _ => false
  | .answerFailed _ => false
  | .authorize _ => false
  | .enqueue _ _ => false
  | .frame _ => false
  | .check _ => false
  | .enter _ => false
  | .permit _ => false
  | .delivering _ => false
  | .backpressure _ => false
  | .stalled _ => false
  | .expire _ => false
  | .undelivered _ _ => false
  | .faultPending _ _ => false
  | .clone _ => false
  | .answer _ => false
  | _ => true

section

variable {toVec : Message → Except String Bytes} {self : Nat} {shared after : Shared}
  {action : Action} {more : Program}

theorem known_of_silent (silent : action.silent = true) : action.Known self shared := by
  cases action <;> trivial

theorem all_known_of_silent {program : Program}
    (silent : program.all Action.silent = true) :
    ∀ action ∈ program, action.Known self shared := by
  intro action member
  exact known_of_silent (List.all_eq_true.mp silent action member)

theorem sent_grows (acts : Acts toVec self shared action after more) :
    after.sent = shared.sent ∨
      ∃ message, action = .arrive message ∧ after.sent = shared.sent ++ [⟨self, message⟩] := by
  cases acts with
  | notes notes => cases notes <;> exact .inl rfl
  | arrives => exact .inr ⟨_, rfl, rfl⟩
  | arrivesLate => exact .inr ⟨_, rfl, rfl⟩
  | _ => exact .inl rfl

theorem sent_mono (acts : Acts toVec self shared action after more) :
    shared.sent ⊆ after.sent := by
  rcases sent_grows acts with same | ⟨message, _, grown⟩
  · rw [same]
    exact fun _ member => member
  · rw [grown]
    exact List.subset_append_left _ _

theorem Queued.mono (more : shared.sent ⊆ after.sent) {entry : Entry}
    (queued : Queued shared entry) : Queued after entry :=
  ⟨more queued.1, queued.2⟩

theorem Delivery.Known.mono (more : shared.sent ⊆ after.sent) {delivery : Delivery}
    (known : delivery.Known self shared) : delivery.Known self after := by
  unfold Delivery.Known at known ⊢
  split at known
  · rename_i queued
    rw [if_pos queued]
    exact known.mono more
  · rename_i direct
    rw [if_neg direct]
    exact ⟨known.1, more known.2⟩

theorem InitUse.Known.mono (more : shared.sent ⊆ after.sent) {use : InitUse}
    (known : use.Known self shared) : use.Known self after := by
  cases use with
  | send message => exact more known
  | host => trivial
  | reinit config => trivial

theorem bypass_privileged {message : Message}
    (authorized : (shared.authorizedPreReadyPeer message).isSome = true) :
    Privileged shared message := by
  unfold Shared.authorizedPreReadyPeer at authorized
  split at authorized
  · cases authorized
  · rename_i confidential
    rw [Bool.or_eq_true, not_or, Bool.not_eq_true', Bool.not_eq_true',
      Bool.not_eq_false, Bool.not_eq_false] at confidential
    split at authorized
    · cases authorized
    · split at authorized
      · cases authorized
      · rename_i controller bound
        split at authorized
        · cases authorized
        · rename_i sender
          rw [Bool.or_eq_true, not_or, decide_eq_true_iff, not_not] at sender
          exact .inr ⟨confidential.2, controller, bound, sender.1⟩

theorem controller_stays (acts : Acts toVec self shared action after more) :
    after.controller = shared.controller := by
  cases acts with
  | notes notes => cases notes <;> rfl
  | _ => rfl

theorem Privileged.kept (same : after.controller = shared.controller) {message : Message}
    (privileged : Privileged shared message) : Privileged after message := by
  rcases privileged with reply | ⟨confidential, peer, bound, sender⟩
  · exact .inl reply
  · exact .inr ⟨confidential, peer, same.trans bound, sender⟩

theorem Action.Known.mono (more : shared.sent ⊆ after.sent)
    (same : after.controller = shared.controller)
    (later : ∀ message, action ≠ .arrive message) (known : action.Known self shared) :
    action.Known self after := by
  cases action with
  | arrive message => exact absurd rfl (later message)
  | gate use => exact InitUse.Known.mono more known
  | schedule use => exact InitUse.Known.mono more known
  | await use initiating => exact InitUse.Known.mono more known
  | fail use error => exact InitUse.Known.mono more known
  | answerFailed message => exact more known
  | authorize message => exact more known
  | enqueue message bypass => exact ⟨more known.1, fun some => (known.2 some).kept same⟩
  | frame delivery => exact Delivery.Known.mono more known
  | check delivery => exact Delivery.Known.mono more known
  | enter delivery => exact Delivery.Known.mono more known
  | permit delivery => exact Delivery.Known.mono more known
  | delivering delivery => exact Delivery.Known.mono more known
  | backpressure delivery => exact Delivery.Known.mono more known
  | stalled delivery => exact Delivery.Known.mono more known
  | expire delivery => exact Delivery.Known.mono more known
  | undelivered delivery error => exact Delivery.Known.mono more known
  | faultPending failed error => exact Queued.mono more known
  | clone failed => exact fun entry member => (known entry member).mono more
  | answer failed => exact fun entry member => (known entry member).mono more
  | _ => trivial

private theorem send_known (known : action.Known self shared)
    (looks : LooksSend self shared action more) :
    ∀ next ∈ more, next.Known self shared := by
  cases looks with
  | gateFails => exact List.forall_mem_singleton.mpr known
  | gatePasses => exact List.forall_mem_singleton.mpr known
  | scheduleFails => exact List.forall_mem_singleton.mpr known
  | scheduleFollows => exact List.forall_mem_singleton.mpr known
  | @awaitSucceeds use _ =>
      cases use with
      | send message => exact List.forall_mem_singleton.mpr known
      | host => exact all_known_of_silent rfl
      | reinit config => exact all_known_of_silent rfl
  | awaitFails => exact List.forall_mem_singleton.mpr known
  | @awaitExpires _ initiating _ =>
      cases initiating with
      | false => exact List.forall_mem_singleton.mpr known
      | true => exact List.forall_mem_cons.mpr ⟨trivial, List.forall_mem_singleton.mpr known⟩
  | @awaitCanceled _ initiating =>
      cases initiating <;> exact all_known_of_silent rfl
  | failClosed _ => exact all_known_of_silent rfl
  | failHost => exact all_known_of_silent rfl
  | failReinit => exact all_known_of_silent rfl
  | authorizes => exact List.forall_mem_singleton.mpr ⟨known, bypass_privileged⟩
  | enqueueClosed _ => exact all_known_of_silent rfl

private theorem delivery_known (known : action.Known self shared)
    (looks : LooksDelivery toVec shared action more) :
    ∀ next ∈ more, next.Known self shared := by
  cases looks with
  | frames _ =>
      unfold Shared.frameOf
      split
      · exact List.forall_mem_singleton.mpr known
      · split <;> exact List.forall_mem_singleton.mpr known
  | @hands delivery error queued =>
      have handed : delivery.Known self shared := known
      unfold Delivery.Known at handed
      rw [if_pos queued] at handed
      exact List.forall_mem_singleton.mpr handed
  | answerLost _ =>
      exact List.forall_mem_singleton.mpr fun entry member =>
        known entry (List.mem_cons_of_mem _ member)
  | frameClosed _ => exact List.forall_mem_singleton.mpr known
  | checkClosed _ => exact List.forall_mem_singleton.mpr known
  | checks _ => exact List.forall_mem_singleton.mpr known
  | enterRefused => exact List.forall_mem_singleton.mpr known
  | pressClosed _ => exact List.forall_mem_singleton.mpr known
  | presses => exact List.forall_mem_singleton.mpr known
  | wakes => exact List.forall_mem_singleton.mpr known
  | expires => exact List.forall_mem_singleton.mpr known
  | expireClosed _ => exact List.forall_mem_singleton.mpr known
  | clones _ => exact List.forall_mem_singleton.mpr known
  | _ => exact all_known_of_silent rfl

theorem known_follows (acts : Acts toVec self shared action after more)
    (known : action.Known self shared) (queued : ∀ entry ∈ shared.pending, Queued shared entry) :
    ∀ next ∈ more, next.Known self after := by
  cases acts with
  | sendLooks looks => exact send_known known looks
  | deliveryLooks looks => exact delivery_known known looks
  | physicalLooks looks => cases looks <;> exact all_known_of_silent rfl
  | reinitLooks looks =>
      cases looks with
      | initializing =>
          exact List.forall_mem_cons.mpr ⟨trivial, List.forall_mem_singleton.mpr trivial⟩
      | _ => exact all_known_of_silent rfl
  | locks takes _ => cases takes <;> exact all_known_of_silent rfl
  | notes notes =>
      cases notes with
      | @releases allowed => cases allowed <;> exact all_known_of_silent rfl
      | noInitializer => exact List.forall_mem_singleton.mpr known
      | _ => exact all_known_of_silent rfl
  | arrives =>
      exact List.forall_mem_singleton.mpr (List.mem_append_right _ (List.mem_singleton_self _))
  | schedules _ _ =>
      exact List.forall_mem_cons.mpr ⟨trivial, List.forall_mem_singleton.mpr known⟩
  | fails =>
      split
      · exact List.forall_mem_cons.mpr ⟨known, all_known_of_silent rfl⟩
      · exact all_known_of_silent rfl
  | goesDirect _ _ => exact List.forall_mem_singleton.mpr ⟨rfl, known.1⟩
  | enters _ => exact List.forall_mem_singleton.mpr known
  | permitRefused => exact List.forall_mem_singleton.mpr known
  | permits => exact List.forall_mem_singleton.mpr known
  | delivers =>
      unfold Shared.afterDelivery
      split <;> exact all_known_of_silent rfl
  | pushesBack => exact List.forall_mem_singleton.mpr known
  | deliveryFails => exact List.forall_mem_singleton.mpr known
  | expires _ =>
      refine List.forall_mem_append.mpr ⟨all_known_of_silent rfl, ?_⟩
      exact List.forall_mem_cons.mpr ⟨trivial, List.forall_mem_singleton.mpr known⟩
  | pops pending =>
      rw [pending] at queued
      exact List.forall_mem_singleton.mpr (queued _ (List.mem_cons_self ..))
  | faultsPending =>
      refine List.forall_mem_singleton.mpr ?_
      exact List.forall_mem_append.mpr ⟨queued, List.forall_mem_singleton.mpr known⟩
  | answers =>
      exact List.forall_mem_singleton.mpr fun entry member =>
        known entry (List.mem_cons_of_mem _ member)
  | takesJob _ => split <;> exact all_known_of_silent rfl
  | publishesInit => split <;> exact all_known_of_silent rfl
  | _ => exact all_known_of_silent rfl

theorem pending_queued (acts : Acts toVec self shared action after more)
    (known : action.Known self shared) (queued : ∀ entry ∈ shared.pending, Queued shared entry) :
    ∀ entry ∈ after.pending, Queued after entry := by
  have mono := sent_mono acts
  cases acts with
  | notes notes => cases notes <;> exact queued
  | arrives => exact fun entry member => (queued entry member).mono mono
  | arrivesLate => exact fun entry member => (queued entry member).mono mono
  | queues _ call _ _ _ =>
      refine List.forall_mem_append.mpr ⟨queued, List.forall_mem_singleton.mpr ?_⟩
      exact ⟨known.1, call⟩
  | pops pending =>
      rw [pending] at queued
      exact fun entry member => queued entry (List.mem_cons_of_mem _ member)
  | dropsPending _ => exact fun entry member => nomatch member
  | faultsPending => exact fun entry member => nomatch member
  | closes => exact fun entry member => nomatch member
  | closesSync => exact fun entry member => nomatch member
  | _ => exact queued

end

/-! ### What the transport knows of the sends -/

/-- Every send is recorded once, by the task that runs it, and what waits in the queue
was sent. -/
structure Recorded (state : Tasks Shared Program) : Prop where
  once : (state.shared.sent.map Entry.id).Nodup
  started : ∀ entry ∈ state.shared.sent, (state.tasks.lookup entry.id).isSome = true
  queued : ∀ entry ∈ state.shared.pending, Queued state.shared entry

def Action.arrives : Action → Bool
  | .arrive _ => true
  | _ => false

structure Knows (id : Nat) (shared : Shared) (program : Program) : Prop where
  known : ∀ action ∈ program, action.Known id shared
  first : program.tail.all (fun action => !action.arrives) = true

section

variable {toVec : Message → Except String Bytes} {self : Nat} {shared after : Shared}
  {action : Action} {more : Program}

private theorem never_arrives (acts : Acts toVec self shared action after more) :
    more.all (fun action => !action.arrives) = true := by
  cases acts with
  | sendLooks looks =>
      cases looks with
      | @awaitSucceeds use _ => cases use <;> rfl
      | @awaitExpires _ initiating _ => cases initiating <;> rfl
      | @awaitCanceled _ initiating => cases initiating <;> rfl
      | _ => rfl
  | deliveryLooks looks =>
      cases looks with
      | frames _ =>
          unfold Shared.frameOf
          split
          · rfl
          · split <;> rfl
      | _ => rfl
  | physicalLooks looks => cases looks <;> rfl
  | reinitLooks looks => cases looks <;> rfl
  | locks takes _ => cases takes <;> rfl
  | notes notes =>
      cases notes with
      | @releases allowed => cases allowed <;> rfl
      | _ => rfl
  | fails => split <;> rfl
  | delivers =>
      unfold Shared.afterDelivery
      split <;> rfl
  | takesJob _ => split <;> rfl
  | publishesInit => split <;> rfl
  | _ => rfl

private theorem not_arrive_of_all {program : Program}
    (never : program.all (fun action => !action.arrives) = true) (member : action ∈ program) :
    ∀ message, action ≠ .arrive message := by
  rintro message rfl
  have arrives := List.all_eq_true.mp never _ member
  cases arrives

end

private theorem knows_call {id : Nat} {shared : Shared}
    (vacant : ∀ entry ∈ shared.sent, entry.id ≠ id) (call : Call) :
    Knows id shared (program call) := by
  cases call with
  | send message => exact ⟨List.forall_mem_singleton.mpr vacant, rfl⟩
  | ensureInitialized => exact ⟨List.forall_mem_singleton.mpr trivial, rfl⟩
  | _ => exact ⟨all_known_of_silent rfl, rfl⟩

variable {toVec : Message → Except String Bytes}

private theorem around_kept (event : Outside) (shared : Shared) :
    (outside event shared).sent = shared.sent ∧
      (outside event shared).pending = shared.pending ∧
      (outside event shared).controller = shared.controller := by
  cases event <;> exact ⟨rfl, rfl, rfl⟩

private theorem knows_kept :
    Tasks.Keeps (kind toVec) Recorded Knows (fun _ _ => True) where
  start := by
    intro state id call sound _ vacant
    refine ⟨⟨sound.common.once, ?_, sound.common.queued⟩, ?_⟩
    · intro entry member
      rw [Table.lookup_insert_eq]
      split
      · rfl
      · exact sound.common.started entry member
    · refine knows_call ?_ call
      rintro entry member rfl
      have started := sound.common.started entry member
      rw [vacant] at started
      cases started
  step := by
    intro state id choice task shared stepped sound _ present taken
    obtain ⟨action, rest, more, rfl, rfl, acts⟩ := step_acts taken
    have knows := sound.own id _ present
    have known := List.forall_mem_cons.mp knows.known
    have mono := sent_mono acts
    refine ⟨⟨?_, ?_, pending_queued acts known.1 sound.common.queued⟩, ?_, ?_⟩
    · rcases sent_grows acts with same | ⟨message, rfl, grown⟩
      · rw [same]
        exact sound.common.once
      · rw [grown, List.map_append, List.map_singleton]
        refine List.nodup_append.mpr ⟨sound.common.once, List.nodup_singleton _, ?_⟩
        intro before earlier now latest
        obtain ⟨entry, member, rfl⟩ := List.mem_map.mp earlier
        rw [List.mem_singleton.mp latest]
        exact known.1 entry member
    · intro entry member
      rw [Table.lookup_insert_eq]
      split
      · rfl
      · rename_i different
        rcases sent_grows acts with same | ⟨message, _, grown⟩
        · exact sound.common.started entry (same ▸ member)
        · rw [grown] at member
          rcases List.mem_append.mp member with earlier | latest
          · exact sound.common.started entry earlier
          · rw [List.mem_singleton.mp latest] at different
            exact absurd rfl different
    · refine List.forall_mem_append.mpr
        ⟨known_follows acts known.1 sound.common.queued, ?_⟩
      intro next member
      exact (known.2 next member).mono mono (controller_stays acts) (not_arrive_of_all knows.first member)
    · have never : (more ++ rest).all (fun action => !action.arrives) = true := by
        rw [List.all_append, never_arrives acts, Bool.true_and]
        exact knows.first
      cases whole : more ++ rest with
      | nil => rfl
      | cons head tail =>
          rw [whole, List.all_cons, Bool.and_eq_true] at never
          exact never.2
  other := by
    intro state id choice task shared stepped other bystander sound _ present taken different
      beside
    obtain ⟨action, rest, more, rfl, rfl, acts⟩ := step_acts taken
    have knows := sound.own other bystander beside
    refine ⟨?_, knows.first⟩
    intro waiting member
    have known := knows.known waiting member
    cases waiting with
    | arrive message =>
        rcases sent_grows acts with same | ⟨_, _, grown⟩
        · intro entry sent
          rw [same] at sent
          exact known entry sent
        · intro entry sent
          rw [grown] at sent
          rcases List.mem_append.mp sent with earlier | latest
          · exact known entry earlier
          · rw [List.mem_singleton.mp latest]
            exact fun same => different same.symm
    | _ => exact known.mono (sent_mono acts) (controller_stays acts) (fun _ same => nomatch same)
  outside := by
    intro state event sound _
    obtain ⟨sent, pending, controller⟩ := around_kept event state.shared
    refine ⟨⟨?_, ?_, ?_⟩, ?_⟩
    · dsimp only [kind]
      rw [sent]
      exact sound.common.once
    · dsimp only [kind]
      rw [sent]
      exact sound.common.started
    · dsimp only [kind]
      rw [pending]
      exact fun entry member => (sound.common.queued entry member).mono (by rw [sent]; simp)
    · intro id task present
      have knows := sound.own id task present
      refine ⟨?_, knows.first⟩
      intro action member
      have known := knows.known action member
      dsimp only [kind]
      cases action with
      | arrive message =>
          intro entry earlier
          rw [sent] at earlier
          exact known entry earlier
      | _ => exact known.mono (by rw [sent]; simp) controller (fun _ same => nomatch same)

theorem reachable_knows {state : Tasks Shared Program}
    (reached : (system toVec).Reachable state) : Tasks.Sound Recorded Knows state := by
  have admitted : ((system toVec).restrict (fun _ _ => True)).Reachable state :=
    reached.of_guard (fun _ _ => trivial)
  refine Tasks.sound_of_keeps knows_kept ?_ admitted
  intro first fresh empty
  refine ⟨?_, ?_, ?_⟩
  · rw [fresh.history.2.1]
    exact List.nodup_nil
  · rw [fresh.history.2.1]
    exact fun entry member => nomatch member
  · rw [fresh.queue.1]
    exact fun entry member => nomatch member

def Next (test : Nat → Shared → Action → Prop) (state : Tasks Shared Program)
    (event : Tasks.Event Call Choice Outside) : Prop :=
  ∀ id choice action rest, event = .advance id choice →
    state.tasks.lookup id = some (action :: rest) → test id state.shared action

theorem next_known {state : Tasks Shared Program}
    (reached : (system toVec).Reachable state) (event : Tasks.Event Call Choice Outside) :
    Next (fun id shared action => action.Known id shared) state event := by
  intro id choice action rest _ present
  exact (reachable_knows reached).own id _ present |>.known action (List.mem_cons_self ..)

/-! ### The drainer -/

/-- The drainer, with the deliveries that it makes and what it does when one fails. -/
def Action.drains : Action → Nat
  | .frame delivery => delivery.queued.toNat
  | .check delivery => delivery.queued.toNat
  | .enter delivery => delivery.queued.toNat
  | .permit delivery => delivery.queued.toNat
  | .delivering delivery => delivery.queued.toNat
  | .backpressure delivery => delivery.queued.toNat
  | .stalled delivery => delivery.queued.toNat
  | .expire delivery => delivery.queued.toNat
  | .undelivered delivery _ => delivery.queued.toNat
  | .waitReady => 1
  | .drain => 1
  | .pop => 1
  | .recheck => 1
  | .finishDrain => 1
  | .endDrain => 1
  | .faultPending _ _ => 1
  | .clone _ => 1
  | .answer _ => 1
  | _ => 0

/-- The drainer where no task runs it: it was spawned, or none was asked for. -/
def Shared.drains (shared : Shared) : Nat := (!shared.drainStarted).toNat + shared.drainers

section

variable {self : Nat} {shared after : Shared} {action : Action} {more : Program}

private theorem drains_delivery (looks : LooksDelivery toVec shared action more) :
    weigh Action.drains more = action.drains := by
  cases looks with
  | frames _ =>
      unfold Shared.frameOf
      split
      · rfl
      · split <;> rfl
  | @hands delivery error queued =>
      change 1 = delivery.queued.toNat
      rw [queued]
      rfl
  | _ => rfl

private theorem drains_back (ends : action.drains = 1) :
    { shared with drainStarted := false }.drains + weigh Action.drains [] =
        shared.drains + action.drains ∨
      shared.drainStarted = false ∧ action.drains = 1 ∧
        { shared with drainStarted := false }.drains + weigh Action.drains [] ≤
          shared.drains + action.drains := by
  rw [ends]
  unfold Shared.drains
  cases started : shared.drainStarted with
  | true =>
      left
      simp [weigh, Nat.add_comm]
  | false =>
      right
      simp [weigh]

private theorem drains_passed (acts : Acts toVec self shared action after more) :
    after.drains + weigh Action.drains more = shared.drains + action.drains ∨
      shared.drainStarted = false ∧ action.drains = 1 ∧
        after.drains + weigh Action.drains more ≤ shared.drains + action.drains := by
  cases acts with
  | canceled waits =>
      left
      cases waits with
      | @stalled delivery direct =>
          change shared.drains = shared.drains + delivery.queued.toNat
          rw [direct]
          rfl
      | _ => rfl
  | sendLooks looks =>
      left
      cases looks with
      | @awaitSucceeds use _ => cases use <;> rfl
      | @awaitExpires _ initiating _ => cases initiating <;> rfl
      | @awaitCanceled _ initiating => cases initiating <;> rfl
      | _ => rfl
  | deliveryLooks looks => exact .inl (by rw [drains_delivery looks])
  | physicalLooks looks => cases looks <;> exact .inl rfl
  | reinitLooks looks => cases looks <;> exact .inl rfl
  | locks takes _ => cases takes <;> exact .inl rfl
  | notes notes =>
      cases notes with
      | @releases allowed => cases allowed <;> exact .inl rfl
      | _ => exact .inl rfl
  | fails => split <;> exact .inl rfl
  | queues _ _ _ _ spawned =>
      left
      unfold Shared.drains
      rw [spawned]
      cases shared.drainStarted with
      | false => simp [weigh, Action.drains, Nat.add_comm]
      | true => simp [weigh, Action.drains]
  | @delivers delivery =>
      left
      change shared.drains + _ = shared.drains + delivery.queued.toNat
      unfold Shared.afterDelivery
      cases delivery.queued <;> rfl
  | @expires delivery _ _ =>
      left
      change shared.drains + _ = shared.drains + delivery.queued.toNat
      simp [weigh, Action.drains, requestTerminal]
  | @refuses delivery _ _ direct =>
      left
      change shared.drains = shared.drains + delivery.queued.toNat
      rw [direct]
      rfl
  | takesDrain spawned =>
      left
      unfold Shared.drains
      simp [weigh, Action.drains]
      omega
  | finishesDrain _ => exact drains_back rfl
  | endsDrain => exact drains_back rfl
  | takesJob _ => split <;> exact .inl rfl
  | publishesInit => split <;> exact .inl rfl
  | _ => exact .inl rfl

end

private theorem drains_call (call : Call) : weigh Action.drains (program call) = 0 := by
  cases call <;> rfl

private theorem around_drains (event : Outside) (shared : Shared) :
    (outside event shared).drains = shared.drains := by
  cases event <;> rfl

private theorem drains_fresh {shared : Shared} (fresh : Fresh shared) : shared.drains = 1 := by
  obtain ⟨_, idle, none⟩ := fresh.queue
  unfold Shared.drains
  rw [idle, none]
  rfl

private theorem drains_le_one {state : Tasks Shared Program}
    (reached : (system toVec).Reachable state) :
    state.shared.drains + Tasks.weight (fun _ => weigh Action.drains) state.tasks ≤ 1 := by
  have lightens : Tasks.Lightens (kind toVec) (fun _ _ => True) Shared.drains
      (fun _ => weigh Action.drains) := by
    apply lightens_of_acts
    · exact fun _ call => drains_call call
    · intro state id choice action rest after more _ _ acts
      rcases drains_passed acts with same | ⟨_, _, less⟩
      · exact same.le
      · exact less
    · exact fun event shared => (around_drains event shared).le
  exact Tasks.total_le_of_unguarded lightens (fun _ fresh => (drains_fresh fresh).le) reached

theorem drains_one {state : Tasks Shared Program} (reached : (system toVec).Reachable state) :
    state.shared.drains + Tasks.weight (fun _ => weigh Action.drains) state.tasks = 1 := by
  refine Nat.le_antisymm (drains_le_one reached) ?_
  have known : ((system toVec).restrict (fun _ _ => True)).Reachable state :=
    reached.of_guard (fun _ _ => trivial)
  have steady : Tasks.Lightens (M := Natᵒᵈ) (kind toVec)
      (fun state event => Next (fun _ shared action =>
        action.drains = 1 → shared.drainStarted = true) state event)
      Shared.drains (fun _ => weigh Action.drains) := by
    apply lightens_of_acts (M := Natᵒᵈ)
    · exact fun _ call => drains_call call
    · intro state id choice action rest after more started present acts
      rcases drains_passed acts with same | ⟨stopped, ends, _⟩
      · exact same.ge
      · rw [started _ _ _ _ rfl present ends] at stopped
        cases stopped
    · exact fun event shared => (around_drains event shared).ge
  refine Tasks.le_total steady ?_ (fun _ fresh => (drains_fresh fresh).ge) known
  rintro before event earlier _ id choice action rest rfl present ends
  -- A drainer that is at work is the only one, and so the flag is taken.
  have one := drains_le_one earlier.of_restrict
  have own := Tasks.own_le_weight (fun _ task => Nat.zero_le (weigh Action.drains task)) present
  rw [weigh_cons, ends] at own
  unfold Shared.drains at one
  cases started : before.shared.drainStarted with
  | true => rfl
  | false =>
      rw [started] at one
      simp at one
      omega

end ModuleTransport

end TinyBus
