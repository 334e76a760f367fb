import TinyBus.TransportOrder

/-
Which calls a module is given before READY.  A send looks for READY twice, when it
authorizes its message and when it takes it to the queue, and a delivery looks for the
controller once more.  Between these anything may happen to the transport; but the
flags only go one way, and what a send found stays found.
-/

namespace TinyBus

namespace ModuleTransport

/-- What lets a call in before READY: it is a confidential one of the controller, on a
route of the initialization, and the initializer was started. -/
structure Early (shared : Shared) (message : Message) (peer : BusName) : Prop where
  confidential : message.header.confidential = true
  selected : shared.controller = some peer
  sender : message.header.sender = some peer
  route : ∃ route ∈ shared.preReadyConfidentialRoutes,
    message.header.path = some route.1 ∧ message.header.interface = some route.2.1 ∧
      message.header.member = some route.2.2
  begun : shared.initStarted = true
  routed : shared.brokerRouting = true

def Cleared (shared : Shared) (message : Message) : Prop :=
  shared.ready = true ∨ ∃ peer, Early shared message peer

/-- Only a delivery of the send itself goes ahead of READY, and it keeps its controller. -/
def Delivery.Cleared (shared : Shared) (delivery : Delivery) : Prop :=
  shared.ready = true ∨ delivery.queued = false ∧
    (Shared.isCall delivery.message = true →
      ∃ peer, delivery.requiredController = some peer ∧ Early shared delivery.message peer)

def Action.Admitted (shared : Shared) : Action → Prop
  | .enqueue message bypass => ∀ peer, bypass = some peer → Early shared message peer
  | .permit _ => .init ∈ shared.calls
  | .drain => shared.ready = true ∨ shared.ended = true
  | .recheck => shared.ready = true ∨ shared.ended = true
  | .finishDrain => shared.ready = true ∨ shared.ended = true
  | .pop => shared.ready = true
  | .initReturns => .init ∈ shared.calls
  | .eagerReturns => .init ∈ shared.calls
  | _ => True

def Action.free : Action → Bool
  | .enqueue _ _ => false
  | .permit _ => false
  | .drain => false
  | .recheck => false
  | .finishDrain => false
  | .pop => false
  | .initReturns => false
  | .eagerReturns => false
  | _ => true

def Action.approaches : Action → Bool
  | .gate use => use.sends
  | .schedule use => use.sends
  | .await use _ => use.sends
  | .fail use _ => use.sends
  | .authorize _ => true
  | .enqueue _ _ => true
  | _ => false

/-- The end of a send that did not accept its message. -/
def Action.refused : Action → Bool
  | .returned (.error _) => true
  | .canceled => true
  | _ => false

def Action.withholds (action : Action) : Bool := action.approaches || action.refused

/-! ### What only goes one way -/

structure Advances (shared after : Shared) : Prop where
  ready : shared.ready = true → after.ready = true
  ended : shared.ended = true → after.ended = true
  begun : shared.initStarted = true → after.initStarted = true
  routed : shared.brokerRouting = true → after.brokerRouting = true
  controller : after.controller = shared.controller
  routes : after.preReadyConfidentialRoutes = shared.preReadyConfidentialRoutes
  calls : shared.calls ⊆ after.calls

section

variable {toVec : Message → Except String Bytes} {self : Nat} {shared after : Shared}
  {action next : Action} {choice : Choice} {more : Program} {message : Message}
  {peer : BusName} {delivery : Delivery}

theorem acts_advance (acts : Acts toVec self shared action after more) :
    Advances shared after := by
  have ended : shared.ended = true → after.ended = true := ended_stays acts
  have controller := controller_stays acts
  have kept {flag : Bool} (set : flag = true) : flag = true := set
  cases acts with
  | notes notes =>
      cases notes with
      | readies => exact ⟨fun _ => rfl, ended, kept, kept, rfl, rfl, List.Subset.refl _⟩
      | _ => exact ⟨kept, ended, kept, kept, rfl, rfl, List.Subset.refl _⟩
  | schedules _ _ => exact ⟨kept, ended, fun _ => rfl, kept, rfl, rfl, List.Subset.refl _⟩
  | entersInit =>
      exact ⟨kept, ended, kept, kept, rfl, rfl, List.subset_append_left _ _⟩
  | publishesInit =>
      exact ⟨kept, ended, kept, kept, rfl, rfl, List.subset_append_left _ _⟩
  | shutsDown _ _ =>
      exact ⟨kept, ended, kept, kept, rfl, rfl, List.subset_append_left _ _⟩
  | callsReinit =>
      exact ⟨kept, ended, kept, kept, rfl, rfl, List.subset_append_left _ _⟩
  | entersEager =>
      exact ⟨kept, ended, fun _ => rfl, kept, rfl, rfl, List.subset_append_left _ _⟩
  | publishesEager =>
      exact ⟨kept, ended, kept, kept, rfl, rfl, List.subset_append_left _ _⟩
  | _ => exact ⟨kept, ended, kept, kept, rfl, rfl, List.Subset.refl _⟩

theorem outside_advances (event : Outside) (shared : Shared) :
    Advances shared (outside event shared) := by
  have kept {flag : Bool} (set : flag = true) : flag = true := set
  cases event with
  | admitBroker => exact ⟨kept, kept, kept, fun _ => rfl, rfl, rfl, List.Subset.refl _⟩
  | controllerLost => exact ⟨kept, kept, kept, kept, rfl, rfl, List.Subset.refl _⟩
  | bindHostCallbacks => exact ⟨kept, kept, kept, kept, rfl, rfl, List.Subset.refl _⟩
  | hostCallbacksDrained => exact ⟨kept, kept, kept, kept, rfl, rfl, List.Subset.refl _⟩

theorem Early.advance (advances : Advances shared after) (early : Early shared message peer) :
    Early after message peer where
  confidential := early.confidential
  selected := advances.controller.trans early.selected
  sender := early.sender
  route := advances.routes ▸ early.route
  begun := advances.begun early.begun
  routed := advances.routed early.routed

theorem Cleared.advance (advances : Advances shared after) (cleared : Cleared shared message) :
    Cleared after message := by
  rcases cleared with ready | ⟨peer, early⟩
  · exact .inl (advances.ready ready)
  · exact .inr ⟨peer, early.advance advances⟩

theorem Delivery.Cleared.advance (advances : Advances shared after)
    (cleared : delivery.Cleared shared) : delivery.Cleared after := by
  rcases cleared with ready | ⟨direct, early⟩
  · exact .inl (advances.ready ready)
  · refine .inr ⟨direct, fun call => ?_⟩
    obtain ⟨peer, required, permitted⟩ := early call
    exact ⟨peer, required, permitted.advance advances⟩

theorem Action.Admitted.advance (advances : Advances shared after)
    (admitted : action.Admitted shared) : action.Admitted after := by
  have either (looked : shared.ready = true ∨ shared.ended = true) :
      after.ready = true ∨ after.ended = true :=
    looked.imp advances.ready advances.ended
  cases action with
  | enqueue message bypass => exact fun peer same => (admitted peer same).advance advances
  | permit delivery => exact advances.calls admitted
  | drain => exact either admitted
  | recheck => exact either admitted
  | finishDrain => exact either admitted
  | pop => exact advances.ready admitted
  | initReturns => exact advances.calls admitted
  | eagerReturns => exact advances.calls admitted
  | _ => trivial

/-! ### What an action finds, the next one relies on -/

theorem early_of_authorized
    (authorized : shared.authorizedPreReadyPeer message = some peer) :
    Early shared message peer := by
  unfold Shared.authorizedPreReadyPeer at authorized
  split at authorized
  · cases authorized
  · rename_i confidential
    rw [Bool.or_eq_true, not_or, Bool.not_eq_true', Bool.not_eq_true',
      Bool.not_eq_false, Bool.not_eq_false] at confidential
    split at authorized
    · cases authorized
    · rename_i live
      simp only [Bool.or_eq_true, not_or, Bool.not_eq_true', Bool.not_eq_true,
        Bool.not_eq_false] at live
      obtain ⟨⟨⟨⟨⟨⟨⟨_, begun⟩, _⟩, _⟩, _⟩, _⟩, routed⟩, _⟩ := live
      split at authorized
      · cases authorized
      · rename_i controller selected
        split at authorized
        · cases authorized
        · rename_i sender
          rw [Bool.or_eq_true, not_or, decide_eq_true_iff, not_not] at sender
          split at authorized
          · rename_i matched
            cases authorized
            obtain ⟨route, member, same⟩ := List.any_eq_true.mp matched
            simp only [Bool.and_eq_true, decide_eq_true_iff] at same
            exact ⟨confidential.2, selected, sender.1,
              ⟨route, member, same.1.1, same.1.2, same.2⟩, begun, routed⟩
          · cases authorized

private theorem admitted_of_free {program : Program}
    (free : program.all Action.free = true) :
    ∀ action ∈ program, action.Admitted shared := by
  intro action member
  have relies := List.all_eq_true.mp free action member
  cases action <;> trivial

private theorem woken_of_wait
    (done : act toVec self shared .waitReady choice = some (after, more)) :
    shared.ready = true ∨ shared.ended = true := by
  cases choice with
  | proceed =>
      change (if shared.ready || shared.ended then some (shared, [.drain]) else none) =
        some (after, more) at done
      split at done
      · rename_i woken
        exact Bool.or_eq_true_iff.mp woken
      · cases done
  | _ => cases done

private theorem going_of_drain
    (done : act toVec self shared .drain choice = some (after, [.pop])) :
    ¬ shared.ended = true := by
  cases choice with
  | proceed =>
      intro ended
      have same := congrArg Prod.snd (Option.some.inj done)
      rw [if_pos ended] at same
      cases same
  | _ => cases done

private theorem module_of_enter
    (done : act toVec self shared (.enter delivery) choice = some (after, [.permit delivery])) :
    shared.module.isSome = true := by
  cases choice with
  | proceed =>
      have entered : shared.enterCallback delivery = (after, [.permit delivery]) :=
        Option.some.inj done
      unfold Shared.enterCallback at entered
      split at entered
      · cases entered
      · rename_i there
        rw [Bool.or_eq_true, not_or, Bool.not_eq_true, Option.isNone_eq_false_iff] at there
        exact there.1
  | _ => cases done

theorem admitted_follows (done : act toVec self shared action choice = some (after, more))
    (admitted : action.Admitted shared)
    (entered : shared.module.isSome = true → .init ∈ shared.calls)
    (carried : ∀ delivery, action.carried = some delivery → delivery.Cleared shared) :
    ∀ next ∈ more, next.Admitted after := by
  have acts := act_acts done
  have advances := acts_advance acts
  cases acts with
  | canceled waits => cases waits <;> exact admitted_of_free rfl
  | sendLooks looks =>
      cases looks with
      | @awaitSucceeds use _ => cases use <;> exact admitted_of_free rfl
      | @awaitExpires _ initiating _ => cases initiating <;> exact admitted_of_free rfl
      | @awaitCanceled _ initiating => cases initiating <;> exact admitted_of_free rfl
      | authorizes =>
          exact List.forall_mem_singleton.mpr fun peer same => early_of_authorized same
      | _ => exact admitted_of_free rfl
  | deliveryLooks looks =>
      cases looks with
      | frames _ =>
          unfold Shared.frameOf
          split
          · exact admitted_of_free rfl
          · split <;> exact admitted_of_free rfl
      | readies => exact List.forall_mem_singleton.mpr (woken_of_wait done)
      | drains =>
          have looked : shared.ready = true ∨ shared.ended = true := admitted
          exact List.forall_mem_singleton.mpr (looked.resolve_right (going_of_drain done))
      | popsNothing _ => exact List.forall_mem_singleton.mpr (.inl admitted)
      | rechecks => exact List.forall_mem_singleton.mpr admitted
      | restarts => exact List.forall_mem_singleton.mpr admitted
      | _ => exact admitted_of_free rfl
  | physicalLooks looks => cases looks <;> exact admitted_of_free rfl
  | reinitLooks looks => cases looks <;> exact admitted_of_free rfl
  | locks takes _ => cases takes <;> exact admitted_of_free rfl
  | notes notes =>
      cases notes with
      | @releases allowed => cases allowed <;> exact admitted_of_free rfl
      | _ => exact admitted_of_free rfl
  | fails => split <;> exact admitted_of_free rfl
  | enters _ => exact List.forall_mem_singleton.mpr (entered (module_of_enter done))
  | @delivers delivery =>
      unfold Shared.afterDelivery
      split
      · rename_i queued
        rcases carried delivery rfl with ready | ⟨direct, _⟩
        · exact List.forall_mem_singleton.mpr (.inl ready)
        · rw [queued] at direct
          cases direct
      · exact admitted_of_free rfl
  | entersInit =>
      exact List.forall_mem_singleton.mpr
        (List.mem_append_right _ (List.mem_singleton_self _))
  | entersEager =>
      exact List.forall_mem_singleton.mpr
        (List.mem_append_right _ (List.mem_singleton_self _))
  | takesJob _ => split <;> exact admitted_of_free rfl
  | publishesInit => split <;> exact admitted_of_free rfl
  | _ => exact admitted_of_free rfl

theorem cleared_follows (acts : Acts toVec self shared action after more)
    (admitted : action.Admitted shared)
    (carried : ∀ delivery, action.carried = some delivery → delivery.Cleared shared)
    (member : next ∈ more) (carries : next.carried = some delivery) :
    delivery.Cleared after := by
  have advances := acts_advance acts
  rcases carried_follows acts member carries with
    same | ⟨rfl, _, _⟩ | ⟨message, bypass, rfl, rfl, _, passes⟩
  · exact (carried delivery same).advance advances
  · exact .inl (advances.ready admitted)
  · rcases passes with reply | ready | bypasses
    · refine .inr ⟨rfl, fun call => ?_⟩
      rw [reply] at call
      cases call
    · unfold Shared.isReady at ready
      rw [Bool.and_eq_true, Bool.and_eq_true] at ready
      exact .inl (advances.ready ready.1.1)
    · obtain ⟨peer, some⟩ := Option.isSome_iff_exists.mp bypasses
      exact .inr ⟨rfl, fun _ => ⟨peer, some, (admitted peer some).advance advances⟩⟩

private theorem module_entered (acts : Acts toVec self shared action after more)
    (admitted : action.Admitted shared)
    (entered : shared.module.isSome = true → .init ∈ shared.calls)
    (there : after.module.isSome = true) : .init ∈ after.calls := by
  have advances := acts_advance acts
  cases acts with
  | notes notes => cases notes <;> exact entered there
  | initReturned => exact admitted
  | eagerReturned => exact admitted
  | _ => exact advances.calls (entered there)

theorem delivery_sent (known : delivery.Known self shared) : delivery.entry ∈ shared.sent := by
  unfold Delivery.Known at known
  split at known
  · exact known.1
  · obtain ⟨number, sent⟩ := known
    unfold Delivery.entry
    rw [number]
    exact sent

theorem cleared_call (cleared : delivery.Cleared shared)
    (call : Shared.isCall delivery.message = true) : Cleared shared delivery.message := by
  rcases cleared with ready | ⟨_, early⟩
  · exact .inl ready
  · obtain ⟨peer, _, permitted⟩ := early call
    exact .inr ⟨peer, permitted⟩

/-! ### Where a call waits -/

theorem queued_stays (acts : Acts toVec self shared action after more) {entry : Entry}
    (queued : entry ∈ shared.pending) :
    entry ∈ after.pending ∨ after.ended = true ∨ action = .pop := by
  cases acts with
  | notes notes => cases notes <;> exact .inl queued
  | queues _ _ _ _ _ => exact .inl (List.mem_append_left _ queued)
  | pops _ => exact .inr (.inr rfl)
  | dropsPending closed => exact .inr (.inl (Bool.or_eq_true_iff.mpr (.inr closed)))
  | faultsPending => exact .inr (.inl (by simp [Shared.ended, Shared.publishTerminalFlags]))
  | closes => exact .inr (.inl (by simp [Shared.ended, Shared.closeAdmission]))
  | closesSync => exact .inr (.inl (by simp [Shared.ended, Shared.closeAdmission]))
  | _ => exact .inl queued

theorem withheld_follows (acts : Acts toVec self shared action after more)
    (withholds : action.withholds = true) :
    more.any Action.withholds = true ∨ after.ended = true ∨
      ∃ message bypass, action = .enqueue message bypass ∧
        (⟨self, message⟩ ∈ after.pending ∨ Shared.isCall message = false ∨
          shared.isReady = true ∨ bypass.isSome = true) := by
  cases acts with
  | canceled _ => exact .inl rfl
  | sendLooks looks =>
      left
      cases looks with
      | @awaitSucceeds use _ =>
          cases use with
          | send message => rfl
          | host => cases withholds
          | reinit config => cases withholds
      | @awaitExpires use initiating _ =>
          cases use with
          | send message => cases initiating <;> rfl
          | host => cases withholds
          | reinit config => cases withholds
      | @awaitCanceled _ initiating => cases initiating <;> rfl
      | failHost => cases withholds
      | failReinit => cases withholds
      | gateFails => exact Bool.or_eq_true_iff.mpr (.inl withholds)
      | gatePasses => exact Bool.or_eq_true_iff.mpr (.inl withholds)
      | scheduleFails => exact Bool.or_eq_true_iff.mpr (.inl withholds)
      | scheduleFollows => exact Bool.or_eq_true_iff.mpr (.inl withholds)
      | awaitFails => exact Bool.or_eq_true_iff.mpr (.inl withholds)
      | failClosed _ => rfl
      | authorizes => rfl
      | enqueueClosed _ => rfl
  | deliveryLooks looks => cases looks <;> cases withholds
  | physicalLooks looks => cases looks <;> cases withholds
  | reinitLooks looks => cases looks <;> cases withholds
  | locks takes _ => cases takes <;> cases withholds
  | notes notes =>
      cases notes with
      | noInitializer => exact .inl (Bool.or_eq_true_iff.mpr (.inl withholds))
      | _ => cases withholds
  | @schedules use _ _ =>
      exact .inl (Bool.or_eq_true_iff.mpr (.inr (Bool.or_eq_true_iff.mpr (.inl withholds))))
  | fails => exact .inr (.inl (by simp [Shared.ended, Shared.publishTerminalFlags]))
  | queues _ _ _ _ _ =>
      exact .inr (.inr ⟨_, _, rfl, .inl (List.mem_append_right _ (List.mem_singleton_self _))⟩)
  | goesDirect _ passes => exact .inr (.inr ⟨_, _, rfl, .inr passes⟩)
  | _ => cases withholds

end

/-! ### The invariant -/

structure Offers (state : Tasks Shared Program) : Prop where
  entered : state.shared.module.isSome = true → .init ∈ state.shared.calls
  sent : ∀ id ∈ state.shared.offered, ∃ entry ∈ state.shared.sent, entry.id = id
  offered : ∀ entry ∈ state.shared.sent, Shared.isCall entry.message = true →
    entry.id ∈ state.shared.offered → Cleared state.shared entry.message

def Held (shared : Shared) (program : Program) (entry : Entry) : Prop :=
  Cleared shared entry.message ∨ shared.ended = true ∨ entry ∈ shared.pending ∨
    program.any Action.withholds = true

structure Clears (id : Nat) (shared : Shared) (program : Program) : Prop where
  admitted : ∀ action ∈ program, action.Admitted shared
  carried : ∀ action ∈ program, ∀ delivery, action.carried = some delivery →
    delivery.Cleared shared
  held : ∀ entry ∈ shared.sent, entry.id = id → Shared.isCall entry.message = true →
    Held shared program entry

section

variable {toVec : Message → Except String Bytes} {state : Tasks Shared Program}
  {id : Nat} {shared after : Shared} {action : Action} {rest more : Program}

variable {entry : Entry}

theorem Recorded.same (recorded : Recorded state) {other : Entry}
    (member : entry ∈ state.shared.sent) (also : other ∈ state.shared.sent)
    (same : entry.id = other.id) : entry = other :=
  List.inj_on_of_nodup_map recorded.once member also same

private theorem Held.advance {program : Program} (acts : Acts toVec id shared action after more)
    (admitted : action.Admitted shared)
    (held : Held shared program entry) : Held after program entry := by
  have advances := acts_advance acts
  rcases held with cleared | ended | queued | withheld
  · exact .inl (cleared.advance advances)
  · exact .inr (.inl (advances.ended ended))
  · rcases queued_stays acts queued with stays | ends | rfl
    · exact .inr (.inr (.inl stays))
    · exact .inr (.inl ends)
    · exact .inl (.inl (advances.ready admitted))
  · exact .inr (.inr (.inr withheld))

private theorem held_on (known : Tasks.Sound Recorded Knows state)
    (present : state.tasks.lookup id = some (action :: rest))
    (acts : Acts toVec id state.shared action after more) (admitted : action.Admitted state.shared)
    (sent : entry ∈ state.shared.sent) (own : entry.id = id)
    (call : Shared.isCall entry.message = true)
    (held : Held state.shared (action :: rest) entry) : Held after (more ++ rest) entry := by
  have advances := acts_advance acts
  rcases Held.advance acts admitted held with cleared | ended | queued | withheld
  · exact .inl cleared
  · exact .inr (.inl ended)
  · exact .inr (.inr (.inl queued))
  · rw [List.any_cons, Bool.or_eq_true] at withheld
    unfold Held
    rw [List.any_append, Bool.or_eq_true]
    rcases withheld with now | later
    · rcases withheld_follows acts now with next | ended | ⟨message, bypass, rfl, ways⟩
      · exact .inr (.inr (.inr (.inl next)))
      · exact .inr (.inl ended)
      · have enqueued := known.own id _ present |>.known _ List.mem_cons_self
        have same : entry = ⟨id, message⟩ := known.common.same sent enqueued.1 own
        rw [same] at call ⊢
        rcases ways with queued | reply | ready | bypasses
        · exact .inr (.inr (.inl queued))
        · rw [call] at reply
          cases reply
        · unfold Shared.isReady at ready
          rw [Bool.and_eq_true, Bool.and_eq_true] at ready
          exact .inl (.inl (advances.ready ready.1.1))
        · obtain ⟨peer, some⟩ := Option.isSome_iff_exists.mp bypasses
          exact .inl (.inr ⟨peer, (admitted peer some).advance advances⟩)
    · exact .inr (.inr (.inr (.inr later)))

private theorem held_of_arrival {message : Message}
    (acts : Acts toVec id shared (.arrive message) after more) (entry : Entry) :
    Held after (more ++ rest) entry := by
  refine .inr (.inr (.inr ?_))
  rw [List.any_append, Bool.or_eq_true]
  left
  cases acts with
  | canceled waits => cases waits
  | sendLooks looks => cases looks
  | deliveryLooks looks => cases looks
  | physicalLooks looks => cases looks
  | reinitLooks looks => cases looks
  | locks takes _ => cases takes
  | notes notes => cases notes
  | arrives => rfl
  | arrivesLate => rfl

private theorem offers_step (known : Tasks.Sound Recorded Knows state) (offers : Offers state)
    (present : state.tasks.lookup id = some (action :: rest))
    (clears : Clears id state.shared (action :: rest))
    (acts : Acts toVec id state.shared action after more) :
    Offers { shared := after, tasks := state.tasks.insert id (more ++ rest) } := by
  have advances := acts_advance acts
  have mono := sent_mono acts
  have admitted := clears.admitted action List.mem_cons_self
  have knows := known.own id _ present |>.known action List.mem_cons_self
  refine ⟨module_entered acts admitted offers.entered, ?_, ?_⟩
  · intro other member
    dsimp only at member ⊢
    rcases offered_grows acts with same | ⟨delivery, rfl, _, grown⟩
    · rw [same] at member
      obtain ⟨entry, sent, number⟩ := offers.sent other member
      exact ⟨entry, mono sent, number⟩
    · rw [grown] at member
      rcases List.mem_append.mp member with earlier | latest
      · obtain ⟨entry, sent, number⟩ := offers.sent other earlier
        exact ⟨entry, mono sent, number⟩
      · rw [List.mem_singleton.mp latest]
        exact ⟨delivery.entry, mono (delivery_sent knows), rfl⟩
  · intro entry sent call member
    dsimp only at sent member ⊢
    rcases sent_grows acts with kept | ⟨message, rfl, grown⟩
    · rw [kept] at sent
      rcases offered_grows acts with same | ⟨delivery, rfl, _, grown⟩
      · rw [same] at member
        exact (offers.offered entry sent call member).advance advances
      · rw [grown] at member
        rcases List.mem_append.mp member with earlier | latest
        · exact (offers.offered entry sent call earlier).advance advances
        · have same : entry = delivery.entry :=
            known.common.same sent (delivery_sent knows) (List.mem_singleton.mp latest)
          rw [same] at call ⊢
          exact (cleared_call (clears.carried _ List.mem_cons_self delivery rfl) call).advance
            advances
    · have same : after.offered = state.shared.offered := by
        rcases offered_grows acts with same | ⟨_, arrives, _⟩
        · exact same
        · cases arrives
      rw [same] at member
      rw [grown] at sent
      rcases List.mem_append.mp sent with earlier | latest
      · exact (offers.offered entry earlier call member).advance advances
      · obtain ⟨other, also, number⟩ := offers.sent entry.id member
        rw [List.mem_singleton.mp latest] at number
        exact absurd number (knows other also)

private theorem clears_own (known : Tasks.Sound Recorded Knows state) (offers : Offers state)
    {choice : Choice} (present : state.tasks.lookup id = some (action :: rest))
    (clears : Clears id state.shared (action :: rest))
    (done : act toVec id state.shared action choice = some (after, more)) :
    Clears id after (more ++ rest) := by
  have acts := act_acts done
  have advances := acts_advance acts
  have admitted := clears.admitted action List.mem_cons_self
  have carried := clears.carried action List.mem_cons_self
  refine ⟨?_, ?_, ?_⟩
  · refine List.forall_mem_append.mpr
      ⟨admitted_follows done admitted offers.entered carried, ?_⟩
    exact fun next member =>
      (clears.admitted next (List.mem_cons_of_mem _ member)).advance advances
  · refine List.forall_mem_append.mpr ⟨?_, ?_⟩
    · exact fun next member delivery carries =>
        cleared_follows acts admitted carried member carries
    · exact fun next member delivery carries =>
        (clears.carried next (List.mem_cons_of_mem _ member) delivery carries).advance advances
  · intro entry sent own call
    rcases sent_grows acts with same | ⟨message, rfl, grown⟩
    · rw [same] at sent
      exact held_on known present acts admitted sent own call (clears.held entry sent own call)
    · exact held_of_arrival acts entry

private theorem clears_other {other : Nat} {bystander : Program}
    (acts : Acts toVec id state.shared action after more) (different : other ≠ id)
    (admitted : action.Admitted state.shared) (clears : Clears other state.shared bystander) :
    Clears other after bystander := by
  have advances := acts_advance acts
  refine ⟨?_, ?_, ?_⟩
  · exact fun next member => (clears.admitted next member).advance advances
  · exact fun next member delivery carries =>
      (clears.carried next member delivery carries).advance advances
  · intro entry sent own call
    rcases sent_grows acts with same | ⟨message, _, grown⟩
    · rw [same] at sent
      exact (clears.held entry sent own call).advance acts admitted
    · rw [grown] at sent
      rcases List.mem_append.mp sent with earlier | latest
      · exact (clears.held entry earlier own call).advance acts admitted
      · rw [List.mem_singleton.mp latest] at own
        exact absurd own.symm different

private theorem clears_start (known : Tasks.Sound Recorded Knows state)
    (vacant : state.tasks.lookup id = none) (call : Call) :
    Clears id state.shared (program call) := by
  refine ⟨?_, ?_, ?_⟩
  · cases call <;> exact admitted_of_free rfl
  · intro action member delivery carries
    have none : (program call).all (fun action => action.carried.isNone) = true := by
      cases call <;> rfl
    have empty := List.all_eq_true.mp none action member
    rw [carries] at empty
    cases empty
  · intro entry sent own _
    have started := known.common.started entry sent
    rw [own, vacant] at started
    cases started

private theorem around_history (event : Outside) (shared : Shared) :
    (outside event shared).sent = shared.sent ∧
      (outside event shared).offered = shared.offered ∧
        (outside event shared).pending = shared.pending ∧
          (outside event shared).module = shared.module := by
  cases event <;> exact ⟨rfl, rfl, rfl, rfl⟩

private theorem sound_outside (event : Outside) (sound : Tasks.Sound Offers Clears state) :
    Tasks.Sound Offers Clears { state with shared := outside event state.shared } := by
  have advances := outside_advances event state.shared
  obtain ⟨sent, offered, pending, module⟩ := around_history event state.shared
  obtain ⟨common, own⟩ := sound
  refine ⟨⟨?_, ?_, ?_⟩, ?_⟩
  · intro there
    dsimp only at there ⊢
    rw [module] at there
    exact advances.calls (common.entered there)
  · dsimp only
    rw [sent, offered]
    exact common.sent
  · dsimp only
    rw [sent, offered]
    exact fun entry member call given => (common.offered entry member call given).advance advances
  · intro id task present
    obtain ⟨admitted, carried, held⟩ := own id task present
    refine ⟨fun action member => (admitted action member).advance advances,
      fun action member delivery carries =>
        (carried action member delivery carries).advance advances, ?_⟩
    dsimp only
    rw [sent]
    intro entry member number call
    rcases held entry member number call with cleared | ended | queued | withheld
    · exact .inl (cleared.advance advances)
    · exact .inr (.inl (advances.ended ended))
    · refine .inr (.inr (.inl ?_))
      rw [pending]
      exact queued
    · exact .inr (.inr (.inr withheld))

theorem reachable_cleared (reached : (system toVec).Reachable state) :
    Tasks.Sound Offers Clears state := by
  apply reached.invariant_with (fun _ reached => reachable_knows reached)
  · rintro first ⟨fresh, empty⟩
    refine ⟨⟨?_, ?_, ?_⟩, ?_⟩
    · rw [fresh.module]
      exact fun there => nomatch there
    · rw [fresh.history.2.2.1]
      exact fun id member => absurd member List.not_mem_nil
    · rw [fresh.history.2.1]
      exact fun entry member => absurd member List.not_mem_nil
    · intro id task present
      rw [empty] at present
      cases present
  · rintro before event after known rfl sound
    have moved := Tasks.next_moved (kind toVec) before event
    generalize Tasks.next (kind toVec) before event = next at moved
    cases moved with
    | still => exact sound
    | around => exact sound_outside _ sound
    | @started id call vacant =>
        refine ⟨⟨sound.common.entered, sound.common.sent, sound.common.offered⟩, ?_⟩
        intro other task present
        dsimp only at present ⊢
        rw [Table.lookup_insert_eq] at present
        split at present
        · rename_i same
          cases present
          rw [same]
          exact clears_start known vacant call
        · exact sound.own other task present
    | @stepped id choice task stepped shared present taken =>
        cases task with
        | nil => cases taken
        | cons action rest =>
            obtain ⟨⟨later, more⟩, done, same⟩ := Option.map_eq_some_iff.mp taken
            cases same
            have acts := act_acts done
            have clears := sound.own id _ present
            refine ⟨offers_step known sound.common present clears acts, ?_⟩
            intro other bystander beside
            dsimp only at beside ⊢
            rw [Table.lookup_insert_eq] at beside
            split at beside
            · rename_i same
              cases beside
              rw [same]
              exact clears_own known sound.common present clears done
            · rename_i different
              exact clears_other acts different
                (clears.admitted action List.mem_cons_self) (sound.own other bystander beside)

/-! ### Calls before READY -/

structure Authorized (state : Tasks Shared Program) (entry : Entry) : Prop where
  early : ∃ peer, Early state.shared entry.message peer
  attached : state.shared.controllerLive = true
  entered : .init ∈ state.shared.calls

structure KeptBack (state : Tasks Shared Program) (entry : Entry) : Prop where
  kept : entry.id ∉ state.shared.offered
  place : entry ∈ state.shared.pending ∨ state.shared.ended = true ∨
    ∃ task, state.tasks.lookup entry.id = some task ∧ task.any Action.withholds = true

/-- The transport gives a call to its module. -/
def Hands (toVec : Message → Except String Bytes) (state : Tasks Shared Program)
    (event : Tasks.Event Call Choice Outside) (entry : Entry) : Prop :=
  (Tasks.next (kind toVec) state event).shared.offered = state.shared.offered ++ [entry.id]

/-- What holds of the calls of a transport before READY. -/
structure BeforeReady (toVec : Message → Except String Bytes)
    (state : Tasks Shared Program) : Prop where
  handed : ∀ event, ∀ entry ∈ state.shared.sent, Shared.isCall entry.message = true →
    state.shared.ready = false → Hands toVec state event entry → Authorized state entry
  others : ∀ entry ∈ state.shared.sent, Shared.isCall entry.message = true →
    state.shared.ready = false →
      (∃ peer, Early state.shared entry.message peer) ∨ KeptBack state entry

private theorem permit_attached {delivery : Delivery} {choice : Choice} {peer : BusName}
    (done : act toVec id shared (.permit delivery) choice = some (after, [.delivering delivery]))
    (required : delivery.requiredController = some peer) : shared.controllerLive = true := by
  cases choice with
  | proceed =>
      have permitted : shared.permit delivery = (after, [.delivering delivery]) :=
        Option.some.inj done
      unfold Shared.permit at permitted
      rw [required] at permitted
      split at permitted
      · cases permitted
      · rename_i refused
        rw [Option.any_some, Bool.or_eq_true, not_or, Bool.not_eq_true',
          Bool.not_eq_false] at refused
        exact refused.2
  | _ => cases done

private theorem handed_authorized (reached : (system toVec).Reachable state)
    {event : Tasks.Event Call Choice Outside} (sent : entry ∈ state.shared.sent)
    (call : Shared.isCall entry.message = true) (unready : state.shared.ready = false)
    (hands : Hands toVec state event entry) :
    Authorized state entry := by
  have known := reachable_knows reached
  have sound := reachable_cleared reached
  have moved := Tasks.next_moved (kind toVec) state event
  unfold Hands at hands
  generalize Tasks.next (kind toVec) state event = next at moved hands
  have grows {given : List Nat} (same : given = state.shared.offered)
      (hands : given = state.shared.offered ++ [entry.id]) : False := by
    rw [same] at hands
    exact List.cons_ne_nil _ _ (List.self_eq_append_right.mp hands)
  cases moved with
  | still => exact (grows rfl hands).elim
  | started _ => exact (grows rfl hands).elim
  | around => exact (grows (around_history _ _).2.1 hands).elim
  | @stepped id choice task stepped shared present taken =>
      cases task with
      | nil => cases taken
      | cons action rest =>
          obtain ⟨⟨later, more⟩, done, same⟩ := Option.map_eq_some_iff.mp taken
          cases same
          rcases offered_grows (act_acts done) with same | ⟨delivery, rfl, rfl, grown⟩
          · exact (grows same hands).elim
          · have number : [delivery.id] = [entry.id] :=
              List.append_cancel_left (grown.symm.trans hands)
            have knows := known.own id _ present |>.known _ List.mem_cons_self
            have same : delivery.entry = entry :=
              known.common.same (delivery_sent knows) sent (List.cons.inj number).1
            subst same
            have clears := sound.own id _ present
            rcases clears.carried _ List.mem_cons_self delivery rfl with ready | ⟨_, early⟩
            · rw [unready] at ready
              cases ready
            · obtain ⟨peer, required, early⟩ := early call
              exact ⟨⟨peer, early⟩, permit_attached done required,
                clears.admitted _ List.mem_cons_self⟩

private theorem other_withheld (reached : (system toVec).Reachable state)
    (sent : entry ∈ state.shared.sent) (call : Shared.isCall entry.message = true)
    (unready : state.shared.ready = false) :
    (∃ peer, Early state.shared entry.message peer) ∨ KeptBack state entry := by
  have sound := reachable_cleared reached
  have early (cleared : Cleared state.shared entry.message) :
      ∃ peer, Early state.shared entry.message peer := by
    rcases cleared with ready | early
    · rw [unready] at ready
      cases ready
    · exact early
  by_cases given : entry.id ∈ state.shared.offered
  · exact .inl (early (sound.common.offered entry sent call given))
  · obtain ⟨task, present⟩ :=
      Option.isSome_iff_exists.mp ((reachable_knows reached).common.started entry sent)
    rcases (sound.own _ task present).held entry sent rfl call with
      cleared | ended | queued | withheld
    · exact .inl (early cleared)
    · exact .inr ⟨given, .inr (.inl ended)⟩
    · exact .inr ⟨given, .inl queued⟩
    · exact .inr ⟨given, .inr (.inr ⟨task, present, withheld⟩)⟩

end

/-- Before READY a module is given a call of its controller, or none. -/
theorem early_calls_authorized (toVec : Message → Except String Bytes)
    (state : Tasks Shared Program) (reached : (system toVec).Reachable state) :
    BeforeReady toVec state where
  handed := fun _ _ sent call unready hands => handed_authorized reached sent call unready hands
  others := fun _ sent call unready => other_withheld reached sent call unready

def boundTransport : Shared :=
  { lazyTransport with
    controller := some (BusName.unique 2)
    controllerLive := true
    preReadyConfidentialRoutes :=
      [(busPath, busInterface, speakMember)] }

theorem boundTransport_fresh : Fresh boundTransport where
  native := rfl
  flags := ⟨rfl, rfl, rfl, rfl, rfl, rfl⟩
  physical := ⟨rfl, rfl, rfl, rfl, rfl⟩
  gate := rfl
  one := .inr rfl
  lifecycle := ⟨rfl, rfl, rfl, rfl⟩
  module := rfl
  callbacks := rfl
  queue := ⟨rfl, rfl, rfl⟩
  inbound := ⟨rfl, rfl, rfl⟩
  history := ⟨rfl, rfl, rfl, rfl, rfl, rfl⟩

def controllerCall : Message :=
  { ModuleBus.voiceCall with
    header := { ModuleBus.voiceCall.header with
      confidential := true, sender := some (BusName.unique 2) } }

/-- The module is initialized for its controller, whose call is about to be given to
it; the call of another peer came as far as the queue. -/
def earlyCalls : List (Tasks.Event Call Choice Outside) :=
  initializing controllerCall ++
    turns 0 [.proceed, .proceed, .proceed, .proceed, .proceed, .proceed] ++
    .start 2 (.send ModuleBus.voiceCall) ::
      turns 2 [.proceed, .proceed, .proceed, .proceed, .proceed, .proceed]

def earlyTransport : Tasks Shared Program :=
  earlyCalls.foldl (Tasks.next (kind (fun _ => .ok []))) ⟨boundTransport, ∅⟩

theorem earlyTransport_authorized :
    earlyTransport.shared.ready = false ∧ earlyTransport.shared.pending.map Entry.id = [2] ∧
      Hands (fun _ => .ok []) earlyTransport (.advance 0 .proceed) ⟨0, controllerCall⟩ ∧
        BeforeReady (fun _ => .ok []) earlyTransport :=
  ⟨by decide +kernel, by decide +kernel, by unfold Hands; decide +kernel,
    early_calls_authorized (fun _ => .ok []) _
    (.of_foldl ⟨boundTransport_fresh, rfl⟩ earlyCalls)⟩

end ModuleTransport

end TinyBus
