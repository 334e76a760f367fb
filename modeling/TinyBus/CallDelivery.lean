/-
Where every call is that the broker read: with a reader, in a queue, in the hand
of a writer, with the transport that accepted it, with the bus, or answered by an
error reply.  No call is ever in two of these places.  It leaves them all only
where a transport refuses or fails it, or a queue is dropped with it.
-/

import TinyBus.Delivery

namespace TinyBus

open TransitionSystem

namespace DeliveryState

variable {Host : Type}

/-! ### The places of a call -/

def callsOf (entries : List (Outbox × Item)) : List Nat :=
  entries.filterMap (fun entry => entry.2.call)

def dutiesOf (duties : List (PeerId × Duty)) : List Nat :=
  duties.filterMap (fun entry => entry.2.call)

def inTransit (state : DeliveryState Host) : List Nat :=
  dutiesOf state.duties ++ callsOf state.queued ++ callsOf state.hands

def carried (state : DeliveryState Host) : List Nat :=
  state.inTransit ++ (state.accepted ++ state.served ++ state.answered)

def account (state : DeliveryState Host) : Custody.Account :=
  ⟨state.callers.length, state.carried⟩

def queuedCalls (state : DeliveryState Host) (outbox : Outbox) : List Nat :=
  callsOf (state.queued.filter (fun entry => decide (entry.1 = outbox)))

def lostReply : Duty → SendOutcome → List Nat
  | .reply _ _, .sent => []
  | .reply call _, _ => [call]
  | _, _ => []

def lostWrite (state : DeliveryState Host) (outbox : Outbox) (item : Item) :
    SendOutcome → List Nat
  | .sent => []
  | .refused => item.call.toList
  | .failed => item.call.toList ++ state.queuedCalls outbox

def lost (state : DeliveryState Host) : DeliveryEvent Host → List Nat
  | .reply index outcome =>
      state.duties[index]?.elim [] (fun entry => lostReply entry.2 outcome)
  | .write index outcome =>
      state.hands[index]?.elim [] (fun entry => state.lostWrite entry.1 entry.2 outcome)
  | .discard outbox => state.queuedCalls outbox
  | _ => []

/-! ### Counting -/

private theorem count_filterMap_eraseIdx {α : Type} {entries : List α} {index : Nat}
    {entry : α} (found : entries[index]? = some entry) (call : α → Option Nat)
    (token : Nat) :
    (entries.filterMap call).count token =
      (call entry).toList.count token +
        ((entries.eraseIdx index).filterMap call).count token := by
  induction entries generalizing index with
  | nil => simp at found
  | cons head tail ih =>
      cases index with
      | zero =>
          simp only [List.getElem?_cons_zero, Option.some.injEq] at found
          subst found
          cases numbered : call head with
          | none => simp [numbered]
          | some number => simp [numbered, List.count_cons, Nat.add_comm]
      | succ index =>
          simp only [List.getElem?_cons_succ] at found
          have tails := ih found
          cases numbered : call head with
          | none => simpa [numbered] using tails
          | some number =>
              simp only [List.filterMap_cons, numbered, List.eraseIdx_cons_succ,
                List.count_cons]
              omega

private theorem count_filter_split (entries : List (Outbox × Item)) (outbox : Outbox)
    (token : Nat) :
    (callsOf entries).count token =
      (callsOf (entries.filter (fun entry => decide (entry.1 = outbox)))).count token +
        (callsOf (entries.filter (fun entry => !decide (entry.1 = outbox)))).count token := by
  induction entries with
  | nil => rfl
  | cons head tail ih =>
      unfold callsOf at ih ⊢
      by_cases own : head.1 = outbox
      · cases numbered : head.2.call with
        | none => simpa [own, numbered] using ih
        | some number =>
            simp only [List.filterMap_cons, numbered, own, List.filter_cons, decide_true,
              if_true, Bool.not_true, Bool.false_eq_true, if_false, List.count_cons]
            omega
      · cases numbered : head.2.call with
        | none => simpa [own, numbered] using ih
        | some number =>
            simp only [List.filterMap_cons, numbered, own, List.filter_cons, decide_false,
              Bool.false_eq_true, if_false, Bool.not_false, if_true, List.count_cons]
            omega

theorem count_carried (state : DeliveryState Host) (token : Nat) :
    state.carried.count token =
      (dutiesOf state.duties).count token + (callsOf state.queued).count token +
        (callsOf state.hands).count token +
        (state.accepted.count token + state.served.count token +
          state.answered.count token) := by
  simp only [carried, inTransit, List.count_append]

/-! ### Messages that are no calls -/

def SameCalls (before after : DeliveryState Host) : Prop :=
  after.callers = before.callers ∧ after.left = before.left ∧
    ∀ token, after.carried.count token = before.carried.count token

theorem trySend_same (state : DeliveryState Host) (entry : Outbox × Message) :
    SameCalls state (state.trySend entry) := by
  unfold trySend
  split
  · refine ⟨rfl, rfl, ?_⟩
    intro token
    simp [count_carried, enqueue, callsOf]
  · exact ⟨rfl, rfl, fun _ => rfl⟩

theorem trySendAll_same (sends : List (Outbox × Message)) :
    ∀ state : DeliveryState Host, SameCalls state (state.trySendAll sends) := by
  induction sends with
  | nil => exact fun state => ⟨rfl, rfl, fun _ => rfl⟩
  | cons entry rest ih =>
      intro state
      obtain ⟨callers, left, counts⟩ := state.trySend_same entry
      obtain ⟨callersAfter, leftAfter, countsAfter⟩ := ih (state.trySend entry)
      exact ⟨callersAfter.trans callers, leftAfter.trans left,
        fun token => (countsAfter token).trans (counts token)⟩

/-! ### The places after each step -/

theorem refuse_count (state : DeliveryState Host) (source : PeerId) (call : Option Nat)
    (header : Header) (failure : Error) (token : Nat) :
    (state.refuse source call header failure).carried.count token =
      state.carried.count token + call.toList.count token := by
  cases call with
  | none => simp [refuse]
  | some number =>
      simp only [count_carried, refuse, withDuty, dutiesOf, List.filterMap_append,
        List.count_append, List.filterMap_cons, Duty.call, List.filterMap_nil,
        Option.toList_some]
      omega

theorem withDuty_count (state : DeliveryState Host) (source : PeerId) (duty : Duty)
    (token : Nat) :
    (state.withDuty source duty).carried.count token =
      state.carried.count token + duty.call.toList.count token := by
  cases numbered : duty.call with
  | none => simp [count_carried, withDuty, dutiesOf, numbered]
  | some number =>
      simp only [count_carried, withDuty, dutiesOf, List.filterMap_append,
        List.count_append, List.filterMap_cons, numbered, List.filterMap_nil,
        Option.toList_some]
      omega

variable {source : PeerId} {state before after : DeliveryState Host} {control : ModuleControl Host}

theorem eraseDuty_count {index : Nat} {duty : Duty}
    (found : state.duties[index]? = some (source, duty)) (token : Nat) :
    state.carried.count token = duty.call.toList.count token +
      ({ state with duties := state.duties.eraseIdx index } :
        DeliveryState Host).carried.count token := by
  have split : (dutiesOf state.duties).count token = duty.call.toList.count token +
      (dutiesOf (state.duties.eraseIdx index)).count token :=
    count_filterMap_eraseIdx found (fun entry => entry.2.call) token
  simp only [count_carried]
  omega

theorem eraseHand_count {index : Nat} {outbox : Outbox} {item : Item}
    (found : state.hands[index]? = some (outbox, item)) (token : Nat) :
    state.carried.count token = item.call.toList.count token +
      ({ state with hands := state.hands.eraseIdx index } :
        DeliveryState Host).carried.count token := by
  have split : (callsOf state.hands).count token = item.call.toList.count token +
      (callsOf (state.hands.eraseIdx index)).count token :=
    count_filterMap_eraseIdx found (fun entry => entry.2.call) token
  simp only [count_carried]
  omega

theorem enqueue_count (state : DeliveryState Host) (outbox : Outbox) (item : Item)
    (token : Nat) :
    (state.enqueue outbox item).carried.count token =
      state.carried.count token + item.call.toList.count token := by
  cases numbered : item.call with
  | none => simp [count_carried, enqueue, callsOf, numbered]
  | some number =>
      simp only [count_carried, enqueue, callsOf, List.filterMap_append,
        List.count_append, List.filterMap_cons, numbered, List.filterMap_nil,
        Option.toList_some]
      omega

theorem discard_count (state : DeliveryState Host) (outbox : Outbox) (token : Nat) :
    state.carried.count token =
      (state.queuedCalls outbox).count token +
        (state.discard outbox).carried.count token := by
  have split := count_filter_split state.queued outbox token
  simp only [count_carried, discard, queuedCalls]
  omega

theorem served_count (state : DeliveryState Host) (call : Option Nat) (token : Nat) :
    ({ state with served := state.served ++ call.toList } :
        DeliveryState Host).carried.count token =
      state.carried.count token + call.toList.count token := by
  simp only [count_carried, List.count_append]
  omega

/-! ### One step -/

private theorem refuse_kept (state : DeliveryState Host) (source : PeerId)
    (call : Option Nat) (header : Header) (failure : Error) :
    (state.refuse source call header failure).callers = state.callers ∧
      (state.refuse source call header failure).left = state.left := by
  cases call with
  | none => exact ⟨rfl, rfl⟩
  | some number => exact ⟨rfl, rfl⟩

structure Took (before : DeliveryState Host) (source : PeerId) (message : Message)
    (after : DeliveryState Host) : Prop where
  callers : after.callers = (before.numbered source message).callers
  left : after.left = before.left
  counts : ∀ token, after.carried.count token =
    before.carried.count token + (before.numberOf message).toList.count token

private theorem numbered_count (state : DeliveryState Host) (source : PeerId)
    (message : Message) (broker : Broker Host) (token : Nat) :
    ((state.numbered source message).withBroker broker).carried.count token =
        state.carried.count token ∧
      ((state.numbered source message).withBroker broker).left = state.left := by
  unfold numbered
  split
  · exact ⟨rfl, rfl⟩
  · exact ⟨rfl, rfl⟩

theorem hear_took (control : ModuleControl Host) (state : DeliveryState Host)
    (source : PeerId) (message : Message) :
    Took state source message (state.hear control source message) := by
  unfold hear
  dsimp only
  generalize handled : Broker.handle control state.broker source (BusName.unique source)
    message = after
  have read := fun token => state.numbered_count source message after.broker token
  have refused : ∀ failure, Took state source message
      (((state.numbered source message).withBroker after.broker).refuse source
        (state.numberOf message) message.header failure) := by
    intro failure
    obtain ⟨callers, left⟩ := refuse_kept
      ((state.numbered source message).withBroker after.broker) source
      (state.numberOf message) message.header failure
    refine ⟨callers, left.trans (read 0).2, ?_⟩
    intro token
    rw [refuse_count, (read token).1]
  cases routed : Broker.route state.broker.router (state.broker.unavailable control) source
      (BusName.unique source) message with
  | error failure => exact refused failure
  | ok decision =>
      have silent : message.header.kind ≠ .methodCall → Took state source message
          (((state.numbered source message).withBroker after.broker).trySendAll
            after.sends) := by
        intro other
        obtain ⟨callers, left, counts⟩ := trySendAll_same after.sends
          ((state.numbered source message).withBroker after.broker)
        refine ⟨callers, left.trans (read 0).2, ?_⟩
        intro token
        rw [counts, (read token).1, numberOf, if_neg other]
        simp
      cases Broker.route_routed routed with
      | fanOut signal _ => exact silent (by simp [signal])
      | notify signal => exact silent (by simp [signal])
      | deliver _ _ _ =>
          refine ⟨rfl, (read 0).2, ?_⟩
          intro token
          rw [withDuty_count, (read token).1]
          rfl
      | bus _ =>
          dsimp only
          cases after.outcome with
          | error failure => exact refused failure
          | ok _ =>
              cases after.sends with
              | nil =>
                  refine ⟨rfl, (read 0).2, ?_⟩
                  intro token
                  rw [served_count, (read token).1]
              | cons first announced =>
                  refine ⟨rfl, (read 0).2, ?_⟩
                  intro token
                  rw [withDuty_count, served_count, (read token).1]
                  rfl

theorem proceed_same (state : DeliveryState Host) (index : Nat) :
    SameCalls state (state.proceed index) := by
  unfold proceed
  split
  · rename_i source target item header found
    have erased := eraseDuty_count found
    dsimp only
    split
    · obtain ⟨callers, left⟩ := refuse_kept
        ({ state with duties := state.duties.eraseIdx index } : DeliveryState Host)
        source item.call header (undelivered header)
      refine ⟨callers, left, ?_⟩
      intro token
      rw [refuse_count, erased token]
      exact Nat.add_comm _ _
    · split
      · refine ⟨rfl, rfl, ?_⟩
        intro token
        rw [enqueue_count, erased token]
        exact Nat.add_comm _ _
      · exact ⟨rfl, rfl, fun _ => rfl⟩
  · rename_i source target message announced found
    have erased := eraseDuty_count found
    dsimp only
    split
    · obtain ⟨callers, left, counts⟩ := trySendAll_same announced
        ({ state with duties := state.duties.eraseIdx index } : DeliveryState Host)
      refine ⟨callers, left, ?_⟩
      intro token
      rw [counts, erased token]
      simp [Duty.call]
    · split
      · obtain ⟨callers, left, counts⟩ := trySendAll_same announced
          (({ state with duties := state.duties.eraseIdx index } :
            DeliveryState Host).enqueue target ⟨message, none⟩)
        refine ⟨callers, left, ?_⟩
        intro token
        rw [counts, enqueue_count, erased token]
        simp [Duty.call]
      · exact ⟨rfl, rfl, fun _ => rfl⟩
  · exact ⟨rfl, rfl, fun _ => rfl⟩

theorem take_same (state : DeliveryState Host) (index : Nat) :
    SameCalls state (state.take index) := by
  unfold DeliveryState.take
  cases found : state.queued[index]? with
  | none => exact ⟨rfl, rfl, fun _ => rfl⟩
  | some entry =>
      refine ⟨rfl, rfl, ?_⟩
      intro token
      have split : (callsOf state.queued).count token = entry.2.call.toList.count token +
          (callsOf (state.queued.eraseIdx index)).count token :=
        count_filterMap_eraseIdx found (fun entry => entry.2.call) token
      have grown : (callsOf (state.hands ++ [entry])).count token =
          (callsOf state.hands).count token + entry.2.call.toList.count token := by
        cases numbered : entry.2.call with
        | none => simp [callsOf, numbered]
        | some number => simp [callsOf, numbered]
      simp only [count_carried, split, grown]
      omega

theorem SameCalls.shift (same : SameCalls before after) :
    Custody.Shift before.account after.account [] := by
  refine .moved (congrArg List.length same.1) ?_
  exact List.perm_iff_count.mpr (fun token => (same.2.2 token).symm)

theorem Took.shift {message : Message} (took : Took before source message after) :
    Custody.Shift before.account after.account [] := by
  obtain ⟨callers, _, counts⟩ := took
  by_cases call : message.header.kind = .methodCall
  · refine .entered ?_ ?_
    · change after.callers.length = before.callers.length + 1
      rw [callers, numbered, if_pos call, List.length_append]
      rfl
    · apply List.perm_iff_count.mpr
      intro token
      change (before.callers.length :: before.carried).count token =
        after.carried.count token
      rw [counts, numberOf, if_pos call, List.count_cons, Option.toList_some,
        List.count_singleton]
  · refine .moved ?_ ?_
    · change after.callers.length = before.callers.length
      rw [callers, numbered, if_neg call]
    · apply List.perm_iff_count.mpr
      intro token
      change before.carried.count token = after.carried.count token
      rw [counts, numberOf, if_neg call]
      simp

theorem shift_of_counts {gone : List Nat} (callers : after.callers = before.callers)
    (counts : ∀ token, before.carried.count token =
      gone.count token + after.carried.count token) :
    Custody.Shift before.account after.account gone := by
  refine .moved (congrArg List.length callers) (List.perm_iff_count.mpr ?_)
  intro token
  rw [List.count_append]
  exact counts token

theorem shift_refl (state : DeliveryState Host) :
    Custody.Shift state.account state.account [] :=
  shift_of_counts rfl (fun token => by simp)

theorem replyTo_shift (state : DeliveryState Host) (index : Nat) (outcome : SendOutcome) :
    Custody.Shift state.account (state.replyTo index outcome).account
      (state.duties[index]?.elim [] (fun entry => lostReply entry.2 outcome)) := by
  unfold replyTo
  cases found : state.duties[index]? with
  | none => exact state.shift_refl
  | some entry =>
      obtain ⟨source, duty⟩ := entry
      have erased := eraseDuty_count found
      cases duty with
      | push target item header => exact state.shift_refl
      | answer target message announced => exact state.shift_refl
      | reply call message =>
          cases outcome with
          | sent =>
              apply shift_of_counts
              · rfl
              · intro token
                rw [erased token]
                simp only [count_carried, List.count_append, Duty.call,
                  Option.toList_some, Option.elim_some, lostReply, List.count_nil]
                omega
          | refused => exact shift_of_counts rfl erased
          | failed => exact shift_of_counts rfl erased

theorem write_shift (state : DeliveryState Host) (index : Nat) (outcome : SendOutcome) :
    Custody.Shift state.account (state.write index outcome).account
      (state.hands[index]?.elim [] (fun entry =>
        state.lostWrite entry.1 entry.2 outcome)) := by
  unfold write
  cases found : state.hands[index]? with
  | none => exact state.shift_refl
  | some entry =>
      obtain ⟨outbox, item⟩ := entry
      have erased := eraseHand_count found
      cases outcome with
      | sent =>
          apply shift_of_counts
          · rfl
          · intro token
            rw [erased token]
            simp only [count_carried, List.count_append, Option.elim_some, lostWrite,
              List.count_nil]
            omega
      | refused => exact shift_of_counts rfl erased
      | failed =>
          apply shift_of_counts
          · rfl
          · intro token
            have dropped := discard_count
              ({ state with hands := state.hands.eraseIdx index } : DeliveryState Host)
              outbox token
            change _ = (item.call.toList ++ state.queuedCalls outbox).count token + _
            rw [erased token, dropped, List.count_append, Nat.add_assoc]
            rfl

theorem next_shift (control : ModuleControl Host) (state : DeliveryState Host)
    (event : DeliveryEvent Host) :
    Custody.Shift state.account (state.next control event).account (state.lost event) := by
  cases event with
  | hear source message => exact (state.hear_took control source message).shift
  | proceed index => exact (state.proceed_same index).shift
  | reply index outcome => exact state.replyTo_shift index outcome
  | take index => exact (state.take_same index).shift
  | write index outcome => exact state.write_shift index outcome
  | discard outbox => exact shift_of_counts rfl (state.discard_count outbox)
  | hangUp source => exact shift_of_counts rfl (fun token => (Nat.zero_add _).symm)
  | notify outbox message => exact (state.trySend_same (outbox, message)).shift
  | table op => exact state.shift_refl
  | hostMoves modules controller => exact state.shift_refl

/-! ### Who a call was read from -/

def Named (state : DeliveryState Host) : Prop :=
  ∀ source duty, (source, duty) ∈ state.duties → ∀ token, duty.call = some token →
    state.callers[token]? = some source

def Excused (state : DeliveryState Host) (token : Nat) : Prop :=
  ∀ source, state.callers[token]? = some source → source ∈ state.left

theorem numbered_callers (state : DeliveryState Host) (source : PeerId)
    (message : Message) {token : Nat} {caller : PeerId}
    (known : state.callers[token]? = some caller) :
    (state.numbered source message).callers[token]? = some caller := by
  unfold numbered
  split
  · obtain ⟨below, _⟩ := List.getElem?_eq_some_iff.mp known
    change (state.callers ++ [source])[token]? = some caller
    rw [List.getElem?_append_left below]
    exact known
  · exact known

structure Grows (before after : DeliveryState Host) : Prop where
  callers : ∀ (token : Nat) (caller : PeerId),
    before.callers[token]? = some caller → after.callers[token]? = some caller
  left : ∀ peer ∈ before.left, peer ∈ after.left

theorem Grows.of_callers (callers : after.callers = before.callers)
    (left : ∀ peer ∈ before.left, peer ∈ after.left) : Grows before after where
  callers := by
    intro token caller known
    rw [callers]
    exact known
  left := left

theorem Grows.refl (state : DeliveryState Host) : Grows state state :=
  .of_callers rfl (fun _ member => member)

theorem SameCalls.grows (same : SameCalls before after) : Grows before after := by
  apply Grows.of_callers same.1
  rw [same.2.1]
  exact fun _ member => member

theorem replyTo_grows (state : DeliveryState Host) (index : Nat) (outcome : SendOutcome) :
    Grows state (state.replyTo index outcome) := by
  unfold replyTo
  split
  · cases outcome with
    | _ => exact .of_callers rfl (fun _ member => member)
  · exact .refl state

theorem write_grows (state : DeliveryState Host) (index : Nat) (outcome : SendOutcome) :
    Grows state (state.write index outcome) := by
  unfold write
  split
  · exact .refl state
  · cases outcome with
    | sent => exact .of_callers rfl (fun _ member => member)
    | refused => exact .of_callers rfl (fun _ member => member)
    | failed => exact .of_callers rfl (fun _ member => member)

theorem Took.grows {message : Message} (took : Took before source message after) :
    Grows before after where
  callers := by
    intro token caller known
    rw [took.callers]
    exact before.numbered_callers source message known
  left := by
    rw [took.left]
    exact fun _ member => member

theorem next_grows (control : ModuleControl Host) (state : DeliveryState Host)
    (event : DeliveryEvent Host) : Grows state (state.next control event) := by
  cases event with
  | hear source message => exact (state.hear_took control source message).grows
  | proceed index => exact (state.proceed_same index).grows
  | reply index outcome => exact state.replyTo_grows index outcome
  | take index => exact (state.take_same index).grows
  | write index outcome => exact state.write_grows index outcome
  | discard outbox => exact .of_callers rfl (fun _ member => member)
  | hangUp source => exact .of_callers rfl (fun _ member => List.mem_append_left _ member)
  | notify outbox message => exact (state.trySend_same (outbox, message)).grows
  | table op => exact .of_callers rfl (fun _ member => member)
  | hostMoves modules controller => exact .of_callers rfl (fun _ member => member)

/-! ### The duties of the readers -/

theorem Named.of_duties (named : before.Named) (grows : Grows before after)
    (duties : ∀ source duty, (source, duty) ∈ after.duties → ∀ token,
      duty.call = some token → after.callers[token]? = some source ∨
        ∃ old, (source, old) ∈ before.duties ∧ old.call = some token) : after.Named := by
  intro source duty member token numbered
  rcases duties source duty member token numbered with known | ⟨old, had, same⟩
  · exact known
  · exact grows.callers token source (named source old had token same)

theorem trySendAll_duties (sends : List (Outbox × Message)) :
    ∀ state : DeliveryState Host, (state.trySendAll sends).duties = state.duties := by
  induction sends with
  | nil => exact fun _ => rfl
  | cons entry rest ih =>
      intro state
      have first : (state.trySend entry).duties = state.duties := by
        unfold trySend
        split
        · rfl
        · rfl
      exact (ih (state.trySend entry)).trans first

private theorem refuse_duties {reader : PeerId} {call : Option Nat} {header : Header}
    {failure : Error} {duty : Duty}
    (member : (reader, duty) ∈ (state.refuse source call header failure).duties) :
    (reader, duty) ∈ state.duties ∨ reader = source ∧ duty.call = call := by
  cases call with
  | none => exact .inl member
  | some number =>
      rcases List.mem_append.mp member with old | new
      · exact .inl old
      · cases List.mem_singleton.mp new
        exact .inr ⟨rfl, rfl⟩

theorem hear_duties {reader : PeerId} {message : Message} {duty : Duty}
    (member : (reader, duty) ∈ (state.hear control source message).duties) :
    (reader, duty) ∈ state.duties ∨
      reader = source ∧ (duty.call = state.numberOf message ∨ duty.call = none) := by
  have read : ∀ broker : Broker Host,
      ((state.numbered source message).withBroker broker).duties = state.duties := by
    intro broker
    unfold numbered
    split
    · rfl
    · rfl
  unfold hear at member
  dsimp only at member
  split at member
  · rcases refuse_duties member with old | ⟨own, same⟩
    · rw [read] at old
      exact .inl old
    · exact .inr ⟨own, .inl same⟩
  · rcases List.mem_append.mp member with old | new
    · rw [read] at old
      exact .inl old
    · cases List.mem_singleton.mp new
      exact .inr ⟨rfl, .inl rfl⟩
  · split at member
    · rcases refuse_duties member with old | ⟨own, same⟩
      · rw [read] at old
        exact .inl old
      · exact .inr ⟨own, .inl same⟩
    · dsimp only at member
      rw [read] at member
      exact .inl member
    · rcases List.mem_append.mp member with old | new
      · dsimp only at old
        rw [read] at old
        exact .inl old
      · cases List.mem_singleton.mp new
        exact .inr ⟨rfl, .inr rfl⟩
  · rw [trySendAll_duties, read] at member
    exact .inl member

theorem proceed_duties {index : Nat} {reader : PeerId} {duty : Duty}
    (member : (reader, duty) ∈ (state.proceed index).duties) :
    ∃ old, (reader, old) ∈ state.duties ∧ (duty.call = none ∨ old.call = duty.call) := by
  unfold proceed at member
  split at member
  · rename_i source target item header found
    dsimp only at member
    split at member
    · rcases refuse_duties member with old | ⟨own, same⟩
      · exact ⟨duty, List.mem_of_mem_eraseIdx old, .inr rfl⟩
      · rw [own]
        exact ⟨_, List.mem_of_getElem? found, .inr same.symm⟩
    · split at member
      · exact ⟨duty, List.mem_of_mem_eraseIdx member, .inr rfl⟩
      · exact ⟨duty, member, .inr rfl⟩
  · dsimp only at member
    split at member
    · rw [trySendAll_duties] at member
      exact ⟨duty, List.mem_of_mem_eraseIdx member, .inr rfl⟩
    · split at member
      · rw [trySendAll_duties] at member
        exact ⟨duty, List.mem_of_mem_eraseIdx member, .inr rfl⟩
      · exact ⟨duty, member, .inr rfl⟩
  · exact ⟨duty, member, .inr rfl⟩

theorem Named.next (named : state.Named) (control : ModuleControl Host)
    (event : DeliveryEvent Host) :
    (state.next control event).Named := by
  apply named.of_duties (state.next_grows control event)
  intro reader duty member token numbered
  cases event with
  | hear source message =>
      have took := state.hear_took control source message
      rcases hear_duties member with old | ⟨own, same | nothing⟩
      · exact .inr ⟨duty, old, numbered⟩
      · left
        rw [numbered, numberOf] at same
        split at same
        · rename_i call
          cases same
          change (state.hear control source message).callers[_]? = _
          rw [took.callers, DeliveryState.numbered, if_pos call, own]
          exact List.getElem?_concat_length
        · cases same
      · rw [numbered] at nothing
        cases nothing
  | proceed index =>
      obtain ⟨old, had, same⟩ := proceed_duties member
      rcases same with nothing | same
      · rw [numbered] at nothing
        cases nothing
      · exact .inr ⟨old, had, same.trans numbered⟩
  | reply index outcome =>
      refine .inr ⟨duty, ?_, numbered⟩
      change (reader, duty) ∈ (state.replyTo index outcome).duties at member
      unfold replyTo at member
      split at member
      · cases outcome with
        | _ => exact List.mem_of_mem_eraseIdx member
      · exact member
  | take index =>
      refine .inr ⟨duty, ?_, numbered⟩
      change (reader, duty) ∈ (state.take index).duties at member
      unfold DeliveryState.take at member
      split at member
      · exact member
      · exact member
  | write index outcome =>
      refine .inr ⟨duty, ?_, numbered⟩
      change (reader, duty) ∈ (state.write index outcome).duties at member
      unfold write at member
      split at member
      · exact member
      · cases outcome with
        | _ => exact member
  | notify outbox message =>
      have same := trySendAll_duties [(outbox, message)] state
      change (reader, duty) ∈ (state.trySend (outbox, message)).duties at member
      rw [show (state.trySend (outbox, message)).duties = state.duties from same] at member
      exact .inr ⟨duty, member, numbered⟩
  | _ => exact .inr ⟨duty, member, numbered⟩

/-! ### Runs that hand every call back -/

def Released (state : DeliveryState Host) (item : Item) : Prop :=
  ∀ token, item.call = some token → state.Excused token

/-- No transport refuses or fails a call of a connected peer, none fails with such a
call queued behind, no queue is dropped with one in it, and the transport of a
connected caller takes the error reply. -/
def Careful (state : DeliveryState Host) : DeliveryEvent Host → Prop
  | .write index .refused => ∀ outbox item,
      state.hands[index]? = some (outbox, item) → state.Released item
  | .write index .failed => ∀ outbox item,
      state.hands[index]? = some (outbox, item) → state.Released item ∧
        ∀ other, (outbox, other) ∈ state.queued → state.Released other
  | .discard outbox => ∀ other, (outbox, other) ∈ state.queued → state.Released other
  | .reply index .refused | .reply index .failed => ∀ source duty,
      state.duties[index]? = some (source, duty) → source ∈ state.left
  | _ => True

theorem Excused.next {token : Nat} (excused : state.Excused token)
    (known : token < state.callers.length) (control : ModuleControl Host)
    (event : DeliveryEvent Host) :
    (state.next control event).Excused token := by
  have grows := state.next_grows control event
  intro source after
  have before := List.getElem?_eq_getElem known
  have same := grows.callers token _ before
  rw [after] at same
  cases same
  exact grows.left _ (excused _ before)

private theorem mem_callsOf {entries : List (Outbox × Item)} {token : Nat}
    (member : token ∈ callsOf entries) :
    ∃ outbox item, (outbox, item) ∈ entries ∧ item.call = some token := by
  obtain ⟨⟨outbox, item⟩, present, numbered⟩ := List.mem_filterMap.mp member
  exact ⟨outbox, item, present, numbered⟩

private theorem mem_queuedCalls {outbox : Outbox} {token : Nat}
    (member : token ∈ state.queuedCalls outbox) :
    ∃ item, (outbox, item) ∈ state.queued ∧ item.call = some token := by
  obtain ⟨queue, item, present, numbered⟩ := mem_callsOf member
  obtain ⟨queued, own⟩ := List.mem_filter.mp present
  have same : queue = outbox := of_decide_eq_true own
  rw [← same]
  exact ⟨item, queued, numbered⟩

theorem replyTo_callers (state : DeliveryState Host) (index : Nat)
    (outcome : SendOutcome) : (state.replyTo index outcome).callers = state.callers := by
  unfold replyTo
  split
  · cases outcome with
    | _ => rfl
  · rfl

theorem write_callers (state : DeliveryState Host) (index : Nat)
    (outcome : SendOutcome) : (state.write index outcome).callers = state.callers := by
  unfold write
  split
  · rfl
  · cases outcome with
    | _ => rfl

theorem Careful.excuses {event : DeliveryEvent Host} (careful : state.Careful event)
    (named : state.Named) :
    ∀ token ∈ state.lost event, (state.next control event).Excused token := by
  have grows := state.next_grows control event
  intro token dropped
  have excuse : state.Excused token → (state.next control event).callers = state.callers →
      (state.next control event).Excused token := by
    intro excused callers source known
    rw [callers] at known
    exact grows.left source (excused source known)
  cases event with
  | reply index outcome =>
      have callers := state.replyTo_callers index outcome
      change token ∈ state.duties[index]?.elim [] _ at dropped
      cases found : state.duties[index]? with
      | none =>
          rw [found] at dropped
          cases dropped
      | some entry =>
          obtain ⟨reader, duty⟩ := entry
          rw [found] at dropped
          have known : duty.call = some token := by
            cases duty with
            | reply call message =>
                cases outcome with
                | sent => cases dropped
                | _ => exact congrArg some (List.mem_singleton.mp dropped).symm
            | _ => cases dropped
          have caller := named reader duty (List.mem_of_getElem? found) token known
          have gone : reader ∈ (state.replyTo index outcome).left := by
            cases duty with
            | reply call message =>
                cases outcome with
                | sent => cases dropped
                | refused | failed => exact grows.left reader (careful reader _ found)
            | _ => cases dropped
          intro source after
          change (state.replyTo index outcome).callers[token]? = some source at after
          rw [callers, caller] at after
          cases after
          exact gone
  | write index outcome =>
      have callers := state.write_callers index outcome
      apply excuse _ callers
      change token ∈ state.hands[index]?.elim [] _ at dropped
      cases found : state.hands[index]? with
      | none =>
          rw [found] at dropped
          cases dropped
      | some entry =>
          obtain ⟨outbox, item⟩ := entry
          rw [found] at dropped
          cases outcome with
          | sent => cases dropped
          | refused =>
              exact careful outbox item found token (Option.mem_toList.mp dropped)
          | failed =>
              obtain ⟨inHand, behind⟩ := careful outbox item found
              rcases List.mem_append.mp dropped with held | queued
              · exact inHand token (Option.mem_toList.mp held)
              · obtain ⟨other, present, numbered⟩ := mem_queuedCalls queued
                exact behind other present token numbered
  | discard outbox =>
      apply excuse _ rfl
      obtain ⟨other, present, numbered⟩ := mem_queuedCalls dropped
      exact careful other present token numbered
  | _ => cases dropped

/-! ### Every call has one fate -/

/-- Every call that was read from a peer which is still connected is in one place: on
its way, accepted by the transport it was routed to, taken by the bus, or answered
with one error reply. -/
structure CallsSettled (state : DeliveryState Host) : Prop where
  once : ∀ token,
    state.inTransit.count token + state.accepted.count token +
      state.served.count token + state.answered.count token ≤ 1
  settled : ∀ token caller, state.callers[token]? = some caller → caller ∉ state.left →
    state.inTransit.count token + state.accepted.count token +
      state.served.count token + state.answered.count token = 1

/-- What careful runs preserve. -/
structure Kept (state : DeliveryState Host) : Prop where
  sound : state.account.Sound
  complete : state.account.Complete state.Excused
  named : state.Named

def careful (control : ModuleControl Host) :
    System (DeliveryState Host) (DeliveryEvent Host) :=
  (system control).restrict Careful

theorem kept_quiet (quiet : state.Quiet) : state.Kept := by
  obtain ⟨_, duties, ⟨queued, hands⟩, callers, accepted, served, answered⟩ := quiet
  have empty : state.account = ⟨0, []⟩ := by
    simp [account, carried, inTransit, dutiesOf, callsOf, duties, queued, hands, callers,
      accepted, served, answered]
  refine ⟨?_, ?_, ?_⟩
  · rw [empty]
    exact Custody.Account.sound_empty
  · rw [empty]
    intro token below
    cases below
  · intro source duty member
    rw [duties] at member
    cases member

theorem Kept.next (kept : state.Kept) (control : ModuleControl Host) {event : DeliveryEvent Host}
    (careful : state.Careful event) : (state.next control event).Kept where
  sound := (state.next_shift control event).sound kept.sound
  complete := by
    apply (state.next_shift control event).complete kept.complete
    · intro token below excused
      exact excused.next below control event
    · exact careful.excuses kept.named
  named := kept.named.next control event

theorem careful_kept (reached : (careful control).Reachable state) : state.Kept := by
  apply reached.invariant
  · intro first quiet
    exact kept_quiet quiet
  · intro before event after stepped kept
    obtain ⟨careful, _, rfl⟩ := stepped
    exact kept.next control careful

theorem count_places (state : DeliveryState Host) (token : Nat) :
    state.account.held.count token =
      state.inTransit.count token + state.accepted.count token +
        state.served.count token + state.answered.count token := by
  simp only [account, carried, List.count_append]
  omega

/-- In every careful run each call has exactly one fate. -/
theorem careful_callsSettled {control : ModuleControl Host} {state : DeliveryState Host}
    (reached : (careful control).Reachable state) : state.CallsSettled := by
  have kept := careful_kept reached
  constructor
  · intro token
    rw [← count_places]
    exact List.nodup_iff_count_le_one.mp kept.sound.once token
  · intro token caller known connected
    rw [← count_places]
    apply kept.sound.count_eq_one
    obtain ⟨below, _⟩ := List.getElem?_eq_some_iff.mp known
    rcases kept.complete token below with held | excused
    · exact held
    · exact absurd (excused caller known) connected

theorem reachable_once (reached : (system control).Reachable state) (token : Nat) :
    state.inTransit.count token + state.accepted.count token +
      state.served.count token + state.answered.count token ≤ 1 := by
  have sound : state.account.Sound := by
    change (fun state : DeliveryState Host => state.account.Sound) state
    apply reached.invariant
    · intro first quiet
      exact (kept_quiet quiet).sound
    · rintro before event after ⟨_, rfl⟩ sound
      exact (before.next_shift control event).sound sound
  rw [← count_places]
  exact List.nodup_iff_count_le_one.mp sound.once token

/-! ### A service that stops taking calls -/

/-- A call of the service that `:1.1` owns. -/
def speak : Message :=
  Message.methodCall voiceName busPath busInterface speakMember (.array [])

def ping : Message :=
  Message.methodCall busName busPath busInterface Broker.pingMember (.array [])

def idle : DeliveryState Unit :=
  ⟨voiceBroker, [], [], [], fun _ => false, [], [], [], [], []⟩

/-- `:1.2` calls the service and the call reaches the hand of its writer. -/
def called : List (DeliveryEvent Unit) := [.hear 2 speak, .proceed 0, .take 0]

/-- The transport of the service refuses one call, and fails the next with another
one queued behind it. -/
def stranded : List (DeliveryEvent Unit) :=
  called ++ [.write 0 .refused] ++ called ++ [.hear 2 speak, .proceed 0, .write 0 .failed]

/-- The service takes a call; its transport fails a signal, and the next call is
answered with an error; the bus takes a ping. -/
def settled : List (DeliveryEvent Unit) :=
  called ++ [.write 0 .sent, .notify 0 (Broker.busSignal Broker.nameOwnerChanged .null),
    .take 0, .write 0 .failed, .hear 2 speak, .proceed 0, .reply 0 .sent, .hear 2 ping]

def admits (state : DeliveryState Unit) : DeliveryEvent Unit → Bool
  | .hear source _ =>
      decide (source ∉ state.left) && decide (∀ entry ∈ state.duties, entry.1 ≠ source)
  | .take index => state.queued[index]?.all (fun entry =>
      decide (∀ earlier ∈ state.queued.take index, earlier.1 ≠ entry.1) &&
        decide (∀ held ∈ state.hands, held.1 ≠ entry.1) && !state.closed entry.1)
  | .notify _ message => message.header.kind == .signal
  | .proceed _ => true
  | .write _ _ => true
  | .reply _ _ => true
  | _ => false

def spares (state : DeliveryState Unit) : DeliveryEvent Unit → Bool
  | .write _ .refused => false
  | .write index .failed => state.hands[index]?.all (fun entry => entry.2.call.isNone) &&
      state.queued.all (fun entry => entry.2.call.isNone)
  | .reply _ .refused | .reply _ .failed => false
  | .discard _ => false
  | _ => true

theorem admits_possible {state : DeliveryState Unit} {event : DeliveryEvent Unit}
    (admitted : state.admits event = true) : state.Possible event := by
  cases event with
  | hear source message => simpa [admits, Possible, Idle] using admitted
  | take index =>
      intro entry found
      simpa [admits, found, and_assoc] using admitted
  | notify outbox message => simpa [admits, Possible] using admitted
  | proceed index => trivial
  | write index outcome => trivial
  | reply index outcome => trivial
  | _ => cases admitted

theorem spares_careful {state : DeliveryState Unit} {event : DeliveryEvent Unit}
    (spared : state.spares event = true) : state.Careful event := by
  have released : ∀ {item : Item}, item.call = none → state.Released item := by
    intro item none token some
    rw [none] at some
    cases some
  cases event with
  | write index outcome =>
      cases outcome with
      | sent => trivial
      | refused => cases spared
      | failed =>
          intro outbox item found
          simp only [spares, found, Option.all_some, Bool.and_eq_true,
            Option.isNone_iff_eq_none, List.all_eq_true] at spared
          exact ⟨released spared.1, fun other queued => released (spared.2 _ queued)⟩
  | reply index outcome =>
      cases outcome with
      | sent => trivial
      | _ => cases spared
  | discard outbox => cases spared
  | _ => trivial

/-- Where the calls are, and whom they were read from. -/
def fates (state : DeliveryState Unit) : List PeerId × List Nat × List Nat × List Nat ×
    List Nat :=
  (state.callers, state.inTransit, state.accepted, state.served, state.answered)

theorem settled_callsSettled :
    ∃ state : DeliveryState Unit, state.CallsSettled ∧
      state.fates = ([2, 2, 2], [], [0], [2], [1]) := by
  have run : (replay (next emptyControl) (fun state event =>
      state.admits event && state.spares event) idle settled).map fates =
        some ([2, 2, 2], [], [0], [2], [1]) := by
    rfl
  obtain ⟨state, reached, seen⟩ := Option.map_eq_some_iff.mp run
  have start : idle.Quiet :=
    ⟨voiceTable_reachable, rfl, ⟨rfl, rfl⟩, ⟨rfl, rfl, rfl, rfl⟩⟩
  have careful : (careful emptyControl).Run idle settled state := by
    apply System.Run.of_replay _ reached
    intro before event admitted
    rw [Bool.and_eq_true] at admitted
    exact ⟨spares_careful admitted.2, admits_possible admitted.1, rfl⟩
  exact ⟨state, careful_callsSettled ⟨idle, settled, start, careful⟩, seen⟩

/-- Three calls of a connected peer are nowhere: none was accepted or answered, and
none is on its way. -/
theorem stranded_calls_lost :
    ∃ state : DeliveryState Unit, (system emptyControl).Reachable state ∧
      state.left = [] ∧ state.fates = ([2, 2, 2], [], [], [], []) ∧
      ¬ state.CallsSettled := by
  have run : (replay (next emptyControl) admits idle stranded).map
      (fun state => (state.left, state.fates)) =
        some ([], [2, 2, 2], [], [], [], []) := by
    rfl
  obtain ⟨state, reached, seen⟩ := Option.map_eq_some_iff.mp run
  rw [Prod.mk.injEq] at seen
  obtain ⟨left, fates⟩ := seen
  refine ⟨state, ⟨idle, stranded, ?_, ?_⟩, left, fates, ?_⟩
  · exact ⟨voiceTable_reachable, rfl, ⟨rfl, rfl⟩, ⟨rfl, rfl, rfl, rfl⟩⟩
  · apply System.Run.of_replay _ reached
    intro before event admitted
    exact ⟨admits_possible admitted, rfl⟩
  · intro settled
    simp only [DeliveryState.fates, Prod.mk.injEq] at fates
    obtain ⟨callers, transit, accepted, served, answered⟩ := fates
    have one := settled.settled 0 2 (by rw [callers]; rfl) (by rw [left]; simp)
    rw [transit, accepted, served, answered] at one
    cases one

end DeliveryState

end TinyBus
