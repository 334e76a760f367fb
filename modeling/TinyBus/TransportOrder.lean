import TinyBus.TransportFates
import TinyBus.Library.Precedence

/-
The order in which the frames of a transport reach its module.  Sends follow one
another; the queue keeps their order, and so does its one drainer.  What goes straight
into the module overtakes what waits: by design a reply, a signal or a call of the
controller before READY, and any call that finds the module ready.
-/

open Precedence

namespace TinyBus

namespace ModuleTransport

def Action.carried : Action → Option Delivery
  | .frame delivery => some delivery
  | .check delivery => some delivery
  | .enter delivery => some delivery
  | .permit delivery => some delivery
  | .delivering delivery => some delivery
  | .backpressure delivery => some delivery
  | .stalled delivery => some delivery
  | .expire delivery => some delivery
  | .undelivered delivery _ => some delivery
  | _ => none

def Delivery.entry (delivery : Delivery) : Entry := ⟨delivery.id, delivery.message⟩

section

variable {toVec : Message → Except String Bytes} {self : Nat} {shared after : Shared}
  {action next : Action} {more : Program} {delivery : Delivery}

private theorem none_carried {program : Program}
    (none : program.all (fun action => action.carried.isNone) = true) (member : next ∈ program)
    (carries : next.carried = some delivery) : False := by
  have empty := List.all_eq_true.mp none next member
  rw [carries] at empty
  cases empty

private theorem carried_on {again : Action} (member : next ∈ [again])
    (same : again.carried = action.carried) (carries : next.carried = some delivery) :
    action.carried = some delivery := by
  rw [List.mem_singleton.mp member, same] at carries
  exact carries

theorem carried_follows (acts : Acts toVec self shared action after more)
    (member : next ∈ more) (carries : next.carried = some delivery) :
    action.carried = some delivery ∨
      (action = .pop ∧ delivery.queued = true ∧
        shared.pending = delivery.entry :: after.pending) ∨
      ∃ message bypass, action = .enqueue message bypass ∧
        delivery = ⟨self, message, bypass, false⟩ ∧ after.pending = shared.pending ∧
          (Shared.isCall message = false ∨ shared.isReady = true ∨ bypass.isSome = true) := by
  cases acts with
  | canceled _ => exact (none_carried rfl member carries).elim
  | sendLooks looks =>
      refine (none_carried ?_ member carries).elim
      cases looks with
      | @awaitSucceeds use _ => cases use <;> rfl
      | @awaitExpires _ initiating _ => cases initiating <;> rfl
      | @awaitCanceled _ initiating => cases initiating <;> rfl
      | _ => rfl
  | deliveryLooks looks =>
      cases looks with
      | @frames delivery' _ =>
          left
          unfold Shared.frameOf at member
          split at member
          · exact carried_on member rfl carries
          · split at member
            · exact carried_on member rfl carries
            · exact carried_on member rfl carries
      | frameClosed _ => exact .inl (carried_on member rfl carries)
      | checkClosed _ => exact .inl (carried_on member rfl carries)
      | checks _ => exact .inl (carried_on member rfl carries)
      | enterRefused => exact .inl (carried_on member rfl carries)
      | pressClosed _ => exact .inl (carried_on member rfl carries)
      | presses => exact .inl (carried_on member rfl carries)
      | wakes => exact .inl (carried_on member rfl carries)
      | expires => exact .inl (carried_on member rfl carries)
      | expireClosed _ => exact .inl (carried_on member rfl carries)
      | _ => exact (none_carried rfl member carries).elim
  | physicalLooks looks => cases looks <;> exact (none_carried rfl member carries).elim
  | reinitLooks looks => cases looks <;> exact (none_carried rfl member carries).elim
  | locks takes _ => cases takes <;> exact (none_carried rfl member carries).elim
  | notes notes =>
      cases notes with
      | @releases allowed => cases allowed <;> exact (none_carried rfl member carries).elim
      | _ => exact (none_carried rfl member carries).elim
  | fails =>
      split at member <;> exact (none_carried rfl member carries).elim
  | goesDirect _ passes =>
      rw [List.mem_singleton.mp member] at carries
      exact .inr (.inr ⟨_, _, rfl, (Option.some.inj carries).symm, rfl, passes⟩)
  | enters _ => exact .inl (carried_on member rfl carries)
  | permitRefused => exact .inl (carried_on member rfl carries)
  | permits => exact .inl (carried_on member rfl carries)
  | pushesBack => exact .inl (carried_on member rfl carries)
  | deliveryFails => exact .inl (carried_on member rfl carries)
  | delivers =>
      unfold Shared.afterDelivery at member
      split at member <;> exact (none_carried rfl member carries).elim
  | expires _ =>
      rcases List.mem_append.mp member with ends | last
      · exact (none_carried rfl ends carries).elim
      · rcases List.mem_cons.mp last with rfl | last
        · cases carries
        · rw [List.mem_singleton.mp last] at carries
          exact .inl carries
  | pops queued =>
      rw [List.mem_singleton.mp member] at carries
      cases carries
      exact .inr (.inl ⟨rfl, rfl, queued⟩)
  | takesJob _ => split at member <;> exact (none_carried rfl member carries).elim
  | publishesInit =>
      split at member <;> exact (none_carried rfl member carries).elim
  | _ => exact (none_carried rfl member carries).elim

theorem offered_grows (acts : Acts toVec self shared action after more) :
    after.offered = shared.offered ∨
      ∃ delivery, action = .permit delivery ∧ more = [.delivering delivery] ∧
        after.offered = shared.offered ++ [delivery.id] := by
  cases acts with
  | notes notes => cases notes <;> exact .inl rfl
  | permits => exact .inr ⟨_, rfl, rfl, rfl⟩
  | _ => exact .inl rfl

inductive QueueMoves (self : Nat) (shared after : Shared) (action : Action) : Prop
  | same (kept : after.pending = shared.pending)
  | emptied (empty : after.pending = [])
  | popped (pops : action = .pop) (head : Entry) (left : shared.pending = head :: after.pending)
  | queued (message : Message) (queues : action = .enqueue message none)
      (grown : after.pending = shared.pending ++ [⟨self, message⟩])

theorem queue_moves (acts : Acts toVec self shared action after more) :
    QueueMoves self shared after action := by
  cases acts with
  | notes notes => cases notes <;> exact .same rfl
  | queues _ _ _ direct _ =>
      subst direct
      exact .queued _ rfl rfl
  | pops queued => exact .popped rfl _ queued
  | dropsPending _ => exact .emptied rfl
  | faultsPending => exact .emptied rfl
  | closes => exact .emptied rfl
  | closesSync => exact .emptied rfl
  | _ => exact .same rfl

end

/-! ### One send after the other -/

/-- The send returned, or was given up. -/
def Over (state : Tasks Shared Program) (id : Nat) : Prop :=
  (∃ result, state.tasks.lookup id = some [.returned result]) ∨
    state.tasks.lookup id = some [.canceled]

/-- A send starts when the earlier ones are over. -/
def OneSend (state : Tasks Shared Program) (event : Tasks.Event Call Choice Outside) : Prop :=
  ∀ id choice message rest, event = .advance id choice →
    state.tasks.lookup id = some (.arrive message :: rest) →
      ∀ entry ∈ state.shared.sent, Over state entry.id

def Serial (state : Tasks Shared Program) : Prop :=
  ∀ earlier last, state.shared.sent = earlier ++ [last] →
    ∀ entry ∈ earlier, Over state entry.id

variable {toVec : Message → Except String Bytes} {state : Tasks Shared Program}

private theorem over_still {id : Nat} {choice : Choice} {task stepped : Program}
    {shared : Shared} (concluded : Over state id) (present : state.tasks.lookup id = some task)
    (taken : (kind toVec).step id choice state.shared task = some (shared, stepped)) :
    False := by
  rcases concluded with ⟨result, ended⟩ | ended
  · rw [ended] at present
    cases present
    cases choice <;> cases taken
  · rw [ended] at present
    cases present
    cases choice <;> cases taken

private theorem over_kept {id other : Nat} {shared : Shared} {task : Program}
    (concluded : Over state other) (different : other ≠ id) :
    Over { shared := shared, tasks := state.tasks.insert id task } other := by
  unfold Over
  rw [Table.lookup_insert_eq, if_neg different]
  exact concluded

theorem reachable_serial
    (reached : ((system toVec).restrict OneSend).Reachable state) : Serial state := by
  apply reached.invariant_with (fun _ reached => reached.of_restrict)
  · rintro first ⟨fresh, _⟩ earlier last sent
    rw [fresh.history.2.1] at sent
    exact absurd sent.symm (List.append_ne_nil_of_right_ne_nil _ (List.cons_ne_nil _ _))
  · rintro before event after reached ⟨one, rfl⟩ serial
    have moved := Tasks.next_moved (kind toVec) before event
    generalize Tasks.next (kind toVec) before event = next at moved
    cases moved with
    | still => exact serial
    | @started id call vacant =>
        intro earlier last sent entry member
        refine over_kept (serial earlier last sent entry member) ?_
        rintro rfl
        rcases serial earlier last sent entry member with ⟨_, present⟩ | present
        · rw [vacant] at present
          cases present
        · rw [vacant] at present
          cases present
    | @around event =>
        intro earlier last sent entry member
        refine serial earlier last ?_ entry member
        rw [← sent]
        cases event <;> rfl
    | @stepped id choice task stepped shared present taken =>
        have still := taken
        obtain ⟨action, rest, more, rfl, rfl, acts⟩ := step_acts taken
        intro earlier last sent entry member
        have concluded : Over before entry.id := by
          rcases sent_grows acts with same | ⟨message, rfl, grown⟩
          · exact serial earlier last (same.symm.trans sent) entry member
          · rw [sent] at grown
            obtain ⟨rfl, _⟩ := List.append_inj' grown rfl
            exact one id choice message rest rfl present entry member
        refine over_kept concluded ?_
        rintro rfl
        exact over_still concluded present still

theorem last_of_running (serial : Serial state) {entry : Entry}
    (sent : entry ∈ state.shared.sent) (running : ¬ Over state entry.id) :
    ∃ earlier, state.shared.sent = earlier ++ [entry] := by
  rcases List.eq_nil_or_concat state.shared.sent with none | ⟨earlier, last, whole⟩
  · rw [none] at sent
    cases sent
  · rw [List.concat_eq_append] at whole
    rw [whole] at sent
    rcases List.mem_append.mp sent with before | same
    · exact absurd (serial earlier last whole entry before) running
    · rw [List.mem_singleton.mp same]
      exact ⟨earlier, whole⟩

private theorem running_of_mem {id : Nat} {task : Program} {action : Action}
    (present : state.tasks.lookup id = some task) (member : action ∈ task)
    (goes : ∀ result, action ≠ .returned result) (stays : action ≠ .canceled) :
    ¬ Over state id := by
  rintro (⟨result, ended⟩ | ended)
  · rw [ended] at present
    cases present
    exact goes result (List.mem_singleton.mp member)
  · rw [ended] at present
    cases present
    exact stays (List.mem_singleton.mp member)

/-! ### Who waits, and who may go ahead -/

def Ahead (shared : Shared) (entry : Entry) : Prop :=
  ∀ later, Before shared.sent entry later → later.id ∈ shared.offered →
    Privileged shared later.message

def Idle (state : Tasks Shared Program) : Prop :=
  state.shared.pending = [] ∧ ∀ id task action delivery, state.tasks.lookup id = some task →
    action ∈ task → action.carried = some delivery → delivery.queued = false

/-- What a delivery may rely on: from the queue it is first in line, and straight from
its send nothing waits for it that it must not overtake. -/
def InHand (state : Tasks Shared Program) (delivery : Delivery) : Prop :=
  if delivery.queued then
    (delivery.entry :: state.shared.pending).Sublist state.shared.sent ∧
      Ahead state.shared delivery.entry
  else Privileged state.shared delivery.message ∨ Idle state

def Unhurried (state : Tasks Shared Program) (event : Tasks.Event Call Choice Outside) :
    Prop :=
  ∀ id choice message rest, event = .advance id choice →
    state.tasks.lookup id = some (.enqueue message none :: rest) →
      Shared.isCall message = true → state.shared.isReady = true → Idle state

/-- Whatever overtakes a message that was sent before it need not wait. -/
def InOrder (shared : Shared) : Prop :=
  ∀ earlier later, Before shared.sent earlier later →
    Before shared.offered later.id earlier.id → Privileged shared later.message

structure InLine (state : Tasks Shared Program) : Prop where
  queue : state.shared.pending.Sublist state.shared.sent
  offers : ∀ id ∈ state.shared.offered, ∃ entry ∈ state.shared.sent, entry.id = id
  waits : ∀ entry ∈ state.shared.pending, Ahead state.shared entry
  hands : ∀ id task action delivery, state.tasks.lookup id = some task → action ∈ task →
    action.carried = some delivery → InHand state delivery
  order : InOrder state.shared

section

variable {id : Nat} {after : Shared} {action : Action} {rest more : Program}

variable {delivery : Delivery} {task : Program} {beside : Action} {bypass : Option BusName}
  {other : Nat}

private theorem known_of_carried {action : Action} {shared : Shared}
    (known : action.Known id shared) (carries : action.carried = some delivery) :
    delivery.Known id shared := by
  cases action <;> cases carries <;> exact known

private theorem sent_of_known {shared : Shared}
    (known : delivery.Known id shared) : delivery.entry ∈ shared.sent := by
  unfold Delivery.Known at known
  split at known
  · exact known.1
  · obtain ⟨same, sent⟩ := known
    unfold Delivery.entry
    rw [same]
    exact sent

private theorem entry_unique (recorded : Recorded state) {one other : Entry}
    (sent : one ∈ state.shared.sent) (also : other ∈ state.shared.sent)
    (same : one.id = other.id) : one = other :=
  List.inj_on_of_nodup_map recorded.once sent also same

private theorem sent_nodup (recorded : Recorded state) : state.shared.sent.Nodup :=
  recorded.once.of_map _

private theorem carried_running (present : state.tasks.lookup id = some task)
    (member : action ∈ task) (carries : action.carried = some delivery) : ¬ Over state id := by
  refine running_of_mem present member ?_ ?_
  · rintro result rfl
    cases carries
  · rintro rfl
    cases carries

private structure OneTurn (toVec : Message → Except String Bytes) (state : Tasks Shared Program)
    (id : Nat) (action : Action) (rest : Program) (after : Shared) (more : Program) : Prop where
  present : state.tasks.lookup id = some (action :: rest)
  acts : Acts toVec id state.shared action after more
  sound : Tasks.Sound Recorded Knows state
  serial : Serial state
  drainer : Tasks.weight (fun _ => weigh Action.drains) state.tasks ≤ 1
  places : ∀ other, waiting state other ≤ 1

private theorem holds_of_carried {id self : Nat} {action : Action}
    (carries : action.carried = some delivery) (same : delivery.id = id) :
    1 ≤ action.holds id self := by
  cases action <;> cases carries <;> simp [Action.holds, same]

private theorem drains_of_carried {action : Action} (carries : action.carried = some delivery)
    (queued : delivery.queued = true) :
    1 ≤ action.drains := by
  cases action <;> cases carries <;> simp [Action.drains, queued]

private theorem OneTurn.known (turn : OneTurn toVec state id action rest after more) :
    action.Known id state.shared :=
  (turn.sound.own id _ turn.present).known action (List.mem_cons_self ..)

private theorem OneTurn.apart (turn : OneTurn toVec state id action rest after more)
    {message : Message} (enqueues : action = .enqueue message bypass)
    (found : state.tasks.lookup other = some task) (member : beside ∈ task)
    (carries : beside.carried = some delivery) (away : other ≠ id ∨ beside ∈ rest) :
    delivery.id ≠ id := by
  intro same
  have one := turn.places id
  unfold waiting at one
  subst enqueues
  refine sole_of_weight (Action.holds id) (by omega) turn.present ?_ found member
    (holds_of_carried carries same) away
  simp [Action.holds]

private theorem OneTurn.not_pending (turn : OneTurn toVec state id action rest after more)
    {message : Message} (enqueues : action = .enqueue message bypass) :
    ∀ entry ∈ state.shared.pending, entry.id ≠ id := by
  intro entry member same
  have one := turn.places id
  unfold waiting at one
  have counted : 0 < (state.shared.pending.map Entry.id).count id :=
    List.count_pos_iff.mpr (List.mem_map.mpr ⟨entry, member, same⟩)
  have own := Tasks.own_le_weight
    (fun self task => Nat.zero_le (weigh (Action.holds id self) task)) turn.present
  subst enqueues
  rw [weigh_cons] at own
  have holds : Action.holds id id (.enqueue message bypass) = 1 := by simp [Action.holds]
  omega

private theorem OneTurn.newest (turn : OneTurn toVec state id action rest after more)
    {message : Message} (enqueues : action = .enqueue message bypass) :
    ∃ earlier, state.shared.sent = earlier ++ [⟨id, message⟩] ∧ after.sent = state.shared.sent := by
  have known := turn.known
  have running : ¬ Over state id := by
    refine running_of_mem turn.present (List.mem_cons_self ..) ?_ ?_ <;> simp [enqueues]
  subst enqueues
  obtain ⟨earlier, last⟩ := last_of_running turn.serial known.1 running
  refine ⟨earlier, last, ?_⟩
  rcases sent_grows turn.acts with same | ⟨_, arrives, _⟩
  · exact same
  · cases arrives

private theorem OneTurn.drains_alone (turn : OneTurn toVec state id action rest after more)
    (carries : action.carried = some delivery) (queued : delivery.queued = true) {second : Delivery}
    (found : state.tasks.lookup other = some task) (member : beside ∈ task)
    (also : beside.carried = some second) (too : second.queued = true) :
    second = delivery := by
  by_cases away : other ≠ id ∨ beside ∈ rest
  · exact (sole_of_weight (fun _ => Action.drains) turn.drainer turn.present
      (drains_of_carried carries queued) found member (drains_of_carried also too) away).elim
  · rw [not_or, not_not] at away
    rw [away.1, turn.present] at found
    cases found
    rcases List.mem_cons.mp member with same | later
    · rw [same, carries] at also
      exact (Option.some.inj also).symm
    · exact absurd later away.2

/-! ### A step keeps the line -/

private theorem OneTurn.line_kept (turn : OneTurn toVec state id action rest after more)
    (front : List Entry) (stood : (front ++ state.shared.pending).Sublist state.shared.sent)
    (away : ∀ message, action = .enqueue message none → ∀ entry ∈ front, entry.id ≠ id) :
    (front ++ after.pending).Sublist after.sent := by
  have grown : state.shared.sent.Sublist after.sent := by
    rcases sent_grows turn.acts with same | ⟨message, _, more⟩
    · rw [same]
    · rw [more]
      exact List.sublist_append_left ..
  cases queue_moves turn.acts with
  | same kept =>
      rw [kept]
      exact stood.trans grown
  | emptied empty =>
      rw [empty, List.append_nil]
      exact ((List.sublist_append_left front _).trans stood).trans grown
  | popped _ head left =>
      rw [left] at stood
      have shorter : after.pending.Sublist (head :: after.pending) := List.sublist_cons_self ..
      exact (((List.Sublist.refl front).append shorter).trans stood).trans grown
  | queued message enqueues queue =>
      obtain ⟨earlier, last, same⟩ := turn.newest enqueues
      rw [queue, same, ← List.append_assoc]
      have absent : ⟨id, message⟩ ∉ front ++ state.shared.pending := by
        intro member
        rcases List.mem_append.mp member with first | later
        · exact away message enqueues _ first rfl
        · exact turn.not_pending enqueues _ later rfl
      rw [last] at stood ⊢
      exact (sublist_of_concat stood absent).append (List.Sublist.refl _)

private theorem OneTurn.before_sent (turn : OneTurn toVec state id action rest after more)
    (offers : ∀ id ∈ state.shared.offered, ∃ entry ∈ state.shared.sent, entry.id = id)
    {earlier later : Entry} (before : Before after.sent earlier later)
    (offered : later.id ∈ after.offered) : Before state.shared.sent earlier later := by
  have known := turn.known
  rcases sent_grows turn.acts with same | ⟨message, rfl, grown⟩
  · rw [← same]
    exact before
  · rw [grown] at before
    rcases before_concat_iff.mp before with old | ⟨_, rfl⟩
    · exact old
    · rcases offered_grows turn.acts with kept | ⟨_, permits, _⟩
      · rw [kept] at offered
        obtain ⟨entry, sent, same⟩ := offers _ offered
        exact absurd same (known entry sent)
      · cases permits

private theorem OneTurn.ahead_kept (turn : OneTurn toVec state id action rest after more)
    (offers : ∀ id ∈ state.shared.offered, ∃ entry ∈ state.shared.sent, entry.id = id)
    {entry : Entry} (ahead : Ahead state.shared entry)
    (passes : ∀ delivery, action = .permit delivery →
      Before state.shared.sent entry delivery.entry → Privileged state.shared delivery.message) :
    Ahead after entry := by
  intro later before offered
  have sent := turn.before_sent offers before offered
  refine Privileged.kept (controller_stays turn.acts) ?_
  rcases offered_grows turn.acts with kept | ⟨delivery, rfl, _, grown⟩
  · rw [kept] at offered
    exact ahead later sent offered
  · rw [grown] at offered
    rcases List.mem_append.mp offered with old | new
    · exact ahead later sent old
    · have known := sent_of_known (known_of_carried turn.known rfl)
      have same : later = delivery.entry :=
        entry_unique turn.sound.common sent.right_mem known (List.mem_singleton.mp new)
      subst same
      exact passes delivery rfl sent

private theorem OneTurn.passes_pending (turn : OneTurn toVec state id action rest after more)
    (line : InLine state) {entry : Entry} (waits : entry ∈ state.shared.pending)
    (permits : action = .permit delivery) (before : Before state.shared.sent entry delivery.entry) :
    Privileged state.shared delivery.message := by
  subst permits
  have hand := line.hands id _ _ delivery turn.present (List.mem_cons_self ..) rfl
  unfold InHand at hand
  split at hand
  · have after : Before state.shared.sent delivery.entry entry :=
      ((List.singleton_sublist.mpr waits).cons_cons _).trans hand.1
    exact absurd before (after.asymm (sent_nodup turn.sound.common))
  · rcases hand with privileged | idle
    · exact privileged
    · rw [idle.1] at waits
      cases waits

private theorem OneTurn.passes_hand (turn : OneTurn toVec state id action rest after more)
    (line : InLine state) {first : Delivery} (found : state.tasks.lookup other = some task)
    (member : beside ∈ task) (carries : beside.carried = some first) (queued : first.queued = true)
    (permits : action = .permit delivery)
    (before : Before state.shared.sent first.entry delivery.entry) :
    Privileged state.shared delivery.message := by
  subst permits
  have hand := line.hands id _ _ delivery turn.present (List.mem_cons_self ..) rfl
  unfold InHand at hand
  split at hand
  · rename_i too
    have same := turn.drains_alone rfl too found member carries queued
    rw [same] at before
    exact absurd before (not_before_self (sent_nodup turn.sound.common))
  · rcases hand with privileged | idle
    · exact privileged
    · rw [idle.2 other task beside first found member carries] at queued
      cases queued

private abbrev stepped (state : Tasks Shared Program) (id : Nat) (after : Shared)
    (rest more : Program) : Tasks Shared Program :=
  { shared := after, tasks := state.tasks.insert id (more ++ rest) }

private theorem OneTurn.origin (turn : OneTurn toVec state id action rest after more)
    {next : Action} (found : (stepped state id after rest more).tasks.lookup other = some task)
    (member : next ∈ task) :
    (other = id ∧ next ∈ more) ∨ ∃ before, state.tasks.lookup other = some before ∧
      next ∈ before ∧ (other ≠ id ∨ next ∈ rest) := by
  dsimp only at found
  rw [Table.lookup_insert_eq] at found
  split at found
  · rename_i same
    cases found
    rcases List.mem_append.mp member with new | old
    · exact .inl ⟨same, new⟩
    · subst same
      exact .inr ⟨_, turn.present, List.mem_cons_of_mem _ old, .inr old⟩
  · rename_i different
    exact .inr ⟨task, found, member, .inl different⟩

private theorem OneTurn.idle_kept (turn : OneTurn toVec state id action rest after more)
    (idle : Idle state) (empty : after.pending = []) : Idle (stepped state id after rest more) := by
  refine ⟨empty, ?_⟩
  intro other task next delivery found member carries
  rcases turn.origin found member with ⟨_, new⟩ | ⟨before, present, old, _⟩
  · rcases carried_follows turn.acts new carries with
      goes | ⟨_, _, waits⟩ | ⟨_, _, _, rfl, _⟩
    · exact idle.2 id _ action delivery turn.present (List.mem_cons_self ..) goes
    · rw [idle.1] at waits
      cases waits
    · rfl
  · exact idle.2 other before next delivery present old carries

private theorem OneTurn.still_empty (turn : OneTurn toVec state id action rest after more)
    (idle : Idle state) (found : state.tasks.lookup other = some task) (member : beside ∈ task)
    (carries : beside.carried = some delivery) (direct : delivery.queued = false)
    (away : other ≠ id ∨ beside ∈ rest ∨ action.carried = some delivery) :
    after.pending = [] := by
  cases queue_moves turn.acts with
  | same kept => rw [kept, idle.1]
  | emptied empty => exact empty
  | popped _ head left =>
      rw [idle.1] at left
      cases left
  | queued message enqueues _ =>
      -- Both sends run, and so they are the last one.
      have known : delivery.Known other state.shared :=
        known_of_carried ((turn.sound.own other task found).known beside member) carries
      unfold Delivery.Known at known
      rw [if_neg (by rw [direct]; exact Bool.false_ne_true)] at known
      obtain ⟨earlier, last⟩ := last_of_running turn.serial known.2
        (carried_running found member carries)
      obtain ⟨before, newest, _⟩ := turn.newest enqueues
      rw [newest] at last
      obtain ⟨_, same⟩ := List.append_inj' last rfl
      have ids : id = other := congrArg Entry.id (List.cons.inj same).1
      subst ids
      rcases away with different | later | goes
      · exact absurd rfl different
      · exact absurd known.1 (turn.apart enqueues found member carries (.inr later))
      · rw [enqueues] at goes
        cases goes

private theorem OneTurn.hand_kept (turn : OneTurn toVec state id action rest after more)
    (line : InLine state) (found : state.tasks.lookup other = some task) (member : beside ∈ task)
    (carries : beside.carried = some delivery)
    (away : other ≠ id ∨ beside ∈ rest ∨ action.carried = some delivery) :
    InHand (stepped state id after rest more) delivery := by
  have hand := line.hands other task beside delivery found member carries
  unfold InHand at hand ⊢
  cases kind : delivery.queued with
  | true =>
      rw [if_pos kind] at hand
      refine ⟨turn.line_kept [delivery.entry] hand.1 ?_, ?_⟩
      · intro message enqueues entry first
        rw [List.mem_singleton.mp first]
        rcases away with different | later | goes
        · exact turn.apart enqueues found member carries (.inl different)
        · exact turn.apart enqueues found member carries (.inr later)
        · rw [enqueues] at goes
          cases goes
      · exact turn.ahead_kept line.offers hand.2
          (fun _ permits before => turn.passes_hand line found member carries kind permits before)
  | false =>
      rw [if_neg (by rw [kind]; exact Bool.false_ne_true)] at hand
      rcases hand with privileged | idle
      · exact .inl (privileged.kept (controller_stays turn.acts))
      · exact .inr (turn.idle_kept idle
          (turn.still_empty idle found member carries kind away))

private theorem OneTurn.hand_new (turn : OneTurn toVec state id action rest after more)
    (line : InLine state) {choice : Choice} (unhurried : Unhurried state (.advance id choice))
    {next : Action} (member : next ∈ more) (carries : next.carried = some delivery) :
    InHand (stepped state id after rest more) delivery := by
  have known := turn.known
  rcases carried_follows turn.acts member carries with
    goes | ⟨pops, queued, waits⟩ | ⟨message, bypass, enqueues, rfl, kept, passes⟩
  · exact turn.hand_kept line turn.present (List.mem_cons_self ..) goes (.inr (.inr goes))
  · unfold InHand
    rw [if_pos queued]
    have same : after.sent = state.shared.sent := by
      rcases sent_grows turn.acts with same | ⟨_, arrives, _⟩
      · exact same
      · rw [pops] at arrives
        cases arrives
    refine ⟨?_, turn.ahead_kept line.offers (line.waits _ ?_) ?_⟩
    · dsimp only
      rw [same, ← waits]
      exact line.queue
    · rw [waits]
      exact List.mem_cons_self ..
    · intro _ permits
      rw [pops] at permits
      cases permits
  · unfold InHand
    rw [if_neg Bool.false_ne_true]
    subst enqueues
    rcases passes with reply | passes
    · exact .inl (.inl reply)
    · cases bypass with
      | some peer => exact .inl ((known.2 rfl).kept (controller_stays turn.acts))
      | none =>
          rcases passes with ready | none
          · cases call : Shared.isCall message with
            | false => exact .inl (.inl call)
            | true =>
                have idle := unhurried id choice message rest rfl turn.present call ready
                exact .inr (turn.idle_kept idle (kept.trans idle.1))
          · cases none

private theorem OneTurn.order_kept (turn : OneTurn toVec state id action rest after more)
    (line : InLine state) : InOrder after := by
  intro earlier later before overtakes
  have sent := turn.before_sent line.offers before (overtakes.left_mem)
  refine Privileged.kept (controller_stays turn.acts) ?_
  rcases offered_grows turn.acts with kept | ⟨delivery, rfl, _, grown⟩
  · rw [kept] at overtakes
    exact line.order earlier later sent overtakes
  · rw [grown] at overtakes
    rcases before_concat_iff.mp overtakes with old | ⟨offered, new⟩
    · exact line.order earlier later sent old
    · have hand := line.hands id _ _ delivery turn.present (List.mem_cons_self ..) rfl
      have known : delivery.Known id state.shared := turn.known
      have same : earlier = delivery.entry :=
        entry_unique turn.sound.common sent.left_mem (sent_of_known known) new
      subst same
      unfold InHand at hand
      unfold Delivery.Known at known
      split at hand
      · exact hand.2 later sent offered
      · rename_i direct
        -- A message that goes straight from its send was sent last.
        rw [if_neg direct] at known
        have carries : Action.carried (.permit delivery) = some delivery := rfl
        obtain ⟨first, last⟩ := last_of_running turn.serial known.2
          (carried_running turn.present (List.mem_cons_self ..) carries)
        have once := sent_nodup turn.sound.common
        unfold Delivery.entry at sent
        rw [known.1, last] at sent
        rw [last] at once
        exact absurd sent (not_before_of_last once)

private theorem OneTurn.line (turn : OneTurn toVec state id action rest after more)
    (line : InLine state) {choice : Choice}
    (unhurried : Unhurried state (.advance id choice)) :
    InLine (stepped state id after rest more) where
  queue := turn.line_kept [] line.queue (fun _ _ entry none => nomatch none)
  offers := by
    intro number offered
    have grown := sent_mono turn.acts
    rcases offered_grows turn.acts with kept | ⟨delivery, rfl, _, more⟩
    · dsimp only at offered
      rw [kept] at offered
      obtain ⟨entry, sent, same⟩ := line.offers number offered
      exact ⟨entry, grown sent, same⟩
    · dsimp only at offered
      rw [more] at offered
      rcases List.mem_append.mp offered with old | new
      · obtain ⟨entry, sent, same⟩ := line.offers number old
        exact ⟨entry, grown sent, same⟩
      · rw [List.mem_singleton.mp new]
        exact ⟨delivery.entry, grown (sent_of_known (known_of_carried turn.known rfl)), rfl⟩
  waits := by
    intro entry waits
    have stays (before : entry ∈ state.shared.pending) : Ahead after entry :=
      turn.ahead_kept line.offers (line.waits entry before)
        (fun _ permits later => turn.passes_pending line before permits later)
    cases queue_moves turn.acts with
    | same kept =>
        dsimp only at waits
        exact stays (kept ▸ waits)
    | emptied empty =>
        dsimp only at waits
        rw [empty] at waits
        cases waits
    | popped _ head left =>
        exact stays (left ▸ List.mem_cons_of_mem _ waits)
    | queued message enqueues queue =>
        dsimp only at waits
        rw [queue] at waits
        rcases List.mem_append.mp waits with before | new
        · exact stays before
        · rw [List.mem_singleton.mp new]
          obtain ⟨earlier, last, same⟩ := turn.newest enqueues
          intro later before
          have once := sent_nodup turn.sound.common
          dsimp only at before
          rw [same, last] at before
          rw [last] at once
          exact absurd before (not_before_of_last once)
  hands := by
    intro other task next delivery found member carries
    rcases turn.origin found member with ⟨_, new⟩ | ⟨before, present, old, away⟩
    · exact turn.hand_new line unhurried new carries
    · refine turn.hand_kept line present old carries ?_
      exact away.imp_right .inl
  order := turn.order_kept line

end

/-! ### Every run keeps the line -/

/-- One send after the other, and no call of a ready module that overtakes the queue. -/
def Orderly (state : Tasks Shared Program) (event : Tasks.Event Call Choice Outside) : Prop :=
  OneSend state event ∧ Unhurried state event

private theorem outside_shared (event : Outside) (shared : Shared) :
    (outside event shared).sent = shared.sent ∧
      (outside event shared).pending = shared.pending ∧
      (outside event shared).offered = shared.offered ∧
      (outside event shared).controller = shared.controller := by
  cases event <;> exact ⟨rfl, rfl, rfl, rfl⟩

private theorem InLine.same {before after : Tasks Shared Program} (line : InLine before)
    (sent : after.shared.sent = before.shared.sent)
    (pending : after.shared.pending = before.shared.pending)
    (offered : after.shared.offered = before.shared.offered)
    (controller : after.shared.controller = before.shared.controller)
    (tasks : ∀ id task action delivery, after.tasks.lookup id = some task → action ∈ task →
      action.carried = some delivery → before.tasks.lookup id = some task) :
    InLine after := by
  have ahead (entry : Entry) (held : Ahead before.shared entry) : Ahead after.shared entry := by
    intro later order offers
    rw [sent] at order
    rw [offered] at offers
    exact (held later order offers).kept controller
  refine ⟨?_, ?_, ?_, ?_, ?_⟩
  · rw [pending, sent]
    exact line.queue
  · rw [offered, sent]
    exact line.offers
  · rw [pending]
    exact fun entry waits => ahead entry (line.waits entry waits)
  · intro id task action delivery found member carries
    have hand := line.hands id task action delivery
      (tasks id task action delivery found member carries) member carries
    unfold InHand at hand ⊢
    split at hand
    · rename_i queued
      rw [if_pos queued, pending, sent]
      exact ⟨hand.1, ahead _ hand.2⟩
    · rename_i direct
      rw [if_neg direct]
      rcases hand with privileged | idle
      · exact .inl (privileged.kept controller)
      · refine .inr ⟨pending.trans idle.1, ?_⟩
        intro other program next second there inside goes
        exact idle.2 other program next second
          (tasks other program next second there inside goes) inside goes
  · intro earlier later order overtakes
    rw [sent] at order
    rw [offered] at overtakes
    exact (line.order earlier later order overtakes).kept controller

private theorem start_carries (call : Call) (action : Action) (member : action ∈ program call) :
    action.carried = none := by
  have nothing : (program call).all (fun action => action.carried.isNone) = true := by
    cases call <;> rfl
  exact Option.isNone_iff_eq_none.mp (List.all_eq_true.mp nothing action member)

theorem reachable_in_line (reached : ((system toVec).restrict Orderly).Reachable state) :
    InLine state := by
  apply reached.invariant_with (fun _ reached => reached)
  · rintro first ⟨fresh, empty⟩
    obtain ⟨_, _, offered, _⟩ := fresh.history
    refine ⟨?_, ?_, ?_, ?_, ?_⟩
    · rw [fresh.queue.1]
      exact List.nil_sublist _
    · rw [offered]
      exact fun _ member => nomatch member
    · rw [fresh.queue.1]
      exact fun _ member => nomatch member
    · intro id task action delivery found
      rw [empty] at found
      cases found
    · intro earlier later _ overtakes
      rw [offered] at overtakes
      cases overtakes
  · rintro before event after reached ⟨⟨one, unhurried⟩, rfl⟩ line
    have moved := Tasks.next_moved (kind toVec) before event
    generalize Tasks.next (kind toVec) before event = next at moved
    cases moved with
    | still => exact line
    | @started id call vacant =>
        refine line.same rfl rfl rfl rfl ?_
        intro other task action delivery found member carries
        dsimp only at found
        rw [Table.lookup_insert_eq] at found
        split at found
        · cases found
          rw [start_carries call action member] at carries
          cases carries
        · exact found
    | @around event =>
        obtain ⟨sent, pending, offered, controller⟩ := outside_shared event before.shared
        exact line.same sent pending offered controller (fun _ _ _ _ found _ _ => found)
    | @stepped id choice task stepped shared present taken =>
        obtain ⟨action, rest, more, rfl, rfl, acts⟩ := step_acts taken
        have free := reached.of_restrict
        have drainer := drains_one free
        have turn : OneTurn toVec before id action rest shared more :=
          ⟨present, acts, reachable_knows free,
            reachable_serial (reached.weaken (fun _ _ orderly => orderly.1)),
            by omega, waiting_le_one free⟩
        exact turn.line line unhurried

/-- What overtakes a message that was sent before it is a reply, a signal or a call of
the controller before READY. -/
theorem frames_in_order (reached : ((system toVec).restrict Orderly).Reachable state) :
    InOrder state.shared ∧
      ∀ id ∈ state.shared.offered, ∃ entry ∈ state.shared.sent, entry.id = id :=
  ⟨(reachable_in_line reached).order, (reachable_in_line reached).offers⟩

/-! ### A signal that overtakes a call -/

def chimeSignal : Message :=
  { ModuleBus.voiceCall with header := { ModuleBus.voiceCall.header with kind := .signal } }

/-- A call waits for READY, a signal does not. -/
def overtaking : List (Tasks.Event Call Choice Outside) :=
  initializing ModuleBus.voiceCall ++ turns 0 [.proceed, .proceed, .proceed] ++
    .start 2 (.send chimeSignal) :: turns 2 [.proceed, .proceed, .proceed, .proceed, .proceed,
      .proceed, .proceed, .proceed, .proceed, .proceed, .returned TB_OK] ++
    .start 3 .hostReady :: turns 3 [.proceed] ++
    .start 4 .drainPending :: turns 4 [.proceed, .proceed, .proceed, .proceed, .proceed,
      .proceed, .proceed, .proceed]

private def isOver : Option Program → Bool
  | some [.returned _] => true
  | some [.canceled] => true
  | _ => false

private def leisurely (state : Tasks Shared Program) :
    Tasks.Event Call Choice Outside → Bool
  | .advance id _ =>
      match state.tasks.lookup id with
      | some (.arrive _ :: _) =>
          state.shared.sent.all (fun entry => isOver (state.tasks.lookup entry.id))
      | some (.enqueue message _ :: _) => !(Shared.isCall message && state.shared.isReady)
      | _ => true
  | _ => true

private theorem over_of_isOver {id : Nat} (concluded : isOver (state.tasks.lookup id) = true) :
    Over state id := by
  unfold isOver at concluded
  split at concluded
  · rename_i result present
    exact .inl ⟨result, present⟩
  · rename_i present
    exact .inr present
  · cases concluded

private theorem orderly_of_leisurely (state : Tasks Shared Program)
    (event : Tasks.Event Call Choice Outside) (slow : leisurely state event = true) :
    Orderly state event := by
  refine ⟨?_, ?_⟩
  · rintro id choice message rest rfl present entry sent
    unfold leisurely at slow
    simp only [present] at slow
    exact over_of_isOver (List.all_eq_true.mp slow entry sent)
  · rintro id choice message rest rfl present call ready
    unfold leisurely at slow
    simp only [present, call, ready] at slow
    cases slow

private theorem overtaking_reached :
    ((system (fun _ => .ok [])).restrict Orderly).Reachable (replay (fun _ => .ok []) overtaking) :=
  ⟨_, overtaking, ⟨lazyTransport_fresh, rfl⟩, .of_checked orderly_of_leisurely (by decide)⟩

theorem signal_overtakes : ∃ state earlier later,
    ((system (fun _ => .ok [])).restrict OneSend).Reachable state ∧
      Before state.shared.sent earlier later ∧
        Before state.shared.offered later.id earlier.id :=
  ⟨replay (fun _ => .ok []) overtaking, ⟨0, ModuleBus.voiceCall⟩, ⟨2, chimeSignal⟩,
    overtaking_reached.weaken (fun _ _ orderly => orderly.1), .refl _, .refl _⟩

theorem overtaking_in_order :
    (replay (fun _ => .ok []) overtaking).shared.offered = [2, 0] ∧
      InOrder (replay (fun _ => .ok []) overtaking).shared :=
  ⟨by decide, (frames_in_order overtaking_reached).1⟩

end ModuleTransport

end TinyBus
