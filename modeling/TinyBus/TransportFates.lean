import TinyBus.TransportCustody

/-
What becomes of the message of a send.  It is delivered, answered or discarded, and
until then it waits in the queue or with a task.  An action hands it on from one of
these to another, unless the send is refused or the answer to it is lost.
-/

namespace TinyBus

namespace ModuleTransport

def Incoming.answers (id : Nat) : Incoming → Bool
  | .answer other => other = id
  | .frame _ => false

namespace Shared

/-- The answers to a send that the host wrote, in the channel or out of it. -/
def answered (shared : Shared) (id : Nat) : Nat :=
  (shared.received ++ shared.channel).countP (Incoming.answers id)

def ends (shared : Shared) (id : Nat) : Nat :=
  shared.delivered.count id + shared.answered id + shared.discarded.count id

def places (shared : Shared) (id : Nat) : Nat :=
  shared.ends id + (shared.pending.map Entry.id).count id

def sends (shared : Shared) (id : Nat) : Nat := (shared.sent.map Entry.id).count id

end Shared

def InitUse.sends : InitUse → Bool
  | .send _ => true
  | .host => false
  | .reinit _ => false

/-- The message of a send, where an action of a task has it. -/
def Action.holds (id self : Nat) : Action → Nat
  | .gate use => (use.sends && decide (self = id)).toNat
  | .schedule use => (use.sends && decide (self = id)).toNat
  | .await use _ => (use.sends && decide (self = id)).toNat
  | .fail use _ => (use.sends && decide (self = id)).toNat
  | .answerFailed _ => (decide (self = id)).toNat
  | .authorize _ => (decide (self = id)).toNat
  | .enqueue _ _ => (decide (self = id)).toNat
  | .frame delivery => (decide (delivery.id = id)).toNat
  | .check delivery => (decide (delivery.id = id)).toNat
  | .enter delivery => (decide (delivery.id = id)).toNat
  | .permit delivery => (decide (delivery.id = id)).toNat
  | .delivering delivery => (decide (delivery.id = id)).toNat
  | .backpressure delivery => (decide (delivery.id = id)).toNat
  | .stalled delivery => (decide (delivery.id = id)).toNat
  | .expire delivery => (decide (delivery.id = id)).toNat
  | .undelivered delivery _ => (decide (delivery.id = id)).toNat
  | .faultPending failed _ => (decide (failed.id = id)).toNat
  | .clone failed => (failed.map Entry.id).count id
  | .answer failed => (failed.map Entry.id).count id
  | _ => 0

def Action.refuses (id self : Nat) : Action → Nat
  | .returned (.error _) => (decide (self = id)).toNat
  | .canceled => (decide (self = id)).toNat
  | _ => 0

/-- An answer that is written finds the channel to the host open, and a place in it. -/
def Action.Heard (toVec : Message → Except String Bytes) (self : Nat) (shared : Shared) :
    Action → Prop
  | .answerFailed message => shared.inbound = true ∧
      shared.canAnswer toVec ⟨self, message⟩ shared.initializationFailed = true
  | .clone _ => shared.inbound = true
  | .answer (entry :: _) => shared.canAnswer toVec entry shared.stoppedAccepting = true
  | _ => True

section

variable {toVec : Message → Except String Bytes} {id self : Nat} {shared after : Shared}
  {action : Action} {more : Program}

/-- The account of an action: what it does not hand on is lost, and where its answers
are heard only a refused message is. -/
def Accounts (toVec : Message → Except String Bytes) (id self : Nat)
    (shared after : Shared) (action : Action) (more : Program) : Prop :=
  ∃ lost, after.places id + weigh (Action.holds id self) more + lost + shared.sends id =
      shared.places id + action.holds id self + after.sends id ∧
    (action.Heard toVec self shared →
      lost + action.refuses id self ≤ weigh (Action.refuses id self) more)

private theorem count_cons (first second : Nat) (rest : List Nat) :
    (first :: rest).count second = (decide (first = second)).toNat + rest.count second := by
  rw [List.count_cons, Nat.add_comm]
  by_cases same : first = second
  · simp [same]
  · simp [same]

private theorem answers_one (other : Nat) :
    (if (Incoming.answer other).answers id = true then 1 else 0) =
      (decide (other = id)).toNat := by
  by_cases same : other = id
  · simp [Incoming.answers, same]
  · simp [Incoming.answers, same]

private theorem accounts_of_same
    (kept : weigh (Action.holds id self) more = action.holds id self)
    (places : after.places id = shared.places id) (sent : after.sends id = shared.sends id)
    (goes : action.refuses id self = 0) : Accounts toVec id self shared after action more := by
  refine ⟨0, ?_, ?_⟩
  · rw [kept, places, sent]
    rfl
  · intro _
    rw [goes]
    exact Nat.zero_le _

private theorem sends_le {use : InitUse} :
    (use.sends && decide (self = id)).toNat ≤ (decide (self = id)).toNat := by
  cases use.sends with
  | false => exact Nat.zero_le _
  | true => exact Nat.le_refl _

private theorem waits_accounts (known : action.Known self shared) (waits : Waits action) :
    Accounts toVec id self shared shared action [.canceled] := by
  cases waits with
  | @gate use =>
      refine ⟨(use.sends && decide (self = id)).toNat, ?_, fun _ => sends_le⟩
      simp [weigh, Action.holds]
  | @stalled delivery direct =>
      have own : delivery.Known self shared := known
      unfold Delivery.Known at own
      rw [if_neg (by rw [direct]; exact Bool.false_ne_true)] at own
      refine ⟨(decide (delivery.id = id)).toNat, ?_, ?_⟩
      · simp [weigh, Action.holds]
      · intro _
        rw [own.1]
        exact Nat.le_refl _
  | _ => exact ⟨0, rfl, fun _ => Nat.zero_le _⟩

private theorem send_accounts (looks : LooksSend self shared action more) :
    Accounts toVec id self shared shared action more := by
  cases looks with
  | @awaitSucceeds use initiating =>
      cases use with
      | send message =>
          refine accounts_of_same ?_ rfl rfl rfl
          simp [weigh, Action.holds, InitUse.sends, Shared.initialized]
      | host => exact ⟨0, rfl, fun _ => Nat.zero_le _⟩
      | reinit config => exact ⟨0, rfl, fun _ => Nat.zero_le _⟩
  | @awaitExpires use initiating _ =>
      refine accounts_of_same ?_ rfl rfl rfl
      cases initiating <;> simp [weigh, Action.holds, Shared.giveUp]
  | @awaitCanceled use initiating =>
      refine ⟨(use.sends && decide (self = id)).toNat, ?_, ?_⟩
      · cases initiating <;> simp [weigh, Action.holds, Shared.giveUp]
      · intro _
        cases initiating
        · exact sends_le
        · exact sends_le.trans (by simp [weigh, Action.refuses, Shared.giveUp])
  | failClosed _ =>
      refine ⟨(decide (self = id)).toNat, ?_, fun _ => Nat.le_refl _⟩
      simp [weigh, Action.holds, InitUse.sends]
  | enqueueClosed _ =>
      refine ⟨(decide (self = id)).toNat, ?_, fun _ => Nat.le_refl _⟩
      simp [weigh, Action.holds]
  | authorizes => exact accounts_of_same (by simp [weigh, Action.holds]) rfl rfl rfl
  | _ => exact ⟨0, rfl, fun _ => Nat.zero_le _⟩

private theorem delivery_accounts (known : action.Known self shared)
    (looks : LooksDelivery toVec shared action more) :
    Accounts toVec id self shared shared action more := by
  cases looks with
  | frames _ =>
      refine accounts_of_same ?_ rfl rfl rfl
      unfold Shared.frameOf
      split
      · simp [weigh, Action.holds]
      · split <;> simp [weigh, Action.holds]
  | @cloneFails failed dropped =>
      refine ⟨(failed.map Entry.id).count id, ?_, ?_⟩
      · simp [weigh, Action.holds, Shared.afterFault, requestTerminal]
      · intro heard
        have there : shared.inbound = true := heard
        rw [dropped] at there
        cases there
  | @answerLost entry rest lost =>
      refine ⟨(decide (entry.id = id)).toNat, ?_, ?_⟩
      · by_cases same : entry.id = id
        · simp [weigh, Action.holds, same]
          omega
        · simp [weigh, Action.holds, same]
      · intro heard
        have fits : shared.canAnswer toVec entry shared.stoppedAccepting = true := heard
        have queued : Queued shared entry := known entry (List.mem_cons_self ..)
        rcases lost with kind | full
        · rw [queued.2] at kind
          cases kind
        · rw [fits] at full
          cases full
  | _ => exact ⟨0, rfl, fun _ => Nat.zero_le _⟩

theorem accounts_of_acts (id : Nat) (known : action.Known self shared)
    (acts : Acts toVec self shared action after more) :
    Accounts toVec id self shared after action more := by
  cases acts with
  | canceled waits => exact waits_accounts known waits
  | sendLooks looks => exact send_accounts looks
  | deliveryLooks looks => exact delivery_accounts known looks
  | physicalLooks looks => cases looks <;> exact ⟨0, rfl, fun _ => Nat.zero_le _⟩
  | reinitLooks looks => cases looks <;> exact ⟨0, rfl, fun _ => Nat.zero_le _⟩
  | locks takes _ => cases takes <;> exact ⟨0, rfl, fun _ => Nat.zero_le _⟩
  | notes notes =>
      cases notes with
      | @releases allowed => cases allowed <;> exact ⟨0, rfl, fun _ => Nat.zero_le _⟩
      | _ => exact ⟨0, rfl, fun _ => Nat.zero_le _⟩
  | arrives =>
      refine ⟨0, ?_, fun _ => Nat.zero_le _⟩
      simp [weigh, Action.holds, InitUse.sends, Shared.sends, Shared.places, Shared.ends,
        Shared.answered, count_cons]
      omega
  | arrivesLate =>
      refine ⟨(decide (self = id)).toNat, ?_, fun _ => Nat.le_refl _⟩
      simp [weigh, Action.holds, Shared.sends, Shared.places, Shared.ends, Shared.answered,
        count_cons]
      omega
  | schedules _ _ => exact accounts_of_same (by simp [weigh, Action.holds]) rfl rfl rfl
  | fails =>
      split
      · refine accounts_of_same ?_ rfl rfl rfl
        simp [weigh, Action.holds, InitUse.sends, requestTerminal]
      · refine ⟨(decide (self = id)).toNat, ?_, ?_⟩
        · simp [weigh, Action.holds, InitUse.sends, requestTerminal,
            Shared.publishTerminalFlags, Shared.sends, Shared.places, Shared.ends,
            Shared.answered]
        · intro _
          simp [weigh, Action.refuses, requestTerminal]
  | answersFailed =>
      refine ⟨0, ?_, fun _ => Nat.zero_le _⟩
      simp [weigh, Action.holds, Shared.sends, Shared.places, Shared.ends, Shared.answered,
        answers_one]
      omega
  | losesFailed lost =>
      refine ⟨(decide (self = id)).toNat, ?_, ?_⟩
      · simp [weigh, Action.holds, Shared.sends, Shared.places, Shared.ends, Shared.answered]
      · rintro ⟨there, fits⟩
        rcases lost with dropped | full
        · rw [there] at dropped
          cases dropped
        · rw [fits] at full
          cases full
  | queues _ _ _ _ _ =>
      refine ⟨0, ?_, fun _ => Nat.zero_le _⟩
      simp [weigh, Action.holds, Shared.sends, Shared.places, Shared.ends, Shared.answered,
        count_cons]
      omega
  | goesDirect _ _ => exact accounts_of_same (by simp [weigh, Action.holds]) rfl rfl rfl
  | delivers =>
      refine ⟨0, ?_, fun _ => Nat.zero_le _⟩
      unfold Shared.afterDelivery
      split
      · simp [weigh, Action.holds, Shared.sends, Shared.places, Shared.ends, Shared.answered,
          count_cons, Shared.leaveCallback]
        omega
      · simp [weigh, Action.holds, Shared.sends, Shared.places, Shared.ends, Shared.answered,
          count_cons, Shared.leaveCallback]
        omega
  | expires _ =>
      refine accounts_of_same ?_ rfl rfl rfl
      simp [weigh, Action.holds, requestTerminal]
  | @refuses delivery _ _ direct =>
      have own : delivery.Known self shared := known
      unfold Delivery.Known at own
      rw [if_neg (by rw [direct]; exact Bool.false_ne_true)] at own
      refine ⟨(decide (delivery.id = id)).toNat, ?_, ?_⟩
      · simp [weigh, Action.holds, Shared.sends, Shared.places, Shared.ends, Shared.answered]
      · intro _
        rw [own.1]
        exact Nat.le_refl _
  | pops pending =>
      refine ⟨0, ?_, fun _ => Nat.zero_le _⟩
      simp [weigh, Action.holds, Shared.sends, Shared.places, Shared.ends, Shared.answered,
        count_cons, pending]
      omega
  | dropsPending _ => 
      refine ⟨0, ?_, fun _ => Nat.zero_le _⟩
      simp [weigh, Action.holds, Shared.sends, Shared.places, Shared.ends, Shared.answered,
        count_cons]
      omega
  | faultsPending =>
      refine ⟨0, ?_, fun _ => Nat.zero_le _⟩
      simp [weigh, Action.holds, Shared.sends, Shared.places, Shared.ends, Shared.answered,
        count_cons, Shared.publishTerminalFlags]
      omega
  | answers =>
      refine ⟨0, ?_, fun _ => Nat.zero_le _⟩
      simp [weigh, Action.holds, Shared.sends, Shared.places, Shared.ends, Shared.answered,
        count_cons, answers_one]
      omega
  | closes =>
      refine ⟨0, ?_, fun _ => Nat.zero_le _⟩
      simp [weigh, Action.holds, Shared.sends, Shared.places, Shared.ends, Shared.answered,
        Shared.closeAdmission]
      omega
  | closesSync =>
      refine ⟨0, ?_, fun _ => Nat.zero_le _⟩
      simp [weigh, Action.holds, Shared.sends, Shared.places, Shared.ends, Shared.answered,
        Shared.closeAdmission]
      omega
  | takesJob _ => split <;> exact ⟨0, rfl, fun _ => Nat.zero_le _⟩
  | publishesInit => split <;> exact ⟨0, rfl, fun _ => Nat.zero_le _⟩
  | pushes =>
      refine ⟨0, ?_, fun _ => Nat.zero_le _⟩
      simp [weigh, Action.holds, Shared.sends, Shared.places, Shared.ends, Shared.answered,
        Incoming.answers]
  | receives queued =>
      refine ⟨0, ?_, fun _ => Nat.zero_le _⟩
      simp [weigh, Action.holds, Shared.sends, Shared.places, Shared.ends, Shared.answered,
        queued]
  | _ => exact ⟨0, rfl, fun _ => Nat.zero_le _⟩

end

/-! ### The account of a run -/

/-- The tasks and the queue, as far as they still have the message of a send. -/
def waiting (state : Tasks Shared Program) (id : Nat) : Nat :=
  (state.shared.pending.map Entry.id).count id +
    Tasks.weight (fun self => weigh (Action.holds id self)) state.tasks

variable {toVec : Message → Except String Bytes} {state : Tasks Shared Program}

private theorem holds_call (id self : Nat) (call : Call) :
    weigh (Action.holds id self) (program call) = 0 := by
  cases call <;> rfl

private theorem refuses_call (id self : Nat) (call : Call) :
    weigh (Action.refuses id self) (program call) = 0 := by
  cases call <;> rfl

private theorem around_places (id : Nat) (event : Outside) (shared : Shared) :
    (outside event shared).places id = shared.places id ∧
      (outside event shared).sends id = shared.sends id := by
  cases event <;> exact ⟨rfl, rfl⟩

private abbrev KnownNext : Tasks Shared Program → Tasks.Event Call Choice Outside → Prop :=
  Next (fun id shared action => action.Known id shared)

/-- Every answer that the host writes finds the channel open and a place in it. -/
def Heard (toVec : Message → Except String Bytes) (state : Tasks Shared Program)
    (event : Tasks.Event Call Choice Outside) : Prop :=
  Next (fun id shared action => action.Heard toVec id shared) state event

private theorem integral (measure : Action → Nat) (program : Program) :
    weigh (fun action => (measure action : Int)) program =
      ((weigh measure program : Nat) : Int) :=
  weigh_map (Nat.castAddMonoidHom Int) measure program

private theorem integral_tasks (measure : Nat → Action → Nat) (tasks : Table Nat Program) :
    Tasks.weight (fun self => weigh (fun action => (measure self action : Int))) tasks =
      ((Tasks.weight (fun self => weigh (measure self)) tasks : Nat) : Int) := by
  rw [← Nat.coe_castAddMonoidHom, ← Tasks.weight_map]
  congr 1
  funext self program
  exact integral (measure self) program

private def surplus (id : Nat) (shared : Shared) : Int := shared.places id - shared.sends id

private def accountedFor (id self : Nat) (action : Action) : Nat :=
  action.holds id self + action.refuses id self

private theorem held_lighten (id : Nat) :
    Tasks.Lightens (kind toVec) KnownNext (surplus id)
      (fun self => weigh (fun action => (action.holds id self : Int))) := by
  apply lightens_of_acts
  · intro self call
    rw [integral, holds_call]
    rfl
  · intro state self choice action rest after more known present acts
    obtain ⟨lost, kept, _⟩ := accounts_of_acts id (known _ _ _ _ rfl present) acts
    rw [integral]
    unfold surplus
    omega
  · intro event shared
    unfold surplus
    rw [(around_places id event shared).1, (around_places id event shared).2]

private theorem held_steady (id : Nat) :
    Tasks.Lightens (M := Intᵒᵈ) (kind toVec)
      (fun state event => KnownNext state event ∧ Heard toVec state event) (surplus id)
      (fun self => weigh (fun action => (accountedFor id self action : Int))) := by
  apply lightens_of_acts (M := Intᵒᵈ)
  · intro self call
    have nothing : weigh (accountedFor id self) (program call) = 0 := by
      unfold accountedFor
      rw [weigh_add, holds_call, refuses_call]
    exact (integral _ _).trans (congrArg Nat.cast nothing)
  · intro state self choice action rest after more guard present acts
    obtain ⟨lost, kept, heard⟩ := accounts_of_acts id (guard.1 _ _ _ _ rfl present) acts
    have fewer := heard (guard.2 _ _ _ _ rfl present)
    have steady : surplus id state.shared + accountedFor id self action ≤
        surplus id after + weigh (fun action => (accountedFor id self action : Int)) more := by
      rw [integral]
      unfold surplus accountedFor
      rw [weigh_add]
      omega
    exact steady
  · intro event shared
    have same : surplus id (outside event shared) = surplus id shared := by
      unfold surplus
      rw [(around_places id event shared).1, (around_places id event shared).2]
    exact same.ge

/-! ### What a run makes of a send -/

private theorem sends_le_one (reached : (system toVec).Reachable state) (id : Nat) :
    state.shared.sends id ≤ 1 :=
  List.nodup_iff_count_le_one.mp (reachable_knows reached).common.once id

private theorem surplus_fresh (id : Nat) {shared : Shared} (fresh : Fresh shared) :
    surplus id shared = 0 := by
  obtain ⟨_, sent, _, delivered, discarded, received⟩ := fresh.history
  unfold surplus Shared.places Shared.ends Shared.answered Shared.sends
  rw [sent, delivered, discarded, received, fresh.inbound.2.1, fresh.queue.1]
  rfl

private theorem places_le (reached : (system toVec).Reachable state) (id : Nat) :
    state.shared.ends id + waiting state id ≤ state.shared.sends id := by
  have known : ((system toVec).restrict (fun _ _ => True)).Reachable state :=
    reached.of_guard (fun _ _ => trivial)
  have total := Tasks.total_le (held_lighten id)
    (fun _ event earlier _ => next_known earlier.of_restrict event)
    (fun shared fresh => (surplus_fresh id fresh).le) known
  rw [integral_tasks] at total
  unfold surplus Shared.places at total
  unfold waiting
  omega

theorem waiting_le_one (reached : (system toVec).Reachable state) (id : Nat) :
    waiting state id ≤ 1 := by
  have once := places_le reached id
  have one := sends_le_one reached id
  omega

private theorem sends_le_places
    (reached : ((system toVec).restrict (Heard toVec)).Reachable state) (id : Nat) :
    state.shared.sends id ≤ state.shared.ends id + waiting state id +
      Tasks.weight (fun self => weigh (Action.refuses id self)) state.tasks := by
  have total : 0 ≤ surplus id state.shared + Tasks.weight (fun self =>
      weigh (fun action => (accountedFor id self action : Int))) state.tasks :=
    Tasks.le_total (held_steady id)
      (fun _ event earlier heard => ⟨next_known earlier.of_restrict event, heard⟩)
      (fun shared fresh => (surplus_fresh id fresh).ge) reached
  rw [integral_tasks] at total
  unfold accountedFor at total
  have split : Tasks.weight (fun self => weigh (fun action =>
      action.holds id self + action.refuses id self)) state.tasks =
        Tasks.weight (fun self => weigh (Action.holds id self)) state.tasks +
          Tasks.weight (fun self => weigh (Action.refuses id self)) state.tasks := by
    rw [← Tasks.weight_add]
    congr 1
    funext self program
    exact weigh_add _ _ program
  rw [split] at total
  unfold surplus Shared.places at total
  unfold waiting
  omega

/-! ### Who looks after the queue -/

def Action.windsUp : Action → Bool
  | .endDrain => true
  | .clone _ => true
  | .answer _ => true
  | _ => false

section

variable {id : Nat} {shared after : Shared} {action : Action} {more : Program}

private theorem flags_ended (shared : Shared) (fault : Bool) (ended : shared.ended = true) :
    (shared.publishTerminalFlags fault).ended = true := by
  change (shared.faulted || fault || shared.admissionClosed) = true
  rw [Bool.or_right_comm]
  exact Bool.or_eq_true_iff.mpr (.inl ended)

private theorem fault_ended (shared : Shared) :
    (shared.publishTerminalFlags true).ended = true := by
  change (shared.faulted || true || shared.admissionClosed) = true
  rw [Bool.or_true, Bool.true_or]

private theorem close_ended (shared : Shared) : shared.closeAdmission.ended = true :=
  Bool.or_true _

theorem ended_stays (acts : Acts toVec id shared action after more)
    (ended : shared.ended = true) : after.ended = true := by
  cases acts with
  | notes notes => cases notes <;> exact ended
  | fails => exact fault_ended shared
  | expires _ => exact fault_ended shared
  | faultsPending => exact fault_ended shared
  | abandons _ => exact fault_ended shared
  | publishes => exact flags_ended shared _ ended
  | closes => exact close_ended shared
  | closesSync => exact close_ended shared
  | _ => exact ended

theorem admission_stays (acts : Acts toVec id shared action after more)
    (closed : shared.admissionClosed = true) : after.admissionClosed = true := by
  cases acts with
  | notes notes => cases notes <;> exact closed
  | closes => rfl
  | closesSync => rfl
  | _ => exact closed

private theorem discards_closed (acts : Acts toVec id shared action after more) :
    after.discarded = shared.discarded ∨ after.admissionClosed = true := by
  cases acts with
  | notes notes => cases notes <;> exact .inl rfl
  | dropsPending closed => exact .inr closed
  | closes => exact .inr rfl
  | closesSync => exact .inr rfl
  | _ => exact .inl rfl

private theorem winding_ended (acts : Acts toVec id shared action after more)
    (before : action.windsUp = true → shared.ended = true)
    (winds : more.any Action.windsUp = true) : after.ended = true := by
  cases acts with
  | canceled _ => cases winds
  | sendLooks looks =>
      cases looks with
      | @awaitSucceeds use _ => cases use <;> cases winds
      | @awaitExpires _ initiating _ => cases initiating <;> cases winds
      | @awaitCanceled _ initiating => cases initiating <;> cases winds
      | _ => cases winds
  | deliveryLooks looks =>
      cases looks with
      | frames _ =>
          unfold Shared.frameOf at winds
          split at winds
          · cases winds
          · split at winds <;> cases winds
      | drainEnds ended => exact ended
      | recheckEnds ended => exact ended
      | clones _ => exact before rfl
      | cloneFails _ => exact before rfl
      | answerLost _ => exact before rfl
      | answersDone => exact before rfl
      | _ => cases winds
  | physicalLooks looks => cases looks <;> cases winds
  | reinitLooks looks => cases looks <;> cases winds
  | locks takes _ => cases takes <;> cases winds
  | notes notes =>
      cases notes with
      | @releases allowed => cases allowed <;> cases winds
      | _ => cases winds
  | fails => exact fault_ended shared
  | delivers =>
      unfold Shared.afterDelivery at winds
      split at winds <;> cases winds
  | dropsPending closed =>
      unfold Shared.ended
      rw [closed, Bool.or_true]
  | faultsPending => exact fault_ended shared
  | answers => exact before rfl
  | takesJob _ => split at winds <;> cases winds
  | publishesInit => split at winds <;> cases winds
  | _ => cases winds

private theorem flag_kept (acts : Acts toVec id shared action after more)
    (before : action.windsUp = true → shared.ended = true)
    (flagged : shared.pending ≠ [] → shared.ended = true ∨ shared.drainStarted = true)
    (waits : after.pending ≠ []) : after.ended = true ∨ after.drainStarted = true := by
  have kept (same : after.pending = shared.pending)
      (flag : shared.drainStarted = true → after.drainStarted = true) :
      after.ended = true ∨ after.drainStarted = true := by
    rw [same] at waits
    rcases flagged waits with ended | started
    · exact .inl (ended_stays acts ended)
    · exact .inr (flag started)
  cases acts with
  | notes notes => cases notes <;> exact kept rfl (fun started => started)
  | queues _ _ _ _ _ => exact .inr rfl
  | pops queued =>
      refine (flagged ?_)
      rw [queued]
      exact List.cons_ne_nil _ _
  | dropsPending _ => exact absurd rfl waits
  | faultsPending => exact absurd rfl waits
  | closes => exact absurd rfl waits
  | closesSync => exact absurd rfl waits
  | finishesDrain empty => exact absurd empty waits
  | endsDrain => exact .inl (before rfl)
  | _ => exact kept rfl (fun started => started)

end

private structure Tended (state : Tasks Shared Program) : Prop where
  flagged : state.shared.pending ≠ [] →
    state.shared.ended = true ∨ state.shared.drainStarted = true
  discards : state.shared.discarded ≠ [] → state.shared.admissionClosed = true

private def WindsUp (_ : Nat) (shared : Shared) (program : Program) : Prop :=
  ∀ action ∈ program, action.windsUp = true → shared.ended = true

private theorem around_tended (event : Outside) (shared : Shared) :
    (outside event shared).ended = shared.ended ∧
      (outside event shared).admissionClosed = shared.admissionClosed ∧
      (outside event shared).pending = shared.pending ∧
      (outside event shared).drainStarted = shared.drainStarted ∧
      (outside event shared).discarded = shared.discarded := by
  cases event <;> exact ⟨rfl, rfl, rfl, rfl, rfl⟩

private theorem tended_kept : Tasks.Keeps (kind toVec) Tended WindsUp (fun _ _ => True) where
  start := by
    intro state id call sound _ _
    refine ⟨⟨sound.common.flagged, sound.common.discards⟩, ?_⟩
    intro action member winds
    have calm : ((kind toVec).start call).any Action.windsUp = false := by cases call <;> rfl
    rw [List.any_eq_true.mpr ⟨action, member, winds⟩] at calm
    cases calm
  step := by
    intro state id choice task shared stepped sound _ present taken
    obtain ⟨action, rest, more, rfl, rfl, acts⟩ := step_acts taken
    have own := sound.own id _ present
    have before := own action (List.mem_cons_self ..)
    refine ⟨⟨flag_kept acts before sound.common.flagged, ?_⟩, ?_⟩
    · intro some
      rcases discards_closed acts with same | closed
      · dsimp only at some
        rw [same] at some
        exact admission_stays acts (sound.common.discards some)
      · exact closed
    · intro next member winds
      rcases List.mem_append.mp member with new | old
      · exact winding_ended acts before (List.any_eq_true.mpr ⟨next, new, winds⟩)
      · exact ended_stays acts (own next (List.mem_cons_of_mem _ old) winds)
  other := by
    intro state id choice task shared stepped other bystander sound _ present taken _ beside
    obtain ⟨action, rest, more, rfl, rfl, acts⟩ := step_acts taken
    intro next member winds
    exact ended_stays acts (sound.own other bystander beside next member winds)
  outside := by
    intro state event sound _
    obtain ⟨ended, closed, pending, started, discarded⟩ := around_tended event state.shared
    refine ⟨⟨?_, ?_⟩, ?_⟩
    · dsimp only [kind]
      rw [ended, pending, started]
      exact sound.common.flagged
    · dsimp only [kind]
      rw [closed, discarded]
      exact sound.common.discards
    · intro id task present action member winds
      dsimp only [kind]
      rw [ended]
      exact sound.own id task present action member winds

private theorem reachable_tended (reached : (system toVec).Reachable state) : Tended state := by
  have admitted : ((system toVec).restrict (fun _ _ => True)).Reachable state :=
    reached.of_guard (fun _ _ => trivial)
  refine (Tasks.sound_of_keeps tended_kept ?_ admitted).common
  intro first fresh empty
  refine ⟨fun some => absurd fresh.queue.1 some, ?_⟩
  obtain ⟨_, _, _, _, discarded, _⟩ := fresh.history
  exact fun some => absurd discarded some

/-! ### What becomes of a send -/

/-- The send returned, and its message was accepted. -/
def Accepted (state : Tasks Shared Program) (entry : Entry) : Prop :=
  entry ∈ state.shared.sent ∧ state.tasks.lookup entry.id = some [.returned (.ok ())]

/-- No message comes to two ends, none is discarded while admission is open, and the
queue has its drainer until the module ends. -/
structure Accountable (state : Tasks Shared Program) : Prop where
  once : ∀ id, state.shared.ends id + waiting state id ≤ 1
  discards : state.shared.discarded ≠ [] → state.shared.admissionClosed = true
  tended : state.shared.pending ≠ [] → state.shared.ended = true ∨
    state.shared.drainers + Tasks.weight (fun _ => weigh Action.drains) state.tasks = 1

/-- An accepted message was delivered, answered or discarded, or waits: once, and one
of these. -/
def Settled (state : Tasks Shared Program) : Prop :=
  ∀ entry, Accepted state entry →
    state.shared.ends entry.id + waiting state entry.id = 1

private theorem refuses_other {id other : Nat} (different : other ≠ id) (program : Program) :
    weigh (Action.refuses id other) program = 0 := by
  unfold weigh
  refine List.sum_eq_zero ?_
  intro value member
  obtain ⟨action, _, rfl⟩ := List.mem_map.mp member
  unfold Action.refuses
  rw [decide_eq_false different]
  split <;> rfl

private theorem settled_of_heard (reached : ((system toVec).restrict (Heard toVec)).Reachable state) :
    Settled state := by
  rintro entry ⟨sent, returned⟩
  have once := places_le reached.of_restrict entry.id
  have one := sends_le_one reached.of_restrict entry.id
  have kept := sends_le_places reached entry.id
  have recorded : 0 < state.shared.sends entry.id :=
    List.count_pos_iff.mpr (List.mem_map.mpr ⟨entry, sent, rfl⟩)
  have nothing : Tasks.weight (fun self => weigh (Action.refuses entry.id self))
      state.tasks = 0 :=
    Tasks.weight_eq_own returned
      (fun _ bystander different => refuses_other different bystander)
  rw [nothing] at kept
  omega

/-- Every run accounts for its messages, and settles what it accepted where the answers
of the host are heard. -/
theorem accepted_calls_settled (toVec : Message → Except String Bytes) :
    (∀ state, (system toVec).Reachable state → Accountable state) ∧
      ∀ state, ((system toVec).restrict (Heard toVec)).Reachable state → Settled state := by
  refine ⟨?_, fun state reached => settled_of_heard reached⟩
  intro state reached
  have tended := reachable_tended reached
  refine ⟨?_, tended.discards, ?_⟩
  · intro id
    exact (places_le reached id).trans (sends_le_one reached id)
  · intro waits
    rcases tended.flagged waits with ended | started
    · exact .inl ended
    · right
      have one := drains_one reached
      unfold Shared.drains at one
      rw [started] at one
      simpa using one

/-! ### A call that a stop discards -/

/-- A call is queued before READY, and then the module is stopped. -/
def discardedCall : Tasks Shared Program :=
  replay (fun _ => .ok []) (initializing ModuleBus.voiceCall ++
    turns 0 [.proceed, .proceed, .proceed] ++
      .start 2 .stop :: turns 2 [.proceed, .proceed, .proceed, .proceed, .proceed])

theorem queuedCall_lost : ∃ state entry, (system (fun _ => .ok [])).Reachable state ∧
    Accepted state entry ∧ Shared.isCall entry.message = true ∧
      state.shared.delivered.count entry.id + state.shared.answered entry.id +
        waiting state entry.id = 0 :=
  ⟨discardedCall, ⟨0, ModuleBus.voiceCall⟩, replay_reachable _ _,
    ⟨List.mem_singleton_self _, rfl⟩, rfl, by decide⟩

private def unanswered (state : Tasks Shared Program) :
    Tasks.Event Call Choice Outside → Bool
  | .advance id _ =>
      match state.tasks.lookup id with
      | some (.answerFailed _ :: _) => false
      | some (.clone _ :: _) => false
      | some (.answer _ :: _) => false
      | _ => true
  | _ => true

private theorem heard_of_unanswered (toVec : Message → Except String Bytes)
    (state : Tasks Shared Program) (event : Tasks.Event Call Choice Outside)
    (quiet : unanswered state event = true) : Heard toVec state event := by
  rintro id choice action rest rfl present
  unfold unanswered at quiet
  simp only [present] at quiet
  cases action <;> trivial

theorem discardedCall_settled :
    discardedCall.shared.discarded = [0] ∧ Accountable discardedCall ∧ Settled discardedCall :=
  ⟨by decide, (accepted_calls_settled _).1 _ (replay_reachable _ _),
    (accepted_calls_settled _).2 _ ⟨_, _, ⟨lazyTransport_fresh, rfl⟩,
      .of_checked (heard_of_unanswered (fun _ => .ok [])) (by decide)⟩⟩

end ModuleTransport

end TinyBus
