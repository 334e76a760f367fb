/-
A link that closes.  Once the reader has ended or the writer has failed, the steps
that the connection takes on its own end every call, unless the writer takes a
call that nobody will answer any more or leaves one behind.
-/

import TinyBus.CallerSteps

namespace TinyBus

open TransitionSystem

def WriteOutcome.answers (outcome : WriteOutcome) (message : Message) : Bool :=
  match outcome with
  | .refused _ => decide (message.header.kind = .methodCall)
  | _ => false

namespace Link

def ClosedOff (link : Link) : Prop := link.reader ≠ .reading ∨ link.writing = false

/-- Somebody still sees to a message that was handed to the writer: the reader, or
the writer that has it in its queue. -/
def Attends (link : Link) (message : Message) : Prop :=
  link.reader = .closing ∨
    link.writing = true ∧ (link.reader = .reading ∨ message ∈ link.outbox)

theorem Attends.mono {before after : Link} {message : Message}
    (attends : before.Attends message) (reader : after.reader = before.reader)
    (writing : after.writing = before.writing)
    (outbox : message ∈ before.outbox → message ∈ after.outbox) :
    after.Attends message := by
  unfold Attends at attends ⊢
  rw [reader, writing]
  exact attends.imp_right (fun ⟨there, kept⟩ => ⟨there, kept.imp_right outbox⟩)

theorem Attends.popped {link : Link} {message head : Message} {rest : List Message}
    (attends : link.Attends message) (queued : link.outbox = head :: rest)
    (kept : link.reader = .ended → message ≠ head) :
    { link with outbox := rest }.Attends message := by
  rcases attends with closing | ⟨writing, reading | member⟩
  · exact .inl closing
  · exact .inr ⟨writing, .inl reading⟩
  · cases reader : link.reader with
    | reading => exact .inr ⟨writing, .inl rfl⟩
    | closing => exact .inl rfl
    | ended =>
        rw [queued] at member
        rcases List.mem_cons.mp member with same | later
        · exact absurd same (kept reader)
        · exact .inr ⟨writing, .inr later⟩

end Link

namespace Caller

def Awaits (state : State) (serial : Nat) : Prop :=
  ∃ id caller, state.tasks.lookup id = some caller ∧ caller.phase = .awaiting serial ∧
    (state.shared.pending.lookup serial).isSome = true

/-- The writer takes the call of a waiting caller after the reader has ended, and
does not answer it; or it fails while a caller waits and the reader is not about to
wake it. -/
inductive Strands (state : State) : Event → Prop
  | takes {outcome : WriteOutcome} {message : Message} {rest : List Message}
      (ended : state.shared.reader = .ended) (writing : state.shared.writing = true)
      (queued : state.shared.outbox = message :: rest)
      (unanswered : outcome.answers message = false)
      (waits : Awaits state message.header.serial) :
      Strands state (.outside (.write outcome))
  | fails {serial : Nat} (awake : state.shared.reader ≠ .closing)
      (writing : state.shared.writing = true) (queued : state.shared.outbox ≠ [])
      (waits : Awaits state serial) : Strands state (.outside (.write .failed))

def Attended (state : State) : Prop :=
  ∀ id caller serial, state.tasks.lookup id = some caller →
    caller.phase = .awaiting serial →
      (state.shared.pending.lookup serial).isSome = true →
        state.shared.Attends caller.message

variable {link after : Link} {caller stepped : Caller} {choice : CallerChoice}

theorem Stepped.outbox (moved : Stepped link caller choice after stepped) :
    after.reader = link.reader ∧ after.writing = link.writing ∧
      ∀ message, message ∈ link.outbox → message ∈ after.outbox := by
  cases moved with
  | hands _ _ => exact ⟨rfl, rfl, fun message member => List.mem_append_left _ member⟩
  | _ => exact ⟨rfl, rfl, fun _ member => member⟩

theorem Stepped.awaiting (moved : Stepped link caller choice after stepped) {serial : Nat}
    (awaits : stepped.phase = .awaiting serial) :
    after.writing = true ∧ stepped.message ∈ after.outbox := by
  cases moved with
  | hands handing writing =>
      exact ⟨writing, List.mem_append_right _ (List.mem_singleton_self _)⟩
  | _ => cases awaits

variable {state first : State} {event : Event}

theorem Attended.step {id : Nat} (attended : Attended state) (numbered : Numbered state)
    (present : state.tasks.lookup id = some caller)
    (moved : Stepped state.shared caller choice after stepped) :
    Attended { shared := after, tasks := state.tasks.insert id stepped } := by
  intro other bystander serial found awaits held
  dsimp only at found held ⊢
  rw [Table.lookup_insert_eq] at found
  split at found
  · cases found
    obtain ⟨writing, queued⟩ := moved.awaiting awaits
    exact .inr ⟨writing, .inr queued⟩
  · rename_i different
    obtain ⟨reader, writing, outbox⟩ := moved.outbox
    rcases moved.pending serial with same | gone | ⟨locking, _⟩
    · rw [same] at held
      exact (attended other bystander serial found awaits held).mono reader writing
        (outbox _)
    · rw [gone] at held
      cases held
    · have same := numbered.distinct id other caller bystander serial present found
        (by rw [locking]; rfl) (by rw [awaits]; rfl)
      exact absurd same.symm different

theorem Attended.popped {outcome : WriteOutcome} {head : Message} {rest : List Message}
    (attended : Attended state) (written : ∀ id caller serial, state.tasks.lookup id = some caller →
      caller.phase = .awaiting serial → caller.message.header.serial = serial)
    (kept : ¬ Strands state (.outside (.write outcome))) (writing : state.shared.writing = true)
    (queued : state.shared.outbox = head :: rest) (unanswered : outcome.answers head = false) :
    Attended { state with shared := { state.shared with outbox := rest } } := by
  intro id caller serial found awaits held
  apply (attended id caller serial found awaits held).popped queued
  rintro ended rfl
  have own := written id caller serial found awaits
  exact kept (.takes ended writing queued unanswered
    ⟨id, caller, found, by rw [own]; exact awaits, by rw [own]; exact held⟩)

theorem Attended.write {outcome : WriteOutcome} (attended : Attended state)
    (written : ∀ id caller serial, state.tasks.lookup id = some caller →
      caller.phase = .awaiting serial → caller.message.header.serial = serial)
    (kept : ¬ Strands state (.outside (.write outcome))) :
    Attended { state with shared := state.shared.write outcome } := by
  unfold Link.write
  split
  · rename_i head rest writing queued
    cases outcome with
    | sent => exact attended.popped written kept writing queued rfl
    | refused reason =>
        dsimp only
        split
        · intro id caller serial found awaits held
          dsimp only at held
          rw [Link.lookup_deliver] at held
          split at held
          · cases held
          · rename_i different
            obtain ⟨reader, there, same⟩ := Link.deliver_rest
              { state.shared with outbox := rest } head.header.serial
              (.refusal (.protocol reason))
            have popped := (attended id caller serial found awaits held).popped queued
              (by
                rintro _ rfl
                exact different (written id caller serial found awaits).symm)
            exact popped.mono reader there (fun member => same ▸ member)
        · rename_i other
          exact attended.popped written kept writing queued (decide_eq_false other)
    | failed =>
        intro id caller serial found awaits held
        by_cases closing : state.shared.reader = .closing
        · exact .inl closing
        · have waits : Awaits state serial := ⟨id, caller, found, awaits, held⟩
          exact absurd (.fails closing writing (by rw [queued]; exact List.cons_ne_nil _ _)
            waits) kept
  · exact attended

theorem Attended.around {event : LinkEvent} (attended : Attended state)
    (written : ∀ id caller serial, state.tasks.lookup id = some caller →
      caller.phase = .awaiting serial → caller.message.header.serial = serial)
    (kept : ¬ Strands state (.outside event)) :
    Attended { state with shared := event.apply state.shared } := by
  cases event with
  | hello name => exact attended
  | receive reply brokered =>
      unfold LinkEvent.apply Link.receive
      dsimp only
      split
      · split
        · exact attended
        · rename_i number _
          split
          · intro id caller serial found awaits held
            dsimp only at held
            rw [Link.lookup_deliver] at held
            split at held
            · cases held
            · obtain ⟨reader, writing, outbox⟩ :=
                Link.deliver_rest state.shared number (.answer reply)
              exact (attended id caller serial found awaits held).mono reader writing
                (fun member => outbox ▸ member)
          · exact attended
      · exact attended
  | readerEnds =>
      unfold LinkEvent.apply
      dsimp only
      split
      · intro id caller serial _ _ _
        exact .inl rfl
      · exact attended
  | clear =>
      unfold LinkEvent.apply
      dsimp only
      split
      · intro id caller serial _ _ held
        cases held
      · exact attended
  | write outcome => exact attended.write written kept
  | post message =>
      unfold LinkEvent.apply Link.accept
      dsimp only
      split
      · intro id caller serial found awaits held
        exact (attended id caller serial found awaits held).mono rfl rfl
          (fun member => List.mem_append_left _ member)
      · exact attended

theorem Attended.next (attended : Attended state)
    (sound : Tasks.Sound Numbered (fun _ => Drawn) state)
    (kept : ¬ Strands state event) : Attended (Tasks.next kind state event) := by
  have moved := Tasks.next_moved kind state event
  generalize Tasks.next kind state event = later at moved
  cases moved with
  | still => exact attended
  | @started id message vacant =>
      intro other caller serial found awaits held
      dsimp only at found
      rw [Table.lookup_insert_eq] at found
      split at found
      · cases found
        cases awaits
      · exact attended other caller serial found awaits held
  | @stepped id choice caller stepped shared present taken =>
      exact attended.step sound.common present (step_stepped id taken)
  | @around event =>
      apply attended.around _ kept
      intro id caller serial found awaits
      exact (sound.own id caller found).written serial (by rw [awaits]; rfl)

theorem attended_of_reachable
    (reached : (system.restrict (fun state event => ¬ Strands state event)).Reachable state) :
    Attended state := by
  refine reached.invariant_with (fun _ reached =>
    numbered_of_reachable reached.of_restrict) ?_ ?_
  · rintro first ⟨starts, empty⟩ id caller serial found
    rw [empty] at found
    cases found
  · rintro before event later sound ⟨kept, rfl⟩ attended
    exact attended.next sound kept

/-! ### The steps that the connection takes on its own -/

/-- A caller goes on, the writer takes what is queued, or the reader that left its
loop clears the table.  No deadline passes, and nothing arrives. -/
inductive Own (state : State) : Event → Prop
  | caller {id : Nat} {caller : Caller} (present : state.tasks.lookup id = some caller)
      (moves : (caller.step id .run state.shared).isSome = true) :
      Own state (.advance id .run)
  | writer {outcome : WriteOutcome} (writing : state.shared.writing = true)
      (queued : state.shared.outbox ≠ []) : Own state (.outside (.write outcome))
  | clear (closing : state.shared.reader = .closing) : Own state (.outside .clear)

/-- Nothing is left to do for the connection on its own. -/
def Quiet (state : State) : Prop := ∀ event, ¬ Own state event

theorem Quiet.drained (quiet : Quiet state)
    (writing : state.shared.writing = true) : state.shared.outbox = [] := by
  by_contra queued
  exact quiet (.outside (.write .sent)) (.writer writing queued)

theorem Quiet.isOver (quiet : Quiet state) (attended : Attended state)
    (off : state.shared.ClosedOff) {id : Nat} (present : state.tasks.lookup id = some caller) :
    caller.phase.isOver = true := by
  have stuck : caller.step id .run state.shared = none := by
    rw [← Option.not_isSome_iff_eq_none]
    exact fun moves => quiet (.advance id .run) (.caller present moves)
  unfold step at stuck
  cases phase : caller.phase with
  | ready =>
      rw [phase] at stuck
      cases stuck
  | locking serial =>
      rw [phase] at stuck
      cases stuck
  | handing serial =>
      rw [phase] at stuck
      dsimp only at stuck
      split at stuck
      · rename_i writing
        have room : (state.shared.writing &&
            decide (state.shared.outbox.length < outboxCapacity)) = true := by
          rw [writing, quiet.drained writing]
          rfl
        rw [Link.accept, if_pos room] at stuck
        cases stuck
      · cases stuck
  | awaiting serial =>
      rw [phase] at stuck
      dsimp only at stuck
      split at stuck
      · cases stuck
      · cases stuck
      · split at stuck
        · rename_i held
          rcases attended id caller serial present phase held with
            closing | ⟨writing, reading | queued⟩
          · exact absurd (.clear closing) (quiet (.outside .clear))
          · rcases off with ended | failed
            · exact absurd reading ended
            · rw [writing] at failed
              cases failed
          · rw [quiet.drained writing] at queued
            cases queued
        · cases stuck
  | withdrawing serial ending =>
      rw [phase] at stuck
      cases stuck
  | finished ending => rfl
  | dropped => rfl

/-! ### How many of them there can be -/

def weight (caller : Caller) : Nat :=
  match caller.phase with
  | .ready => 10
  | .locking _ => if caller.rest.isSome then 9 else 4
  | .handing _ => if caller.rest.isSome then 8 else 3
  | .awaiting _ => if caller.rest.isSome then 6 else 1
  | .withdrawing _ _ => 1
  | .finished _ => 0
  | .dropped => 0

def work (state : State) : Nat :=
  Table.total weight state.tasks + state.shared.outbox.length +
    (if state.shared.reader = .closing then 1 else 0)

theorem weight_draw (link : Link) (message : Message) (expected : Option BusName)
    (busControl : Bool) (rest : Option (BusName × Message)) :
    (draw link message expected busControl rest).2.weight ≤ 9 := by
  cases rest with
  | none => exact Nat.le_of_ble_eq_true rfl
  | some waiting => exact Nat.le_refl 9

theorem Stepped.work (moved : Stepped link caller .run after stepped) :
    stepped.weight + after.outbox.length < caller.weight + link.outbox.length := by
  cases moved with
  | @draws message expected busControl rest first =>
      have bounded := weight_draw link message expected busControl rest
      have before : caller.weight = 10 := by simp [weight, first]
      have same : (draw link message expected busControl rest).1.outbox = link.outbox := rfl
      rw [same]
      omega
  | rejects first => simp [weight, goTo, first]
  | inserts locking =>
      cases rest : caller.rest with
      | none => simp [weight, goTo, locking, rest]
      | some waiting => simp [weight, goTo, locking, rest]
  | hands handing _ =>
      cases rest : caller.rest with
      | none =>
          simp [weight, goTo, handing, rest]
          omega
      | some waiting =>
          simp [weight, goTo, handing, rest]
          omega
  | bounces handing _ =>
      simp only [weight, goTo, handing]
      split
      · omega
      · omega
  | withdraws withdrawing => simp [weight, goTo, withdrawing]
  | continues awaiting _ rest => simp [weight, draw, awaiting, rest]
  | answers awaiting _ _ =>
      simp only [weight, goTo, awaiting]
      split
      · omega
      · omega
  | refuses awaiting _ =>
      simp only [weight, goTo, awaiting]
      split
      · omega
      · omega
  | closes awaiting _ _ =>
      simp only [weight, goTo, awaiting]
      split
      · omega
      · omega

theorem write_outbox (link : Link) {outcome : WriteOutcome} (writing : link.writing = true)
    (queued : link.outbox ≠ []) :
    (link.write outcome).outbox.length < link.outbox.length ∧
      (link.write outcome).reader = link.reader := by
  unfold Link.write
  split
  · rename_i head rest _ full
    rw [full, List.length_cons]
    cases outcome with
    | sent => exact ⟨Nat.lt_succ_self _, rfl⟩
    | refused reason =>
        dsimp only
        split
        · obtain ⟨reader, _, outbox⟩ := Link.deliver_rest { link with outbox := rest }
            head.header.serial (.refusal (.protocol reason))
          rw [reader, outbox]
          exact ⟨Nat.lt_succ_self _, rfl⟩
        · exact ⟨Nat.lt_succ_self _, rfl⟩
    | failed => exact ⟨Nat.succ_pos _, rfl⟩
  · rename_i other
    cases full : link.outbox with
    | nil => exact absurd full queued
    | cons head rest => exact absurd full (other head rest writing)

theorem Own.work_lt (own : Own state event) :
    work (Tasks.next kind state event) < work state := by
  cases own with
  | @caller id caller present moves =>
      obtain ⟨⟨after, stepped⟩, taken⟩ := Option.isSome_iff_exists.mp moves
      have moved := step_stepped id taken
      rw [Tasks.next_advance kind present taken]
      have weighed := Table.total_insert weight present stepped
      have lower := moved.work
      unfold work
      dsimp only
      rw [moved.outbox.1]
      omega
  | @writer outcome writing queued =>
      obtain ⟨shorter, reader⟩ := @write_outbox state.shared outcome writing queued
      change Table.total weight state.tasks + (state.shared.write outcome).outbox.length +
        (if (state.shared.write outcome).reader = .closing then 1 else 0) < work state
      unfold work
      rw [reader]
      omega
  | clear closing =>
      have cleared : (Tasks.next kind state (.outside .clear)) =
          { state with
            shared := { state.shared with pending := ∅, reader := .ended } } := by
        change { state with shared := LinkEvent.apply state.shared .clear } = _
        unfold LinkEvent.apply
        dsimp only
        rw [if_pos closing]
      rw [cleared]
      unfold work
      dsimp only
      rw [closing]
      simp

theorem write_closedOff {link : Link} (outcome : WriteOutcome) (off : link.ClosedOff) :
    (link.write outcome).ClosedOff := by
  unfold Link.write
  split
  · rename_i head rest writing _
    have ended : link.reader ≠ .reading := by
      rcases off with ended | failed
      · exact ended
      · rw [writing] at failed
        cases failed
    cases outcome with
    | sent => exact .inl ended
    | refused reason =>
        dsimp only
        split
        · left
          rw [(Link.deliver_rest _ _ _).1]
          exact ended
        · exact .inl ended
    | failed => exact .inr rfl
  · exact off

theorem Own.closedOff (own : Own state event)
    (off : state.shared.ClosedOff) : (Tasks.next kind state event).shared.ClosedOff := by
  cases own with
  | @caller id caller present moves =>
      obtain ⟨⟨after, stepped⟩, taken⟩ := Option.isSome_iff_exists.mp moves
      obtain ⟨reader, writing, _⟩ := (step_stepped id taken).outbox
      rw [Tasks.next_advance kind present taken]
      unfold Link.ClosedOff at off ⊢
      rw [reader, writing]
      exact off
  | @writer outcome writing queued => exact write_closedOff outcome off
  | clear closing =>
      change (LinkEvent.apply state.shared .clear).ClosedOff
      unfold LinkEvent.apply
      dsimp only
      rw [if_pos closing]
      exact .inl (fun ended => nomatch ended)

/-! ### How the calls end -/

/-- How a call of a state ends on the connection's own steps: the link is closed, the
transport refused the call, or it did not pass its own checks; and where its reply
was in hand or its end was decided before, with that. -/
inductive EndedByLink (first : State) (caller : Caller) : CallEnd → Prop
  | closed : EndedByLink first caller .closed
  | refused (error : Error) : EndedByLink first caller (.refused error)
  | unsent {error : Error} (ready : caller.phase = .ready) :
      EndedByLink first caller (.rejected error)
  | inHand {serial : Nat} {reply : Message} {ending : CallEnd}
      (drawn : caller.phase.serial = some serial)
      (answer : first.shared.mailbox.lookup serial = some (.answer reply)) :
      EndedByLink first caller ending
  | decided {serial : Nat} {ending : CallEnd}
      (withdrawing : caller.phase = .withdrawing serial ending) :
      EndedByLink first caller ending

structure Follows (first : State) (caller later : Caller) : Prop where
  drawn : ∀ serial, later.phase.serial = some serial →
    caller.phase.serial = some serial ∨ first.shared.serial ≤ serial
  ready : later.phase = .ready → caller.phase = .ready
  withdrawing : ∀ serial ending, later.phase = .withdrawing serial ending →
    ending = .closed ∨ caller.phase = .withdrawing serial ending
  finished : ∀ ending, later.phase = .finished ending →
    caller.phase = .finished ending ∨ EndedByLink first caller ending
  dropped : later.phase = .dropped → caller.phase = .dropped

structure Unfolds (first later : State) : Prop where
  serial : first.shared.serial ≤ later.shared.serial
  answers : ∀ serial reply, later.shared.mailbox.lookup serial = some (.answer reply) →
    first.shared.mailbox.lookup serial = some (.answer reply)
  callers : ∀ id caller, first.tasks.lookup id = some caller →
    ∃ became, later.tasks.lookup id = some became ∧ Follows first caller became

theorem Follows.refl (first : State) (caller : Caller) : Follows first caller caller :=
  ⟨fun _ own => .inl own, fun same => same, fun _ _ same => .inr same,
    fun _ same => .inl same, fun same => same⟩

theorem Follows.ended {ending : CallEnd}
    (ended : EndedByLink first caller ending) : Follows first caller
      (stepped.goTo (.finished ending)) := by
  refine ⟨fun _ own => (nomatch own), fun same => (nomatch same),
    fun _ _ same => (nomatch same), ?_, fun same => (nomatch same)⟩
  intro other same
  cases same
  exact .inr ended

theorem Follows.waits {serial : Nat} (own : stepped.phase.serial = some serial)
    (drawn : caller.phase.serial = some serial ∨ first.shared.serial ≤ serial)
    (bounced : ∀ number ending, stepped.phase = .withdrawing number ending →
      ending = .closed) : Follows first caller stepped := by
  refine ⟨?_, ?_, fun number ending same => .inl (bounced number ending same), ?_, ?_⟩
  · intro number held
    rw [own] at held
    cases held
    exact drawn
  · intro same
    rw [same] at own
    cases own
  · intro ending same
    rw [same] at own
    cases own
  · intro same
    rw [same] at own
    cases own

theorem Follows.step {later : State} {became : Caller} (numbered : Numbered first)
    (unfolds : Unfolds first later) (follows : Follows first caller became)
    (moved : Stepped later.shared became .run after stepped) :
    Follows first caller stepped := by
  have inHand : ∀ {serial reply ending}, became.phase = .awaiting serial →
      later.shared.mailbox.lookup serial = some (.answer reply) →
        EndedByLink first caller ending := by
    intro serial reply ending awaiting answer
    have before := unfolds.answers serial reply answer
    rcases follows.drawn serial (by rw [awaiting]; rfl) with own | fresh
    · exact .inHand own before
    · rw [(numbered.fresh serial fresh).2] at before
      cases before
  cases moved with
  | draws ready =>
      apply Follows.waits rfl (.inr unfolds.serial)
      intro serial ending same
      cases same
  | rejects ready => exact .ended (.unsent (follows.ready ready))
  | inserts locking =>
      apply Follows.waits rfl (follows.drawn _ (by rw [locking]; rfl))
      intro serial ending same
      cases same
  | hands handing _ =>
      apply Follows.waits rfl (follows.drawn _ (by rw [handing]; rfl))
      intro serial ending same
      cases same
  | bounces handing _ =>
      apply Follows.waits rfl (follows.drawn _ (by rw [handing]; rfl))
      intro serial ending same
      cases same
      rfl
  | withdraws withdrawing =>
      rcases follows.withdrawing _ _ withdrawing with rfl | before
      · exact .ended .closed
      · exact .ended (.decided before)
  | continues awaiting answer _ =>
      apply Follows.waits rfl (.inr unfolds.serial)
      intro serial ending same
      cases same
  | answers awaiting answer _ => exact .ended (inHand awaiting answer)
  | refuses _ _ => exact .ended (.refused _)
  | closes _ _ _ => exact .ended .closed

theorem write_answers {link : Link} {outcome : WriteOutcome} {serial : Nat} {reply : Message}
    (answer : (link.write outcome).mailbox.lookup serial = some (.answer reply)) :
    link.mailbox.lookup serial = some (.answer reply) := by
  unfold Link.write at answer
  split at answer
  · rename_i head rest _ _
    cases outcome with
    | sent => exact answer
    | refused reason =>
        dsimp only at answer
        split at answer
        · unfold Link.deliver at answer
          split at answer
          · exact answer
          · dsimp only at answer
            rw [Table.lookup_insert_eq] at answer
            split at answer
            · cases answer
            · exact answer
        · exact answer
    | failed => exact answer
  · exact answer

theorem Unfolds.next {later : State} (numbered : Numbered first) (unfolds : Unfolds first later)
    (own : Own later event) :
    Unfolds first (Tasks.next kind later event) := by
  cases own with
  | @caller id present' present moves =>
      obtain ⟨⟨after, stepped⟩, taken⟩ := Option.isSome_iff_exists.mp moves
      have moved := step_stepped id taken
      rw [Tasks.next_advance kind present taken]
      refine ⟨Nat.le_trans unfolds.serial moved.serial_le, ?_, ?_⟩
      · intro serial reply answer
        dsimp only at answer
        rw [moved.mailbox] at answer
        exact unfolds.answers serial reply answer
      · intro other caller found
        obtain ⟨became, among, follows⟩ := unfolds.callers other caller found
        dsimp only
        by_cases same : other = id
        · rw [same, present] at among
          cases among
          exact ⟨stepped, by rw [same, AList.lookup_insert],
            follows.step numbered unfolds moved⟩
        · exact ⟨became, by rw [AList.lookup_insert_ne same, among], follows⟩
  | @writer outcome writing queued =>
      have settled := Link.write_settles later.shared outcome
      refine ⟨Nat.le_trans unfolds.serial settled.serial, ?_, unfolds.callers⟩
      intro serial reply answer
      exact unfolds.answers serial reply (write_answers answer)
  | clear closing =>
      have settled := Link.apply_settles later.shared .clear
      refine ⟨Nat.le_trans unfolds.serial settled.serial, ?_, unfolds.callers⟩
      intro serial reply answer
      apply unfolds.answers serial reply
      rcases settled.mailbox serial with same | ⟨_, _⟩
      · exact same ▸ answer
      · change (LinkEvent.apply later.shared .clear).mailbox.lookup serial = _ at answer
        unfold LinkEvent.apply at answer
        dsimp only at answer
        split at answer
        · exact answer
        · exact answer

theorem EndedByLink.of_slot {serial : Nat} {ending : CallEnd}
    (ended : EndedByLink first caller ending) (numbered : Numbered first)
    (own : caller.phase.serial = some serial)
    (held : (first.shared.pending.lookup serial).isSome = true)
    (undecided : ∀ ending, caller.phase ≠ .withdrawing serial ending) :
    ending = .closed ∨ ∃ error, ending = .refused error := by
  cases ended with
  | closed => exact .inl rfl
  | refused error => exact .inr ⟨error, rfl⟩
  | unsent ready =>
      rw [ready] at own
      cases own
  | @inHand other reply _ drawn answer =>
      rw [own] at drawn
      cases drawn
      rw [numbered.delivered serial (by rw [answer]; rfl)] at held
      cases held
  | @decided other _ withdrawing =>
      rw [withdrawing] at own
      cases own
      exact absurd withdrawing (undecided ending)

/-- The steps of the connection itself that strand nobody. -/
def ownSystem : System State Event :=
  system.restrict (fun state event => Own state event ∧ ¬ Strands state event)

/-- On a link that is closed off the connection has only so many steps to take on its
own, and when they are taken every call is over, without its deadline; one that had a
slot in the table is closed or refused. -/
theorem closing_settles {state later : State} {events : List Event}
    (reached : (system.restrict (fun state event => ¬ Strands state event)).Reachable state)
    (off : state.shared.ClosedOff) (run : ownSystem.Run state events later) :
    events.length + work later ≤ work state ∧
      (Quiet later → ∀ id caller, state.tasks.lookup id = some caller →
        caller.phase.isOver = false →
          ∃ became ending, later.tasks.lookup id = some became ∧
            became.phase = .finished ending ∧ EndedByLink state caller ending ∧
              ∀ serial, caller.phase.serial = some serial →
                (state.shared.pending.lookup serial).isSome = true →
                  (∀ ending, caller.phase ≠ .withdrawing serial ending) →
                    ending = .closed ∨ ∃ error, ending = .refused error) := by
  have numbered := (numbered_of_reachable reached.of_restrict).common
  constructor
  · apply run.length_le
    rintro before event after ⟨⟨own, _⟩, rfl⟩
    exact own.work_lt
  · intro quiet id caller present live
    have kept : later.shared.ClosedOff ∧ Unfolds state later := by
      apply run.preserves
      · rintro before event after ⟨⟨own, _⟩, rfl⟩ ⟨off, unfolds⟩
        exact ⟨own.closedOff off, unfolds.next numbered own⟩
      · exact ⟨off, ⟨Nat.le_refl _, fun _ _ same => same,
          fun id caller found => ⟨caller, found, .refl state caller⟩⟩⟩
    have attended : Attended later := by
      obtain ⟨first, early, starts, toState⟩ := reached
      apply attended_of_reachable
      refine ⟨first, early ++ events, starts, toState.append ?_⟩
      exact run.mono (fun _ _ _ stepped => ⟨stepped.1.2, stepped.2⟩)
    obtain ⟨became, among, follows⟩ := kept.2.callers id caller present
    have settled := quiet.isOver attended kept.1 among
    refine ⟨became, ?_⟩
    cases phase : became.phase with
    | finished ending =>
        rcases follows.finished ending phase with before | ended
        · rw [before] at live
          cases live
        · exact ⟨ending, among, rfl, ended, fun serial own held undecided =>
            ended.of_slot numbered own held undecided⟩
    | dropped =>
        rw [follows.dropped phase] at live
        cases live
    | _ =>
        rw [phase] at settled
        cases settled

/-! ### A call that is woken, and one that is not -/

def idle (state : State) : Bool :=
  state.shared.outbox.isEmpty && decide (state.shared.reader ≠ .closing) &&
    state.tasks.pairs.all (fun entry => (entry.2.step entry.1 .run state.shared).isNone)

theorem quiet_of_idle (still : idle state = true) : Quiet state := by
  unfold idle at still
  rw [Bool.and_eq_true, Bool.and_eq_true, List.isEmpty_iff, decide_eq_true_iff,
    List.all_eq_true] at still
  obtain ⟨⟨drained, open'⟩, stuck⟩ := still
  intro event own
  cases own with
  | @caller id caller present moves =>
      have none := stuck (id, caller) (Table.mem_pairs_iff_lookup.mpr present)
      rw [Option.isNone_iff_eq_none] at none
      dsimp only at none
      rw [none] at moves
      cases moves
  | writer _ queued => exact queued drained
  | clear closing => exact open' closing

def harmless (state : State) : Event → Bool
  | .outside (.write .sent) => decide (state.shared.reader ≠ .ended)
  | .outside (.write _) => false
  | _ => true

theorem harmless_sound (safe : harmless state event = true) :
    ¬ Strands state event := by
  intro strands
  cases strands with
  | @takes outcome message rest ended writing queued unanswered waits =>
      cases outcome with
      | sent => exact of_decide_eq_true safe ended
      | refused reason => cases safe
      | failed => cases safe
  | fails _ _ _ _ => cases safe

def owned (state : State) : Event → Bool
  | .advance id .run =>
      ((state.tasks.lookup id).bind (fun caller => caller.step id .run state.shared)).isSome
  | .outside .clear => decide (state.shared.reader = .closing)
  | _ => false

theorem owned_sound (mine : owned state event = true) :
    Own state event ∧ ¬ Strands state event := by
  unfold owned at mine
  split at mine
  · rename_i id
    obtain ⟨stepped, moves⟩ := Option.isSome_iff_exists.mp mine
    obtain ⟨caller, present, taken⟩ := Option.bind_eq_some_iff.mp moves
    exact ⟨.caller present (by rw [taken]; rfl), harmless_sound rfl⟩
  · exact ⟨.clear (of_decide_eq_true mine), harmless_sound rfl⟩
  · cases mine

def sentCall : List Event :=
  [.start 0 question, .advance 0 .run, .advance 0 .run, .advance 0 .run,
    .outside (.write .sent), .outside .readerEnds]

def wake : List Event := [.outside .clear, .advance 0 .run]

theorem sentCall_settles :
    ∃ (state later : State) (caller became : Caller) (ending : CallEnd),
      state.tasks.lookup 0 = some caller ∧ caller.phase.isOver = false ∧
        later.tasks.lookup 0 = some became ∧ became.phase = .finished ending ∧
          EndedByLink state caller ending := by
  have replayed : ((replay (Tasks.next kind) harmless attached sentCall).bind
      (fun state => (replay (Tasks.next kind) owned state wake).map (state, ·))).map
        (fun pair => (pair.1.shared.reader,
          (pair.1.tasks.lookup 0).map (fun caller => caller.phase.isOver), idle pair.2)) =
            some (.closing, some false, true) := by
    decide
  obtain ⟨⟨state, later⟩, both, seen⟩ := Option.map_eq_some_iff.mp replayed
  obtain ⟨before, reached, after⟩ := Option.bind_eq_some_iff.mp both
  obtain ⟨last, woken, same⟩ := Option.map_eq_some_iff.mp after
  obtain ⟨rfl, rfl⟩ := Prod.mk.inj same
  rw [Prod.mk.injEq, Prod.mk.injEq] at seen
  obtain ⟨closing, kept, still⟩ := seen
  obtain ⟨caller, present, live⟩ := Option.map_eq_some_iff.mp kept
  have toState : (system.restrict (fun state event => ¬ Strands state event)).Run attached
      sentCall before := by
    apply System.Run.of_replay _ reached
    intro state event safe
    exact ⟨harmless_sound safe, rfl⟩
  have toLater : ownSystem.Run before wake last := by
    apply System.Run.of_replay _ woken
    intro state event mine
    exact ⟨owned_sound mine, rfl⟩
  obtain ⟨became, ending, among, settled, ended, _⟩ :=
    (closing_settles ⟨attached, sentCall, ⟨rfl, rfl⟩, toState⟩
      (.inl (by rw [closing]; decide)) toLater).2 (quiet_of_idle still) 0 caller present live
  exact ⟨before, last, caller, became, ending, present, live, among, settled, ended⟩

def lateCall : List Event :=
  [.outside .readerEnds, .outside .clear, .start 0 question, .advance 0 .run,
    .advance 0 .run, .advance 0 .run, .outside (.write .sent)]

/-- A call that reaches the writer after the reader has ended is left to its deadline. -/
theorem lateCall_stranded :
    ¬ ∀ state : State, system.Reachable state → state.shared.ClosedOff → Quiet state →
      ∀ id caller, state.tasks.lookup id = some caller → caller.phase.isOver = true := by
  intro every
  have replayed : (replay (Tasks.next kind) (fun _ _ => true) attached lateCall).map
      (fun state => (idle state, state.shared.reader,
        (state.tasks.lookup 0).map (fun caller => caller.phase.isOver))) =
          some (true, .ended, some false) := by
    decide
  obtain ⟨state, reached, seen⟩ := Option.map_eq_some_iff.mp replayed
  rw [Prod.mk.injEq, Prod.mk.injEq] at seen
  obtain ⟨still, ended, kept⟩ := seen
  obtain ⟨caller, present, live⟩ := Option.map_eq_some_iff.mp kept
  have settled := every state ⟨attached, lateCall, ⟨rfl, rfl⟩, run_of_replay reached⟩
    (.inl (by rw [ended]; decide)) (quiet_of_idle still) 0 caller present
  rw [live] at settled
  cases settled

end Caller

end TinyBus
