/-
What a step of a caller and an event of its link can do, said once, and how the
serials of the callers, of the slots and of the answers belong together.
-/

import TinyBus.CallerTasks

namespace TinyBus

open TransitionSystem

namespace CallerPhase

/-- The serial that a call has drawn and not yet finished with. -/
def serial : CallerPhase → Option Nat
  | .locking serial => some serial
  | .handing serial => some serial
  | .awaiting serial => some serial
  | .withdrawing serial _ => some serial
  | _ => none

/-- The serial under which a waiting caller has put its slot into the table. -/
def holds : CallerPhase → Option Nat
  | .handing serial => some serial
  | .awaiting serial => some serial
  | .withdrawing serial _ => some serial
  | _ => none

def isOver : CallerPhase → Bool
  | .finished _ => true
  | .dropped => true
  | _ => false

theorem serial_of_holds {phase : CallerPhase} {number : Nat}
    (held : phase.holds = some number) : phase.serial = some number := by
  cases phase with
  | handing serial => exact held
  | awaiting serial => exact held
  | withdrawing serial ending => exact held
  | _ => cases held

theorem isOver_of_serial {phase : CallerPhase} {number : Nat}
    (drawn : phase.serial = some number) : phase.isOver = false := by
  cases phase with
  | finished ending => cases drawn
  | dropped => cases drawn
  | _ => rfl

end CallerPhase

namespace Caller

inductive Stepped (link : Link) (caller : Caller) : CallerChoice → Link → Caller → Prop
  | draws {message : Message} {expected : Option BusName} {busControl : Bool}
      {rest : Option (BusName × Message)} (first : caller.phase = .ready) :
      Stepped link caller .run (draw link message expected busControl rest).1
        (draw link message expected busControl rest).2
  | rejects {error : Error} (first : caller.phase = .ready) :
      Stepped link caller .run link (caller.goTo (.finished (.rejected error)))
  | inserts {serial : Nat} (locking : caller.phase = .locking serial) :
      Stepped link caller .run
        { link with pending := link.pending.insert serial (caller.slot link) }
        (caller.goTo (.handing serial))
  | hands {serial : Nat} (handing : caller.phase = .handing serial)
      (writing : link.writing = true) :
      Stepped link caller .run { link with outbox := link.outbox ++ [caller.message] }
        (caller.goTo (.awaiting serial))
  | bounces {serial : Nat} (handing : caller.phase = .handing serial)
      (gone : link.writing = false) :
      Stepped link caller .run link (caller.goTo (.withdrawing serial .closed))
  | withdraws {serial : Nat} {ending : CallEnd}
      (withdrawing : caller.phase = .withdrawing serial ending) :
      Stepped link caller .run { link with pending := link.pending.erase serial }
        (caller.goTo (.finished ending))
  | continues {serial : Nat} {reply message : Message} {owner destination : BusName}
      {waiting : Message} (awaiting : caller.phase = .awaiting serial)
      (answer : link.mailbox.lookup serial = some (.answer reply))
      (rest : caller.rest = some (destination, waiting)) :
      Stepped link caller .run (draw link message (some owner) false none).1
        (draw link message (some owner) false none).2
  | answers {serial : Nat} {reply : Message} {ending : CallEnd}
      (awaiting : caller.phase = .awaiting serial)
      (answer : link.mailbox.lookup serial = some (.answer reply))
      (outcome : ending = .replied reply ∨ ∃ error, ending = .rejected error) :
      Stepped link caller .run link (caller.goTo (.finished ending))
  | refuses {serial : Nat} {error : Error} (awaiting : caller.phase = .awaiting serial)
      (refusal : link.mailbox.lookup serial = some (.refusal error)) :
      Stepped link caller .run link (caller.goTo (.finished (.refused error)))
  | closes {serial : Nat} (awaiting : caller.phase = .awaiting serial)
      (empty : link.mailbox.lookup serial = none)
      (gone : link.pending.lookup serial = none) :
      Stepped link caller .run link (caller.goTo (.finished .closed))
  | expires {serial : Nat} (awaiting : caller.phase = .awaiting serial) :
      Stepped link caller .deadline link (caller.goTo (.withdrawing serial .timedOut))
  | drops (live : caller.phase.isOver = false) :
      Stepped link caller .drop link (caller.goTo .dropped)

theorem begin_stepped (link : Link) {caller : Caller} (first : caller.phase = .ready) :
    Stepped link caller .run (caller.begin link).1 (caller.begin link).2 := by
  unfold begin
  split
  · exact .rejects first
  · split
    · exact .draws first
    · exact .draws first
    · exact .draws first
    · dsimp only
      split
      · exact .rejects first
      · exact .draws first

theorem answered_stepped {link : Link} {caller : Caller} {serial : Nat} {reply : Message}
    (awaiting : caller.phase = .awaiting serial)
    (answer : link.mailbox.lookup serial = some (.answer reply)) :
    Stepped link caller .run (caller.answered link reply).1
      (caller.answered link reply).2 := by
  unfold answered
  split
  · exact .answers awaiting answer (.inl rfl)
  · rename_i destination waiting rest
    split
    · exact .answers awaiting answer (.inl rfl)
    · split
      · exact .answers awaiting answer (.inr ⟨_, rfl⟩)
      · split
        · exact .answers awaiting answer (.inr ⟨_, rfl⟩)
        · split
          · exact .answers awaiting answer (.inr ⟨_, rfl⟩)
          · exact .continues awaiting answer rest

theorem step_stepped (id : Nat) {choice : CallerChoice} {link after : Link}
    {caller stepped : Caller}
    (taken : caller.step id choice link = some (after, stepped)) :
    Stepped link caller choice after stepped := by
  unfold step at taken
  split at taken
  · rename_i first
    have moved := begin_stepped link first
    rw [Option.some.inj taken] at moved
    exact moved
  · rename_i serial locking
    cases taken
    exact .inserts locking
  · rename_i serial handing
    split at taken
    · rename_i writing
      unfold Link.accept at taken
      split at taken
      · cases taken
        exact .hands handing writing
      · cases taken
    · rename_i gone
      rw [Bool.not_eq_true] at gone
      cases taken
      exact .bounces handing gone
  · rename_i serial awaiting
    split at taken
    · rename_i reply answer
      have moved := answered_stepped awaiting answer
      rw [Option.some.inj taken] at moved
      exact moved
    · rename_i error refusal
      cases taken
      exact .refuses awaiting refusal
    · rename_i empty
      split at taken
      · cases taken
      · rename_i gone
        rw [Option.not_isSome_iff_eq_none] at gone
        cases taken
        exact .closes awaiting empty gone
  · rename_i serial ending withdrawing
    cases taken
    exact .withdraws withdrawing
  · rename_i serial awaiting
    split at taken
    · cases taken
      exact .expires awaiting
    · cases taken
  · cases taken
  · cases taken
  · rename_i alive gone
    cases taken
    refine .drops ?_
    cases phase : caller.phase with
    | finished ending => exact absurd phase (alive ending)
    | dropped => exact absurd phase gone
    | _ => rfl
  · cases taken

theorem step_drop (id : Nat) (link : Link) {caller : Caller}
    (live : caller.phase.isOver = false) :
    caller.step id .drop link = some (link, caller.goTo .dropped) := by
  rcases caller with ⟨message, expected, busControl, rest, phase⟩
  cases phase with
  | finished ending => cases live
  | dropped => cases live
  | _ => rfl

variable {link after : Link} {caller stepped : Caller} {choice : CallerChoice}

theorem Stepped.mailbox (moved : Stepped link caller choice after stepped) :
    after.mailbox = link.mailbox := by
  cases moved with
  | _ => rfl

theorem Stepped.serial_le (moved : Stepped link caller choice after stepped) :
    link.serial ≤ after.serial := by
  cases moved with
  | draws _ => exact Nat.le_succ link.serial
  | continues _ _ _ => exact Nat.le_succ link.serial
  | _ => exact Nat.le_refl link.serial

theorem Stepped.serial (moved : Stepped link caller choice after stepped) :
    stepped.phase.serial = none ∨ stepped.phase.serial = caller.phase.serial ∨
      stepped.phase.serial = some link.serial ∧ after.serial = link.serial + 1 := by
  cases moved with
  | draws _ => exact .inr (.inr ⟨rfl, rfl⟩)
  | continues _ _ _ => exact .inr (.inr ⟨rfl, rfl⟩)
  | inserts locking =>
      rw [locking]
      exact .inr (.inl rfl)
  | hands handing _ =>
      rw [handing]
      exact .inr (.inl rfl)
  | bounces handing _ =>
      rw [handing]
      exact .inr (.inl rfl)
  | expires awaiting =>
      rw [awaiting]
      exact .inr (.inl rfl)
  | _ => exact .inl rfl

theorem Stepped.pending (moved : Stepped link caller choice after stepped) (serial : Nat) :
    after.pending.lookup serial = link.pending.lookup serial ∨
      after.pending.lookup serial = none ∨
        caller.phase = .locking serial ∧ stepped.phase = .handing serial := by
  cases moved with
  | @inserts own locking =>
      dsimp only
      rw [Table.lookup_insert_eq]
      split
      · rename_i same
        rw [same]
        exact .inr (.inr ⟨locking, rfl⟩)
      · exact .inl rfl
  | withdraws _ =>
      dsimp only
      rw [Table.lookup_erase_eq]
      split
      · exact .inr (.inl rfl)
      · exact .inl rfl
  | _ => exact .inl rfl

theorem Stepped.locking (moved : Stepped link caller choice after stepped) {serial : Nat}
    (locks : stepped.phase = .locking serial) :
    serial = link.serial ∧ after.pending = link.pending := by
  cases moved with
  | draws _ =>
      cases locks
      exact ⟨rfl, rfl⟩
  | continues _ _ _ =>
      cases locks
      exact ⟨rfl, rfl⟩
  | _ => cases locks

theorem Stepped.written (moved : Stepped link caller choice after stepped)
    (before : ∀ serial, caller.phase.serial = some serial →
      caller.message.header.serial = serial) {serial : Nat}
    (drawn : stepped.phase.serial = some serial) :
    stepped.message.header.serial = serial := by
  cases moved with
  | draws _ => exact Option.some.inj drawn
  | continues _ _ _ => exact Option.some.inj drawn
  | inserts locking =>
      apply before
      rw [locking]
      exact drawn
  | hands handing _ =>
      apply before
      rw [handing]
      exact drawn
  | bounces handing _ =>
      apply before
      rw [handing]
      exact drawn
  | expires awaiting =>
      apply before
      rw [awaiting]
      exact drawn
  | _ => cases drawn

end Caller

/-- Around the callers slots only go, and what a channel gets it gets as its slot
goes. -/
structure Link.Settles (before after : Link) : Prop where
  serial : before.serial ≤ after.serial
  pending : ∀ serial, after.pending.lookup serial = before.pending.lookup serial ∨
    after.pending.lookup serial = none
  mailbox : ∀ serial, after.mailbox.lookup serial = before.mailbox.lookup serial ∨
    (before.pending.lookup serial).isSome = true ∧ after.pending.lookup serial = none

namespace Link

theorem Settles.of_same {before after : Link} (serial : before.serial ≤ after.serial)
    (pending : after.pending = before.pending) (mailbox : after.mailbox = before.mailbox) :
    before.Settles after :=
  ⟨serial, fun _ => .inl (by rw [pending]), fun _ => .inl (by rw [mailbox])⟩

theorem deliver_rest (link : Link) (serial : Nat) (delivery : Delivery) :
    (link.deliver serial delivery).reader = link.reader ∧
      (link.deliver serial delivery).writing = link.writing ∧
        (link.deliver serial delivery).outbox = link.outbox := by
  unfold deliver
  split
  · exact ⟨rfl, rfl, rfl⟩
  · exact ⟨rfl, rfl, rfl⟩

theorem lookup_deliver (link : Link) (serial other : Nat) (delivery : Delivery) :
    (link.deliver serial delivery).pending.lookup other =
      if other = serial then none else link.pending.lookup other := by
  unfold deliver
  split
  · rename_i absent
    split
    · rename_i same
      rw [same]
      exact absent
    · rfl
  · exact Table.lookup_erase_eq _ _ _

theorem deliver_settles (link : Link) (serial : Nat) (delivery : Delivery) :
    link.Settles (link.deliver serial delivery) := by
  unfold deliver
  split
  · exact .of_same (Nat.le_refl _) rfl rfl
  · rename_i slot present
    refine ⟨Nat.le_refl _, ?_, ?_⟩
    · intro other
      dsimp only
      rw [Table.lookup_erase_eq]
      split
      · exact .inr rfl
      · exact .inl rfl
    · intro other
      dsimp only
      rw [Table.lookup_erase_eq, Table.lookup_insert_eq]
      split
      · rename_i same
        rw [same, present]
        exact .inr ⟨rfl, rfl⟩
      · exact .inl rfl

theorem receive_settles (link : Link) (reply : Message) (brokered : Bool) :
    link.Settles (link.receive reply brokered) := by
  unfold receive
  split
  · exact .of_same (Nat.le_refl _) rfl rfl
  · split
    · exact deliver_settles _ _ _
    · exact .of_same (Nat.le_refl _) rfl rfl

theorem write_settles (link : Link) (outcome : WriteOutcome) :
    link.Settles (link.write outcome) := by
  unfold write
  split
  · rename_i message rest _ _
    cases outcome with
    | sent => exact .of_same (Nat.le_refl _) rfl rfl
    | refused reason =>
        dsimp only
        split
        · have settled := deliver_settles { link with outbox := rest }
            message.header.serial (.refusal (.protocol reason))
          exact ⟨settled.serial, settled.pending, settled.mailbox⟩
        · exact .of_same (Nat.le_refl _) rfl rfl
    | failed => exact .of_same (Nat.le_refl _) rfl rfl
  · exact .of_same (Nat.le_refl _) rfl rfl

theorem apply_settles (link : Link) (event : LinkEvent) :
    link.Settles (event.apply link) := by
  cases event with
  | hello name => exact .of_same (Nat.le_refl _) rfl rfl
  | receive reply brokered =>
      unfold LinkEvent.apply
      dsimp only
      split
      · exact receive_settles link reply brokered
      · exact .of_same (Nat.le_refl _) rfl rfl
  | readerEnds =>
      unfold LinkEvent.apply
      dsimp only
      split
      · exact .of_same (Nat.le_refl _) rfl rfl
      · exact .of_same (Nat.le_refl _) rfl rfl
  | clear =>
      unfold LinkEvent.apply
      dsimp only
      split
      · exact ⟨Nat.le_refl _, fun _ => .inr rfl, fun _ => .inl rfl⟩
      · exact .of_same (Nat.le_refl _) rfl rfl
  | write outcome => exact write_settles link outcome
  | post message =>
      unfold LinkEvent.apply accept
      dsimp only
      split
      · exact .of_same (Nat.le_succ _) rfl rfl
      · exact .of_same (Nat.le_succ _) rfl rfl

end Link

namespace Caller

structure Numbered (state : State) : Prop where
  fresh : ∀ serial, state.shared.serial ≤ serial →
    state.shared.pending.lookup serial = none ∧ state.shared.mailbox.lookup serial = none
  delivered : ∀ serial, (state.shared.mailbox.lookup serial).isSome = true →
    state.shared.pending.lookup serial = none
  distinct : ∀ id other caller bystander serial, state.tasks.lookup id = some caller →
    state.tasks.lookup other = some bystander → caller.phase.serial = some serial →
      bystander.phase.serial = some serial → id = other

structure Drawn (link : Link) (caller : Caller) : Prop where
  below : ∀ serial, caller.phase.serial = some serial → serial < link.serial
  early : ∀ serial, caller.phase = .locking serial →
    link.pending.lookup serial = none ∧ link.mailbox.lookup serial = none
  written : ∀ serial, caller.phase.serial = some serial →
    caller.message.header.serial = serial

variable {after : Link} {choice : CallerChoice} {state : State} {stepped : Caller}

theorem Numbered.distinct_step {id : Nat} {caller : Caller}
    (sound : Tasks.Sound Numbered (fun _ => Drawn) state)
    (present : state.tasks.lookup id = some caller)
    (moved : Stepped state.shared caller choice after stepped) {other : Nat} {bystander : Caller}
    {serial : Nat} (found : state.tasks.lookup other = some bystander)
    (own : stepped.phase.serial = some serial)
    (others : bystander.phase.serial = some serial) : id = other := by
  rcases moved.serial with none | same | ⟨fresh, _⟩
  · rw [none] at own
    cases own
  · rw [same] at own
    exact sound.common.distinct id other caller bystander serial present found own others
  · rw [fresh] at own
    cases own
    exact absurd ((sound.own other bystander found).below _ others) (Nat.lt_irrefl _)

theorem Numbered.step {id : Nat} {caller : Caller}
    (sound : Tasks.Sound Numbered (fun _ => Drawn) state)
    (present : state.tasks.lookup id = some caller)
    (moved : Stepped state.shared caller choice after stepped) :
    Numbered { shared := after, tasks := state.tasks.insert id stepped } := by
  have drawn := sound.own id caller present
  refine ⟨?_, ?_, ?_⟩
  · intro serial above
    obtain ⟨absent, silent⟩ := sound.common.fresh serial
      (Nat.le_trans moved.serial_le above)
    dsimp only
    rw [moved.mailbox]
    refine ⟨?_, silent⟩
    rcases moved.pending serial with same | gone | ⟨locking, _⟩
    · rw [same, absent]
    · exact gone
    · have below := drawn.below serial (by rw [locking]; rfl)
      have grown := moved.serial_le
      dsimp only at above
      omega
  · intro serial given
    dsimp only at given ⊢
    rw [moved.mailbox] at given
    rcases moved.pending serial with same | gone | ⟨locking, _⟩
    · rw [same]
      exact sound.common.delivered serial given
    · exact gone
    · rw [(drawn.early serial locking).2] at given
      cases given
  · intro first second left right serial atFirst atSecond ofFirst ofSecond
    dsimp only at atFirst atSecond
    rw [Table.lookup_insert_eq] at atFirst atSecond
    split at atFirst
    · rename_i here
      cases atFirst
      split at atSecond
      · rename_i there
        rw [here, there]
      · rw [here]
        exact Numbered.distinct_step sound present moved atSecond ofFirst ofSecond
    · split at atSecond
      · rename_i there
        cases atSecond
        rw [there]
        exact (Numbered.distinct_step sound present moved atFirst ofSecond ofFirst).symm
      · exact sound.common.distinct first second left right serial atFirst atSecond
          ofFirst ofSecond

theorem Drawn.step {id : Nat} {caller : Caller}
    (sound : Tasks.Sound Numbered (fun _ => Drawn) state)
    (present : state.tasks.lookup id = some caller)
    (moved : Stepped state.shared caller choice after stepped) : Drawn after stepped := by
  have drawn := sound.own id caller present
  refine ⟨?_, ?_, fun serial own => moved.written drawn.written own⟩
  · intro serial own
    rcases moved.serial with none | same | ⟨fresh, grown⟩
    · rw [none] at own
      cases own
    · rw [same] at own
      exact Nat.lt_of_lt_of_le (drawn.below serial own) moved.serial_le
    · rw [fresh] at own
      cases own
      omega
  · intro serial locks
    obtain ⟨rfl, same⟩ := moved.locking locks
    rw [same, moved.mailbox]
    exact sound.common.fresh _ (Nat.le_refl _)

theorem Drawn.other {id other : Nat} {caller bystander : Caller}
    (sound : Tasks.Sound Numbered (fun _ => Drawn) state)
    (present : state.tasks.lookup id = some caller)
    (moved : Stepped state.shared caller choice after stepped) (different : other ≠ id)
    (found : state.tasks.lookup other = some bystander) : Drawn after bystander := by
  have drawn := sound.own other bystander found
  refine ⟨?_, ?_, drawn.written⟩
  · intro serial own
    exact Nat.lt_of_lt_of_le (drawn.below serial own) moved.serial_le
  · intro serial locks
    obtain ⟨absent, silent⟩ := drawn.early serial locks
    rw [moved.mailbox]
    refine ⟨?_, silent⟩
    rcases moved.pending serial with same | gone | ⟨locking, _⟩
    · rw [same, absent]
    · exact gone
    · have same := sound.common.distinct id other caller bystander serial present found
        (by rw [locking]; rfl) (by rw [locks]; rfl)
      exact absurd same.symm different

theorem Numbered.around (sound : Tasks.Sound Numbered (fun _ => Drawn) state)
    (settled : state.shared.Settles after) :
    Tasks.Sound Numbered (fun _ => Drawn) { state with shared := after } := by
  refine ⟨⟨?_, ?_, sound.common.distinct⟩, ?_⟩
  · intro serial above
    obtain ⟨absent, silent⟩ := sound.common.fresh serial
      (Nat.le_trans settled.serial above)
    constructor
    · rcases settled.pending serial with same | gone
      · exact same.trans absent
      · exact gone
    · rcases settled.mailbox serial with same | ⟨had, _⟩
      · exact same.trans silent
      · rw [absent] at had
        cases had
  · intro serial given
    rcases settled.mailbox serial with same | ⟨_, gone⟩
    · dsimp only at given
      rw [same] at given
      rcases settled.pending serial with kept | gone
      · exact kept.trans (sound.common.delivered serial given)
      · exact gone
    · exact gone
  · intro id caller found
    have drawn := sound.own id caller found
    refine ⟨?_, ?_, drawn.written⟩
    · intro serial own
      exact Nat.lt_of_lt_of_le (drawn.below serial own) settled.serial
    · intro serial locks
      obtain ⟨absent, silent⟩ := drawn.early serial locks
      constructor
      · rcases settled.pending serial with same | gone
        · exact same.trans absent
        · exact gone
      · rcases settled.mailbox serial with same | ⟨had, _⟩
        · exact same.trans silent
        · rw [absent] at had
          cases had

theorem keeps : Tasks.Keeps kind Numbered (fun _ => Drawn) (fun _ _ => True) := by
  refine ⟨?_, ?_, ?_, ?_⟩
  · intro state id message sound _ vacant
    refine ⟨⟨sound.common.fresh, sound.common.delivered, ?_⟩, ?_⟩
    · intro first second left right serial atFirst atSecond ofFirst ofSecond
      dsimp only at atFirst atSecond
      rw [Table.lookup_insert_eq] at atFirst atSecond
      split at atFirst
      · cases atFirst
        cases ofFirst
      · split at atSecond
        · cases atSecond
          cases ofSecond
        · exact sound.common.distinct first second left right serial atFirst atSecond
            ofFirst ofSecond
    · exact ⟨fun serial own => (nomatch own), fun serial locks => (nomatch locks),
        fun serial own => (nomatch own)⟩
  · intro state id choice caller after stepped sound _ present taken
    have moved := step_stepped id taken
    exact ⟨Numbered.step sound present moved, Drawn.step sound present moved⟩
  · intro state id choice caller after stepped other bystander sound _ present taken
      different found
    exact Drawn.other sound present (step_stepped id taken) different found
  · intro state event sound _
    exact Numbered.around sound (Link.apply_settles state.shared event)

theorem numbered_of_reachable (reached : system.Reachable state) :
    Tasks.Sound Numbered (fun _ => Drawn) state := by
  refine Tasks.sound_of_keeps keeps ?_ (reached.of_guard (fun _ _ => trivial))
  intro first starts empty
  refine ⟨?_, ?_, ?_⟩
  · intro serial _
    rw [starts]
    exact ⟨rfl, rfl⟩
  · intro serial given
    rw [starts] at given
    cases given
  · intro id other caller bystander serial found
    rw [empty] at found
    cases found

end Caller

end TinyBus
