/-
What a clean end says when the handlers of a stream run at once.  A close reads
the count and records its verdict later, and a write that has its copy of the
writing half may add to the count in between; where none does, the bytes before a
clean end are those that the close verified.
-/

import TinyBus.StreamOrder

namespace TinyBus

open TransitionSystem

namespace StreamTask

def Action.isComplete : Action → Bool
  | .complete _ => true
  | _ => false

def Phase.completing : Phase → Bool
  | .running program _ => program.any Action.isComplete
  | _ => false

def Phase.stores : Phase → Bool
  | .storing _ _ => true
  | _ => false

def Verified (state : Tasks Shared Task) : Prop :=
  state.shared.outcome = some .complete ∨
    state.shared.outcome = none ∧
      state.tasks.pairs.any (fun entry => entry.2.phase.completing) = true

instance (state : Tasks Shared Task) : Decidable (Verified state) :=
  inferInstanceAs (Decidable (_ ∨ _))

def CountsFirst (state : Tasks Shared Task) : Event → Prop
  | .advance id _ =>
      (state.tasks.lookup id).any (fun task => task.phase.stores) = true → ¬ Verified state
  | _ => True

instance (state : Tasks Shared Task) : DecidablePred (CountsFirst state)
  | .advance _ _ => inferInstanceAs (Decidable (_ → _))
  | .start _ _ | .outside _ => inferInstanceAs (Decidable True)

/-- The bytes before a clean end are those of the total that a close verified, they
are all that was pushed, and every acknowledged write is among them. -/
structure CleanEndExact (state : Tasks Shared Task) : Prop where
  total : state.shared.cleanEnd = true →
    state.shared.verified = some state.shared.delivered.flatten.length
  nothingElse : state.shared.cleanEnd = true →
    state.shared.pushed.map (fun entry => entry.2.chunk) = state.shared.delivered
  acknowledged : state.shared.cleanEnd = true → ∀ id task sender seq data value,
    state.tasks.lookup id = some task → task.handler = .write sender seq data →
      task.phase = .answered (.ok value) →
        ∃ chunk, Base64.decode data = .ok chunk ∧ state.shared.delivered[seq]? = some chunk

namespace Shared

def Balance (shared : Shared) (due : Nat) : Prop :=
  shared.aborted = false → shared.reader ≠ .dropped →
    shared.delivered.flatten.length + shared.buffered.flatten.length + due = shared.received

def Books (shared : Shared) : Phase → Prop
  | .gated _ | .numbering _ | .measuring _ => shared.Balance 0
  | .counting write received | .storing write received =>
      received = shared.received + write.chunk.length ∧ shared.Balance 0
  | .touching write | .checking write | .polling write | .offering write =>
      shared.Balance write.chunk.length
  | .running program _ => .dropGate ∈ program → shared.Balance 0
  | _ => True

def Verdicts (shared : Shared) : Phase → Prop
  | .running program _ =>
      (.raise ∈ program → ∃ reason, shared.outcome = some (.aborted reason)) ∧
        ∀ totalLen, .complete totalLen ∈ program → shared.outcome = none →
          totalLen = shared.received
  | _ => True

structure Settled (shared : Shared) : Prop where
  balance : shared.gate = none → shared.Balance 0
  raised : shared.aborted = true → ∃ reason, shared.outcome = some (.aborted reason)
  drained : shared.drained = true → shared.writing = false ∧ shared.buffered = []
  complete : shared.outcome = some .complete → shared.verified = some shared.received
  ended : shared.cleanEnd = true →
    shared.outcome = some .complete ∧ shared.drained = true ∧
      shared.delivered.flatten.length = shared.received ∧
        shared.pushed.map (fun entry => entry.2.chunk) = shared.delivered

structure Level (before after : Shared) : Prop where
  received : after.received = before.received
  aborted : before.aborted = true → after.aborted = true
  dropped : before.reader = .dropped → after.reader = .dropped
  bytes : after.reader ≠ .dropped →
    after.delivered.flatten.length + after.buffered.flatten.length =
      before.delivered.flatten.length + before.buffered.flatten.length

namespace Level

variable {before after : Shared}

theorem of_frame (frame : Frame before after) (received : after.received = before.received) :
    Level before after := by
  refine ⟨received, frame.aborted, frame.dropped, ?_⟩
  intro present
  have channel := congrArg (fun chunks : List Chunk => chunks.flatten.length)
    (frame.channel present)
  simpa only [List.flatten_append, List.length_append] using channel

theorem balance (level : Level before after) {due : Nat} (balance : before.Balance due) :
    after.Balance due := by
  intro calm present
  have calm' : before.aborted = false := by
    cases flag : before.aborted with
    | false => rfl
    | true =>
        rw [level.aborted flag] at calm
        cases calm
  rw [level.bytes present, level.received]
  exact balance calm' (fun dropped => present (level.dropped dropped))

theorem books (level : Level before after) {phase : Phase} (books : before.Books phase) :
    after.Books phase := by
  cases phase with
  | gated _ => exact level.balance books
  | numbering _ => exact level.balance books
  | measuring _ => exact level.balance books
  | counting _ _ => exact ⟨by rw [level.received, books.1], level.balance books.2⟩
  | storing _ _ => exact ⟨by rw [level.received, books.1], level.balance books.2⟩
  | touching _ => exact level.balance books
  | checking _ => exact level.balance books
  | polling _ => exact level.balance books
  | offering _ => exact level.balance books
  | running _ _ => exact fun member => level.balance (books member)
  | start => trivial
  | found => trivial
  | waiting _ => trivial
  | inspecting => trivial
  | tallying => trivial
  | taking => trivial
  | answered _ => trivial

end Level

/-! ### What a step does to the verdict -/

structure Onward (before after : Shared) : Prop where
  outcome : ∀ outcome, before.outcome = some outcome → after.outcome = some outcome
  writing : after.writing = true → before.writing = true
  delivered : after.delivered = before.delivered
  drained : after.drained = before.drained
  cleanEnd : after.cleanEnd = before.cleanEnd

theorem Onward.refl (shared : Shared) : Onward shared shared :=
  ⟨fun _ => id, id, rfl, rfl, rfl⟩

theorem Onward.undecided {before after : Shared} (onward : Onward before after)
    (open' : after.outcome = none) : before.outcome = none := by
  cases decided : before.outcome with
  | none => rfl
  | some outcome =>
      rw [onward.outcome outcome decided] at open'
      cases open'

structure Acted (action : Action) (before after : Shared) (more : List Action) : Prop where
  onward : Onward before after
  received : after.received = before.received
  flag : after.aborted = before.aborted ∨ action = .raise
  buffered : after.buffered = before.buffered ∨ after.buffered = []
  verdict : after.outcome = before.outcome ∧ after.verified = before.verified ∨
    before.outcome = none ∧
      ((∃ totalLen, action = .complete totalLen ∧ after.outcome = some .complete ∧
          after.verified = some totalLen) ∨
        ∃ reason, after.outcome = some (.aborted reason))
  raising : .raise ∈ more → ∃ reason, after.outcome = some (.aborted reason)

theorem act_acted {shared after : Shared} {self : Nat} {action : Action}
    {more : List Action} (done : shared.act self action = some (after, more)) :
    Acted action shared after more := by
  have nothing : .raise ∈ ([] : List Action) →
      ∃ reason, after.outcome = some (.aborted reason) := by
    intro impossible
    cases impossible
  cases action with
  | remove =>
      simp only [act] at done
      split at done
      · cases done
        exact ⟨⟨fun _ => id, id, rfl, rfl, rfl⟩, rfl, .inl rfl, .inl rfl, .inl ⟨rfl, rfl⟩,
          nothing⟩
      · cases done
  | complete totalLen =>
      simp only [act] at done
      split at done
      · rename_i open'
        cases done
        refine ⟨⟨?_, id, rfl, rfl, rfl⟩, rfl, .inl rfl, .inl rfl,
          .inr ⟨open', .inl ⟨totalLen, rfl, rfl, rfl⟩⟩, nothing⟩
        intro outcome decided
        rw [open'] at decided
        cases decided
      · cases done
        exact ⟨Onward.refl _, rfl, .inl rfl, .inl rfl, .inl ⟨rfl, rfl⟩, nothing⟩
  | fail reason =>
      simp only [act] at done
      split at done
      · rename_i open'
        cases done
        refine ⟨⟨?_, id, rfl, rfl, rfl⟩, rfl, .inl rfl, .inl rfl,
          .inr ⟨open', .inr ⟨reason, rfl⟩⟩, fun _ => ⟨reason, rfl⟩⟩
        intro outcome decided
        rw [open'] at decided
        cases decided
      · cases done
        exact ⟨Onward.refl _, rfl, .inl rfl, .inl rfl, .inl ⟨rfl, rfl⟩, nothing⟩
  | raise =>
      cases done
      exact ⟨⟨fun _ => id, id, rfl, rfl, rfl⟩, rfl, .inr rfl, .inl rfl, .inl ⟨rfl, rfl⟩,
        nothing⟩
  | sealed =>
      cases done
      refine ⟨⟨fun _ => id, ?_, rfl, rfl, rfl⟩, rfl, .inl rfl, .inl rfl, .inl ⟨rfl, rfl⟩,
        nothing⟩
      intro impossible
      cases impossible
  | dropReader =>
      simp only [act] at done
      split at done
      · cases done
        exact ⟨⟨fun _ => id, id, rfl, rfl, rfl⟩, rfl, .inl rfl, .inr rfl, .inl ⟨rfl, rfl⟩,
          nothing⟩
      · cases done
        exact ⟨Onward.refl _, rfl, .inl rfl, .inl rfl, .inl ⟨rfl, rfl⟩, nothing⟩
  | forget =>
      simp only [act] at done
      split at done
      · cases done
        exact ⟨Onward.refl _, rfl, .inl rfl, .inl rfl, .inl ⟨rfl, rfl⟩, nothing⟩
      · cases done
        exact ⟨⟨fun _ => id, id, rfl, rfl, rfl⟩, rfl, .inl rfl, .inl rfl, .inl ⟨rfl, rfl⟩,
          nothing⟩
  | touch =>
      cases done
      exact ⟨⟨fun _ => id, id, rfl, rfl, rfl⟩, rfl, .inl rfl, .inl rfl, .inl ⟨rfl, rfl⟩,
        nothing⟩
  | unlock =>
      cases done
      exact ⟨⟨fun _ => id, id, rfl, rfl, rfl⟩, rfl, .inl rfl, .inl rfl, .inl ⟨rfl, rfl⟩,
        nothing⟩
  | dropGate =>
      cases done
      exact ⟨⟨fun _ => id, id, rfl, rfl, rfl⟩, rfl, .inl rfl, .inl rfl, .inl ⟨rfl, rfl⟩,
        nothing⟩
  | dropWriter =>
      cases done
      exact ⟨⟨fun _ => id, id, rfl, rfl, rfl⟩, rfl, .inl rfl, .inl rfl, .inl ⟨rfl, rfl⟩,
        nothing⟩

end Shared

structure Booked (shared : Shared) (task : Task) : Prop where
  books : shared.Books task.phase
  verdicts : shared.Verdicts task.phase
  drained : shared.drained = true → task.phase.holdsWriter = false

def Phase.plain : Phase → Bool
  | .running program _ =>
      !program.contains .raise && !program.any Action.isComplete &&
        !program.contains .dropWriter
  | phase => !phase.holdsWriter

theorem Books_of_free {shared : Shared} {phase : Phase} (free : phase.holdsGate = false) :
    shared.Books phase := by
  cases phase with
  | running program answer =>
      intro member
      have held : program.contains .dropGate = true := List.contains_iff_mem.mpr member
      have lacks : program.contains .dropGate = false := free
      rw [held] at lacks
      cases lacks
  | start => trivial
  | found => trivial
  | waiting write => trivial
  | inspecting => trivial
  | tallying => trivial
  | taking => trivial
  | answered answer => trivial
  | _ => cases free

theorem Verdicts_of_silent {shared : Shared} {program : List Action}
    {answer : Except Error Value} (calm : .raise ∉ program)
    (open' : ∀ totalLen, .complete totalLen ∉ program) :
    shared.Verdicts (.running program answer) :=
  ⟨fun member => absurd member calm, fun totalLen member => absurd member (open' totalLen)⟩

theorem Verdicts_of_plain {shared : Shared} {phase : Phase} (plain : phase.plain = true) :
    shared.Verdicts phase ∧ phase.holdsWriter = false := by
  cases phase with
  | running program answer =>
      simp only [Phase.plain, Bool.and_eq_true, Bool.not_eq_true'] at plain
      obtain ⟨⟨calm, open'⟩, lets⟩ := plain
      refine ⟨Verdicts_of_silent ?_ ?_, lets⟩
      · intro member
        rw [List.contains_iff_mem.mpr member] at calm
        cases calm
      · intro totalLen member
        have some : program.any Action.isComplete = true :=
          List.any_eq_true.mpr ⟨_, member, rfl⟩
        rw [some] at open'
        cases open'
  | _ => exact ⟨trivial, by simpa [Phase.plain] using plain⟩

theorem Booked.of_plain {shared : Shared} {handler : Handler} {phase : Phase}
    (free : phase.holdsGate = false) (plain : phase.plain = true) :
    Booked shared ⟨handler, phase⟩ := by
  obtain ⟨verdicts, lets⟩ := @Verdicts_of_plain shared phase plain
  exact ⟨Books_of_free free, verdicts, fun _ => lets⟩

theorem Booked.bystander {before after : Shared} {task : Task} (booked : Booked before task)
    (level : task.phase.holdsGate = true → Shared.Level before after)
    (onward : Shared.Onward before after)
    (received : after.received = before.received ∨
      (before.outcome = none → task.phase.completing = false)) : Booked after task := by
  obtain ⟨books, verdicts, drained⟩ := booked
  refine ⟨?_, ?_, fun emptied => drained (onward.drained.symm.trans emptied)⟩
  · cases holds : task.phase.holdsGate with
    | false => exact Books_of_free holds
    | true => exact (level holds).books books
  · cases phase : task.phase with
    | running program answer =>
        rw [phase] at verdicts received
        refine ⟨?_, ?_⟩
        · intro member
          obtain ⟨reason, aborted⟩ := verdicts.1 member
          exact ⟨reason, onward.outcome _ aborted⟩
        · intro totalLen member undecided
          have undecided' := onward.undecided undecided
          rcases received with same | silent
          · rw [same]
            exact verdicts.2 totalLen member undecided'
          · have some : program.any Action.isComplete = true :=
              List.any_eq_true.mpr ⟨_, member, rfl⟩
            have none : program.any Action.isComplete = false := silent undecided'
            rw [some] at none
            cases none
    | _ => trivial

/-! ### One step of a task -/

structure Same (before after : Shared) : Prop where
  received : after.received = before.received
  aborted : after.aborted = before.aborted
  outcome : after.outcome = before.outcome
  verified : after.verified = before.verified
  writing : after.writing = before.writing
  delivered : after.delivered = before.delivered
  buffered : after.buffered = before.buffered
  drained : after.drained = before.drained
  cleanEnd : after.cleanEnd = before.cleanEnd
  pushed : after.pushed = before.pushed
  dropped : before.reader = .dropped → after.reader = .dropped

namespace Same

variable {before after : Shared}

theorem refl (shared : Shared) : Same shared shared :=
  ⟨rfl, rfl, rfl, rfl, rfl, rfl, rfl, rfl, rfl, rfl, id⟩

theorem level (same : Same before after) : Shared.Level before after := by
  refine ⟨same.received, ?_, same.dropped, ?_⟩
  · intro flag
    rw [same.aborted, flag]
  · intro _
    rw [same.delivered, same.buffered]

theorem onward (same : Same before after) : Shared.Onward before after := by
  refine ⟨?_, ?_, same.delivered, same.drained, same.cleanEnd⟩
  · intro outcome decided
    rw [same.outcome, decided]
  · intro writes
    rw [← same.writing, writes]

theorem settled (same : Same before after) (settled : before.Settled)
    (gate : after.gate = none → before.Balance 0) : after.Settled := by
  obtain ⟨_, raised, drained, complete, ended⟩ := settled
  refine ⟨fun free => same.level.balance (gate free), ?_, ?_, ?_, ?_⟩
  · rw [same.aborted, same.outcome]
    exact raised
  · rw [same.drained, same.writing, same.buffered]
    exact drained
  · rw [same.outcome, same.verified, same.received]
    exact complete
  · rw [same.cleanEnd, same.outcome, same.drained, same.delivered, same.received,
      same.pushed]
    exact ended

theorem settled_held {self : Nat} (same : Same before after) (settled : before.Settled)
    (held : after.gate = some self) : after.Settled := by
  apply same.settled settled
  intro free
  rw [held] at free
  cases free

end Same

theorem enter_same (shared : Shared) (self : Nat) (handler : Handler) :
    Same shared (shared.enter self handler).1 ∧
      (shared.enter self handler).2.plain = true := by
  cases handler with
  | write sender seq data =>
      refine ⟨Same.refl _, ?_⟩
      unfold Shared.enter
      dsimp only
      split <;> rfl
  | close sender totalLen =>
      refine ⟨Same.refl _, ?_⟩
      unfold Shared.enter
      dsimp only
      split <;> rfl
  | abort sender =>
      unfold Shared.enter
      dsimp only
      split
      · exact ⟨⟨rfl, rfl, rfl, rfl, rfl, rfl, rfl, rfl, rfl, rfl, id⟩, rfl⟩
      · exact ⟨Same.refl _, rfl⟩
  | openStream => exact ⟨⟨rfl, rfl, rfl, rfl, rfl, rfl, rfl, rfl, rfl, rfl, id⟩, rfl⟩
  | takeReader =>
      unfold Shared.enter
      dsimp only
      split
      · split
        · exact ⟨Same.refl _, rfl⟩
        · exact ⟨⟨rfl, rfl, rfl, rfl, rfl, rfl, rfl, rfl, rfl, rfl, id⟩, rfl⟩
      · exact ⟨Same.refl _, rfl⟩

theorem accept_plain (shared : Shared) (seq : Nat) (data : String) :
    (shared.accept seq data).plain = true := by
  unfold Shared.accept
  split
  · rfl
  · split
    · simp [Phase.plain, kill, Action.isComplete]
    · rfl

theorem closing_booked (shared : Shared) (handler : Handler) (totalLen : Nat) :
    Booked shared ⟨handler, shared.closing totalLen⟩ := by
  unfold Shared.closing
  split
  · exact .of_plain rfl rfl
  · rename_i matching
    refine ⟨Books_of_free rfl, ⟨?_, ?_⟩, fun _ => rfl⟩
    · intro impossible
      simp at impossible
    · intro other member _
      have same : other = totalLen := by
        simpa using member
      rw [same]
      exact (Decidable.not_not.mp matching).symm

variable {handler : Handler} {shared after : Shared} {self : Nat} {state : Tasks Shared Task}

theorem refuse_booked (balance : shared.Balance 0) (running : shared.drained ≠ true)
    (reason : String) (error : Error) :
    Booked shared ⟨handler, refuse reason error⟩ := by
  exact ⟨fun _ => balance, Verdicts_of_silent (by simp [kill]) (by simp [kill]),
    fun emptied => absurd emptied running⟩

theorem yield_booked (aborted : shared.aborted = true)
    (running : shared.drained ≠ true) : Booked shared ⟨handler, yield⟩ := by
  refine ⟨?_, Verdicts_of_silent (by simp) (by simp), fun emptied => absurd emptied running⟩
  intro _ calm
  rw [aborted] at calm
  cases calm

theorem act_later {action : Action} {more rest : List Action}
    (done : shared.act self action = some (after, more)) {other : Action}
    (different : other ≠ .raise) (member : other ∈ more ++ rest) :
    other ∈ rest := by
  rcases List.mem_append.mp member with new | old
  · rcases (Shared.act_frame done).2.2 with rfl | rfl
    · cases new
    · exact absurd (List.mem_singleton.mp new) different
  · exact old

theorem act_settled {action : Action} {more rest : List Action} {answer : Except Error Value}
    (settled : shared.Settled) (booked : Booked shared ⟨handler, .running (action :: rest) answer⟩)
    (done : shared.act self action = some (after, more)) : after.Settled := by
  obtain ⟨frame, gate, _⟩ := Shared.act_frame done
  obtain ⟨onward, received, flag, buffered, verdict, _⟩ := Shared.act_acted done
  obtain ⟨books, verdicts, _⟩ := booked
  refine ⟨?_, ?_, ?_, ?_, ?_⟩
  · intro free
    apply (Shared.Level.of_frame frame received).balance
    by_cases leaves : action = .dropGate
    · subst leaves
      exact books List.mem_cons_self
    · rw [if_neg leaves] at gate
      exact settled.balance (gate.symm.trans free)
  · intro raised
    have past : ∃ reason, shared.outcome = some (.aborted reason) := by
      rcases flag with same | rfl
      · exact settled.raised (same.symm.trans raised)
      · exact verdicts.1 List.mem_cons_self
    obtain ⟨reason, aborted⟩ := past
    exact ⟨reason, onward.outcome _ aborted⟩
  · intro emptied
    obtain ⟨sealed, empty⟩ := settled.drained (onward.drained.symm.trans emptied)
    constructor
    · cases writes : after.writing with
      | false => rfl
      | true =>
          rw [onward.writing writes] at sealed
          cases sealed
    · rcases buffered with same | nothing
      · exact same.trans empty
      · exact nothing
  · intro complete
    rw [received]
    rcases verdict with ⟨same, same'⟩ | ⟨undecided, ⟨totalLen, rfl, _, told⟩ | ⟨reason, aborted⟩⟩
    · rw [same']
      exact settled.complete (same.symm.trans complete)
    · rw [told, verdicts.2 totalLen List.mem_cons_self undecided]
    · rw [aborted] at complete
      cases complete
  · intro ended
    obtain ⟨complete, emptied, whole, all⟩ := settled.ended (onward.cleanEnd.symm.trans ended)
    refine ⟨onward.outcome _ complete, onward.drained.trans emptied, ?_, ?_⟩
    · rw [onward.delivered, received, whole]
    · rw [onward.delivered, frame.pushed, all]

theorem act_booked {action : Action} {more rest : List Action} {answer : Except Error Value}
    (booked : Booked shared ⟨handler, .running (action :: rest) answer⟩)
    (done : shared.act self action = some (after, more)) :
    Booked after ⟨handler, .running (more ++ rest) answer⟩ := by
  obtain ⟨onward, received, _, _, _, raising⟩ := Shared.act_acted done
  obtain ⟨books, verdicts, lets⟩ := booked
  have level := Shared.Level.of_frame (Shared.act_frame done).1 received
  refine ⟨?_, ⟨?_, ?_⟩, ?_⟩
  · intro member
    exact level.balance (books (List.mem_cons_of_mem _ (act_later done (by decide) member)))
  · intro member
    rcases List.mem_append.mp member with new | old
    · exact raising new
    · obtain ⟨reason, aborted⟩ := verdicts.1 (List.mem_cons_of_mem _ old)
      exact ⟨reason, onward.outcome _ aborted⟩
  · intro totalLen member undecided
    rw [received]
    exact verdicts.2 totalLen (List.mem_cons_of_mem _ (act_later done (by simp) member))
      (onward.undecided undecided)
  · intro emptied
    have kept := lets (onward.drained.symm.trans emptied)
    cases writes : (Phase.running (more ++ rest) answer).holdsWriter with
    | false => rfl
    | true =>
        have member := act_later done (by decide) (List.contains_iff_mem.mp writes)
        have held : (Phase.running (action :: rest) answer).holdsWriter = true :=
          List.contains_iff_mem.mpr (List.mem_cons_of_mem _ member)
        rw [held] at kept
        cases kept

theorem push_settled {write : PendingWrite} (settled : shared.Settled)
    (running : shared.drained ≠ true) (due : shared.Balance write.chunk.length)
    (built : after = { shared with
      buffered := shared.buffered ++ [write.chunk]
      pushed := shared.pushed ++ [(self, write)] }) :
    after.Settled ∧
      Booked after ⟨handler, .running [.dropGate, .touch, .dropWriter] (.ok .null)⟩ := by
  subst built
  have balance : Shared.Balance { shared with
      buffered := shared.buffered ++ [write.chunk]
      pushed := shared.pushed ++ [(self, write)] } 0 := by
    intro calm present
    have before := due calm present
    dsimp only
    simp only [List.flatten_append, List.length_append, List.flatten_cons,
      List.flatten_nil, List.append_nil]
    omega
  refine ⟨⟨?_, settled.raised, ?_, settled.complete, ?_⟩, fun _ => balance,
    Verdicts_of_silent (by simp) (by simp), ?_⟩
  · intro _
    exact balance
  · intro emptied
    exact absurd emptied running
  · intro ended
    exact absurd (settled.ended ended).2.1 running
  · intro emptied
    exact absurd emptied running

theorem step_settled {choice : Bool} {task stepped : Task} (settled : shared.Settled)
    (inTurn : InTurn self shared task) (booked : Booked shared task)
    (allowed : task.phase.stores = true → shared.outcome ≠ some .complete)
    (taken : step self choice shared task = some (after, stepped)) :
    after.Settled ∧ Booked after stepped := by
  obtain ⟨handler, phase⟩ := task
  obtain ⟨later, rfl, moved⟩ := step_stepped taken
  clear taken
  obtain ⟨gate, _, _⟩ := inTurn
  have whole := booked
  obtain ⟨books, verdicts, drained⟩ := booked
  dsimp only at gate allowed books verdicts drained moved
  -- A phase with a copy of the writing half has not seen the end of the channel.
  have running : phase.holdsWriter = true → shared.drained ≠ true := by
    intro writes emptied
    rw [drained emptied] at writes
    cases writes
  cases moved with
  | enters =>
      obtain ⟨same, plain⟩ := enter_same shared self handler
      obtain ⟨free, _⟩ := enter_fits shared shared self handler
      have gate' := (enter_frame shared self handler).2
      exact ⟨same.settled settled (fun open' => settled.balance (gate'.symm.trans open')),
        .of_plain free plain⟩
  | @accepts sender seq data _ =>
      exact ⟨settled, .of_plain (accept_fits shared shared self sender seq data).1
        (accept_plain shared seq data)⟩
  | @closes sender totalLen ends =>
      subst ends
      exact ⟨settled, closing_booked shared _ totalLen⟩
  | locks free =>
      have same : Same shared { shared with gate := some self } :=
        ⟨rfl, rfl, rfl, rfl, rfl, rfl, rfl, rfl, rfl, rfl, id⟩
      have balance := settled.balance free
      exact ⟨same.settled settled (fun _ => balance), same.level.balance balance, trivial,
        fun _ => rfl⟩
  | clones writing =>
      refine ⟨settled, books, trivial, ?_⟩
      intro emptied
      rw [(settled.drained emptied).1] at writing
      cases writing
  | lapses =>
      exact ⟨settled, fun _ => books, Verdicts_of_silent (by simp) (by simp), fun _ => rfl⟩
  | disorders => exact ⟨settled, refuse_booked books (running rfl) _ _⟩
  | follows _ => exact ⟨settled, books, trivial, drained⟩
  | exceeds => exact ⟨settled, refuse_booked books (running rfl) _ _⟩
  | measures => exact ⟨settled, ⟨rfl, books⟩, trivial, drained⟩
  | counts =>
      have same : Same shared { shared with nextSeq := shared.nextSeq + 1 } :=
        ⟨rfl, rfl, rfl, rfl, rfl, rfl, rfl, rfl, rfl, rfl, id⟩
      exact ⟨same.settled_held settled (gate rfl), books, trivial, drained⟩
  | stores =>
      have held := gate rfl
      have incomplete := allowed rfl
      obtain ⟨sum, balance⟩ := books
      refine ⟨⟨?_, settled.raised, settled.drained, ?_, ?_⟩, ?_, trivial, drained⟩
      · intro free
        dsimp only at free
        rw [held] at free
        cases free
      · intro complete
        exact absurd complete incomplete
      · intro ended
        exact absurd (settled.ended ended).1 incomplete
      · intro calm present
        have before := balance calm present
        dsimp only
        omega
  | touches =>
      have same : Same shared { shared with lastActivity := shared.now } :=
        ⟨rfl, rfl, rfl, rfl, rfl, rfl, rfl, rfl, rfl, rfl, id⟩
      exact ⟨same.settled_held settled (gate rfl), same.level.balance books, trivial, drained⟩
  | checks _ => exact ⟨settled, books, trivial, drained⟩
  | polls _ => exact ⟨settled, books, trivial, drained⟩
  | yields looks raised =>
      rcases looks with rfl | rfl
      · exact ⟨settled, yield_booked raised (running rfl)⟩
      · exact ⟨settled, yield_booked raised (running rfl)⟩
  | misses dropped =>
      refine ⟨settled, refuse_booked ?_ (running rfl) _ _⟩
      intro _ present
      exact absurd dropped present
  | pushes _ => exact push_settled settled (running rfl) books rfl
  | stalls => exact ⟨settled, books, trivial, drained⟩
  | reaps => exact ⟨settled, .of_plain rfl (by decide)⟩
  | spares => exact ⟨settled, .of_plain rfl rfl⟩
  | evicts => exact ⟨settled, .of_plain rfl (by decide)⟩
  | keeps => exact ⟨settled, .of_plain rfl rfl⟩
  | claims unclaimed =>
      have same : Same shared { shared with reader := .claimed } := by
        refine ⟨rfl, rfl, rfl, rfl, rfl, rfl, rfl, rfl, rfl, rfl, ?_⟩
        intro dropped
        rw [unclaimed] at dropped
        cases dropped
      exact ⟨same.settled settled settled.balance, .of_plain rfl rfl⟩
  | contends => exact ⟨settled, .of_plain rfl rfl⟩
  | acts done => exact ⟨act_settled settled whole done, act_booked whole done⟩
  | answers => exact ⟨settled, .of_plain rfl rfl⟩

/-! ### Steps beside a task -/

theorem step_onward {choice : Bool} {task stepped : Task}
    (taken : step self choice shared task = some (after, stepped)) :
    Shared.Onward shared after ∧
      (after.received = shared.received ∨ task.phase.stores = true) := by
  obtain ⟨handler, phase⟩ := task
  obtain ⟨later, rfl, moved⟩ := step_stepped taken
  clear taken
  dsimp only at moved
  cases moved with
  | enters =>
      have same := (enter_same shared self handler).1
      exact ⟨same.onward, .inl same.received⟩
  | locks _ => exact ⟨⟨fun _ => id, id, rfl, rfl, rfl⟩, .inl rfl⟩
  | counts => exact ⟨⟨fun _ => id, id, rfl, rfl, rfl⟩, .inl rfl⟩
  | stores => exact ⟨⟨fun _ => id, id, rfl, rfl, rfl⟩, .inr rfl⟩
  | touches => exact ⟨⟨fun _ => id, id, rfl, rfl, rfl⟩, .inl rfl⟩
  | pushes _ => exact ⟨⟨fun _ => id, id, rfl, rfl, rfl⟩, .inl rfl⟩
  | claims _ => exact ⟨⟨fun _ => id, id, rfl, rfl, rfl⟩, .inl rfl⟩
  | acts done =>
      have acted := Shared.act_acted done
      exact ⟨acted.onward, .inl acted.received⟩
  | _ => exact ⟨Shared.Onward.refl _, .inl rfl⟩

/-! ### Runs -/

def Accounted (state : Tasks Shared Task) : Prop :=
  Arranged state ∧ state.shared.Settled

def Accounts (id : Nat) (shared : Shared) (task : Task) : Prop :=
  InTurn id shared task ∧ Booked shared task

theorem sound_arranged (sound : Tasks.Sound Accounted Accounts state) :
    Tasks.Sound Arranged InTurn state :=
  ⟨sound.common.1, fun id task found => (sound.own id task found).1⟩

theorem noWriter_iff :
    noWriter state = true ↔ state.shared.writing = false ∧
      ∀ id task, state.tasks.lookup id = some task → task.phase.holdsWriter = false := by
  unfold noWriter
  rw [Bool.and_eq_true, Bool.not_eq_true', List.all_eq_true]
  constructor
  · rintro ⟨sealed, all⟩
    refine ⟨sealed, ?_⟩
    intro id task found
    have lets := all (id, task) (Table.mem_pairs_iff_lookup.mpr found)
    rw [Bool.not_eq_true'] at lets
    exact lets
  · rintro ⟨sealed, all⟩
    refine ⟨sealed, ?_⟩
    rintro ⟨id, task⟩ member
    rw [Bool.not_eq_true']
    exact all id task (Table.mem_pairs_iff_lookup.mp member)

theorem balance_of_drained (sound : Tasks.Sound Accounted Accounts state)
    (emptied : state.shared.drained = true) :
    state.shared.Balance 0 := by
  cases holder : state.shared.gate with
  | none => exact sound.common.2.balance holder
  | some id =>
      obtain ⟨task, found, holds⟩ := sound.common.1.held id holder
      obtain ⟨books, _, drained⟩ := (sound.own id task found).2
      have lets := drained emptied
      obtain ⟨handler, phase⟩ := task
      dsimp only at holds books lets
      cases phase with
      | gated write => exact books
      | running program answer => exact books (List.contains_iff_mem.mp holds)
      | start => cases holds
      | found => cases holds
      | waiting write => cases holds
      | inspecting => cases holds
      | tallying => cases holds
      | taking => cases holds
      | answered answer => cases holds
      | _ => cases lets

theorem receive_settled (sound : Tasks.Sound Accounted Accounts state)
    (claimed : state.shared.reader = .claimed) :
    (outside .receive state).Settled ∧ ∀ id task, state.tasks.lookup id = some task →
      Booked (outside .receive state) task := by
  have settled := sound.common.2
  have booked := fun id task found => (sound.own id task found).2
  have level := Shared.Level.of_frame (outside_frame .receive state).1
  unfold outside at level ⊢
  dsimp only at level ⊢
  rw [if_pos claimed] at level ⊢
  cases buffered : state.shared.buffered with
  | cons chunk rest =>
      rw [buffered] at level
      have level' := level rfl
      have alive : state.shared.drained ≠ true := by
        intro emptied
        rw [(settled.drained emptied).2] at buffered
        cases buffered
      refine ⟨⟨fun free => level'.balance (settled.balance free), settled.raised,
        fun emptied => absurd emptied alive, settled.complete,
        fun emptied => absurd (settled.ended emptied).2.1 alive⟩, ?_⟩
      intro id task found
      obtain ⟨books, verdicts, _⟩ := booked id task found
      exact ⟨level'.books books, verdicts, fun emptied => absurd emptied alive⟩
  | nil =>
      rw [buffered] at level
      have level' := level rfl
      refine ⟨⟨fun free => level'.balance (settled.balance free), settled.raised, ?_,
        settled.complete, ?_⟩, ?_⟩
      · intro emptied
        rcases Bool.or_eq_true_iff.mp emptied with before | now
        · exact ⟨(settled.drained before).1, rfl⟩
        · exact ⟨(noWriter_iff.mp now).1, rfl⟩
      · intro ended
        obtain ⟨verdict, before, whole, all⟩ := settled.ended ended
        exact ⟨verdict, by simp [before], whole, all⟩
      · intro id task found
        obtain ⟨books, verdicts, lets⟩ := booked id task found
        refine ⟨level'.books books, verdicts, ?_⟩
        intro emptied
        rcases Bool.or_eq_true_iff.mp emptied with before | now
        · exact lets before
        · exact (noWriter_iff.mp now).2 id task found

theorem conclude_settled (sound : Tasks.Sound Accounted Accounts state)
    (claimed : state.shared.reader = .claimed) (emptied : state.shared.drained = true)
    (complete : state.shared.outcome = some .complete) :
    Shared.Settled { state.shared with cleanEnd := true } ∧
      ∀ id task, state.tasks.lookup id = some task →
        Booked { state.shared with cleanEnd := true } task := by
  have settled := sound.common.2
  have empty := (settled.drained emptied).2
  have calm : state.shared.aborted = false := by
    cases flag : state.shared.aborted with
    | false => rfl
    | true =>
        obtain ⟨reason, aborted⟩ := settled.raised flag
        rw [complete] at aborted
        cases aborted
  have present : state.shared.reader ≠ .dropped := by
    rw [claimed]
    decide
  have whole := balance_of_drained sound emptied calm present
  have channel := sound.common.1.ordered.channel present
  rw [empty] at whole channel
  refine ⟨⟨settled.balance, settled.raised, settled.drained, settled.complete, ?_⟩, ?_⟩
  · intro _
    refine ⟨complete, emptied, ?_, ?_⟩
    · simpa using whole
    · simpa using channel.symm
  · intro id task found
    obtain ⟨books, verdicts, lets⟩ := (sound.own id task found).2
    exact ⟨books, verdicts, lets⟩

theorem outside_settled (sound : Tasks.Sound Accounted Accounts state) (event : Outside) :
    (outside event state).Settled ∧
      ∀ id task, state.tasks.lookup id = some task → Booked (outside event state) task := by
  have settled := sound.common.2
  have booked := fun id task found => (sound.own id task found).2
  -- A change that no account sees.
  have unseen : ∀ after, Same state.shared after → after.gate = state.shared.gate →
      after.Settled ∧ ∀ id task, state.tasks.lookup id = some task → Booked after task := by
    intro after same gate
    refine ⟨same.settled settled (fun free => settled.balance (gate.symm.trans free)), ?_⟩
    intro id task found
    exact (booked id task found).bystander (fun _ => same.level) same.onward
      (.inl same.received)
  cases event with
  | receive =>
      by_cases claimed : state.shared.reader = .claimed
      · exact receive_settled sound claimed
      · unfold outside
        dsimp only
        rw [if_neg claimed]
        exact unseen _ (Same.refl _) rfl
  | conclude =>
      unfold outside
      dsimp only
      split
      · rename_i seen
        exact conclude_settled sound seen.1 seen.2.1 seen.2.2
      · exact unseen _ (Same.refl _) rfl
  | dropReader =>
      have level := Shared.Level.of_frame (outside_frame .dropReader state).1
      unfold outside at level ⊢
      dsimp only at level ⊢
      by_cases claimed : state.shared.reader = .claimed
      · rw [if_pos claimed] at level ⊢
        have level' := level rfl
        refine ⟨⟨fun free => level'.balance (settled.balance free), settled.raised,
          fun emptied => ⟨(settled.drained emptied).1, rfl⟩, settled.complete, settled.ended⟩, ?_⟩
        intro id task found
        obtain ⟨books, verdicts, lets⟩ := booked id task found
        exact ⟨level'.books books, verdicts, lets⟩
      · rw [if_neg claimed]
        exact unseen _ (Same.refl _) rfl
  | setLimits limits =>
      exact unseen _ ⟨rfl, rfl, rfl, rfl, rfl, rfl, rfl, rfl, rfl, rfl, id⟩ rfl
  | elapse duration =>
      exact unseen _ ⟨rfl, rfl, rfl, rfl, rfl, rfl, rfl, rfl, rfl, rfl, id⟩ rfl

theorem accounts_keep : Tasks.Keeps kind Accounted Accounts CountsFirst := by
  constructor
  · intro state id handler sound _ vacant
    obtain ⟨arranged, inTurn⟩ :=
      inTurn_keeps.start state id handler (sound_arranged sound) trivial vacant
    exact ⟨⟨arranged, sound.common.2⟩, inTurn, .of_plain rfl rfl⟩
  · intro state id choice task shared stepped sound first found taken
    obtain ⟨arranged, inTurn⟩ := inTurn_keeps.step state id choice task shared stepped
      (sound_arranged sound) trivial found taken
    obtain ⟨turn, booked⟩ := sound.own id task found
    have allowed : task.phase.stores = true → state.shared.outcome ≠ some .complete := by
      intro stores complete
      apply first
      · rw [found]
        exact stores
      · exact .inl complete
    obtain ⟨settled, booked'⟩ := step_settled sound.common.2 turn booked allowed taken
    exact ⟨⟨arranged, settled⟩, inTurn, booked'⟩
  · intro state id choice task shared stepped other bystander sound first found taken
      different found'
    have inTurn := inTurn_keeps.other state id choice task shared stepped other bystander
      (sound_arranged sound) trivial found taken different found'
    obtain ⟨turn, _⟩ := sound.own id task found
    obtain ⟨turn', booked⟩ := sound.own other bystander found'
    obtain ⟨onward, received⟩ := step_onward taken
    refine ⟨inTurn, booked.bystander ?_ onward ?_⟩
    · -- Two tasks do not hold the gate at once.
      intro holds'
      have held' := turn'.gate holds'
      have free : task.phase.holdsGate = false := by
        cases holds : task.phase.holdsGate with
        | false => rfl
        | true =>
            have held := turn.gate holds
            rw [held', Option.some.injEq] at held
            exact absurd held different
      apply Shared.Level.of_frame (step_of_free free taken).1
      rcases received with same | stores
      · exact same
      · obtain ⟨handler, phase⟩ := task
        cases phase with
        | storing write count => cases free
        | _ => cases stores
    · rcases received with same | stores
      · exact .inl same
      · right
        intro undecided
        cases completes : bystander.phase.completing with
        | false => rfl
        | true =>
            exfalso
            apply first
            · rw [found]
              exact stores
            · refine .inr ⟨undecided, List.any_eq_true.mpr ⟨(other, bystander), ?_, completes⟩⟩
              exact Table.mem_pairs_iff_lookup.mpr found'
  · intro state event sound _
    have arranged := inTurn_keeps.outside state event (sound_arranged sound) trivial
    obtain ⟨settled, booked⟩ := outside_settled sound event
    exact ⟨⟨arranged.common, settled⟩,
      fun id task found => ⟨arranged.own id task found, booked id task found⟩⟩

theorem fresh_accounted (begins : Fresh state.shared)
    (empty : state.tasks = ∅) : Accounted state := by
  refine ⟨fresh_arranged begins empty, ?_⟩
  obtain ⟨key, sender, descriptor, limits, now, fresh⟩ := begins
  rw [fresh]
  refine ⟨fun _ _ _ => rfl, ?_, ?_, ?_, ?_⟩
  · intro impossible
    cases impossible
  · intro impossible
    cases impossible
  · intro impossible
    cases impossible
  · intro impossible
    cases impossible

/-- The runs in which no write adds to the count after a close has verified it. -/
def countsFirst : System (Tasks Shared Task) Event :=
  system.restrict CountsFirst

/-- In these runs a clean end is exact. -/
theorem countsFirst_cleanEndExact {state : Tasks Shared Task}
    (reached : countsFirst.Reachable state) : CleanEndExact state := by
  have sound : Tasks.Sound Accounted Accounts state :=
    Tasks.sound_of_keeps accounts_keep (fun _ => fresh_accounted) reached
  have inOrder := inOrder_of_sound (sound_arranged sound)
  refine ⟨?_, ?_, ?_⟩
  · intro ended
    obtain ⟨complete, _, whole, _⟩ := sound.common.2.ended ended
    rw [whole]
    exact sound.common.2.complete complete
  · intro ended
    exact (sound.common.2.ended ended).2.2.2
  · intro ended id task sender seq data value found wrote answered
    obtain ⟨write, member, rfl, decoded⟩ :=
      inOrder.acknowledged id task sender seq data value found wrote answered
    refine ⟨write.chunk, decoded, ?_⟩
    obtain ⟨place, inside, entry⟩ := List.mem_iff_getElem.mp member
    have number : write.seq = place := by
      have ranged := congrArg (fun numbers : List Nat => numbers[place]?) inOrder.numbers
      simpa [inside, entry] using ranged
    rw [← (sound.common.2.ended ended).2.2.2, number]
    simp [inside, entry]

/-! ### A write and a close -/

def readAll : List Event :=
  .start 2 .takeReader :: steps 2 2 ++
    [.outside .receive, .outside .receive, .outside .conclude]

def writeThenClose : List Event :=
  [.start 0 (.write none 0 "TWFu"), .start 1 (.close none 3)] ++ steps 0 16 ++ steps 1 6 ++
    readAll

def writeAcrossClose : List Event :=
  [.start 0 (.write none 0 "TWFu"), .start 1 (.close none 0)] ++ steps 0 7 ++ steps 1 2 ++
    steps 0 9 ++ steps 1 4 ++ readAll

theorem writeThenClose_exact :
    ∃ state, CleanEndExact state ∧ state.shared.cleanEnd = true ∧
      state.shared.delivered = [[77, 97, 110]] := by
  have replayed : (replay (Tasks.next kind) (fun state event =>
      decide (CountsFirst state event)) opened writeThenClose).map
        (fun state => (state.shared.cleanEnd, state.shared.delivered)) =
      some (true, [[77, 97, 110]]) := by
    decide
  obtain ⟨state, reached, seen⟩ := Option.map_eq_some_iff.mp replayed
  rw [Prod.mk.injEq] at seen
  refine ⟨state, countsFirst_cleanEndExact ?_, seen⟩
  refine ⟨opened, writeThenClose, ⟨⟨_, _, _, _, _, rfl⟩, rfl⟩, System.Run.of_replay ?_ reached⟩
  intro before event admitted
  exact ⟨of_decide_eq_true admitted, rfl⟩

theorem writeAcrossClose_inexact :
    ¬ ∀ state : Tasks Shared Task, system.Reachable state → CleanEndExact state := by
  intro exact'
  have replayed : (replay (Tasks.next kind) (fun _ _ => true) opened writeAcrossClose).map
      (fun state => (state.shared.cleanEnd, state.shared.delivered, state.shared.verified)) =
        some (true, [[77, 97, 110]], some 0) := by
    decide
  obtain ⟨state, reached, seen⟩ := Option.map_eq_some_iff.mp replayed
  rw [Prod.mk.injEq, Prod.mk.injEq] at seen
  obtain ⟨ended, delivered, verified⟩ := seen
  have total := (exact' state (reachable_of_replay reached)).total ended
  rw [verified, delivered] at total
  cases total

end StreamTask

end TinyBus
