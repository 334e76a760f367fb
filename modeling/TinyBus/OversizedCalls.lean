/-
A message whose frame is over the cap.  Sent to a module that is ready it is refused, and
the module is as if the message had never been handed in; put in the queue it takes the
module down.
-/

import TinyBus.Library.Mirror
import TinyBus.NativeCalls
import TinyBus.TransportFates

namespace TinyBus

open TransitionSystem

namespace ModuleTransport

/-! ### The number of calls in flight -/

namespace Shared

def counting (shared : Shared) (count : UInt64) : Shared :=
  { shared with inflight := count }

variable {shared : Shared} {count : UInt64}

@[simp] theorem counting_gate : (shared.counting count).gate = shared.gate := rfl

@[simp] theorem counting_result : (shared.counting count).result = shared.result := rfl

@[simp] theorem counting_pending : (shared.counting count).pending = shared.pending := rfl

@[simp] theorem counting_workers : (shared.counting count).workers = shared.workers := rfl

@[simp] theorem counting_module : (shared.counting count).module = shared.module := rfl

@[simp] theorem counting_cleanup : (shared.counting count).cleanup = shared.cleanup := rfl

@[simp] theorem counting_channel : (shared.counting count).channel = shared.channel := rfl

theorem ite_counting {condition : Prop} [Decidable condition]
    {left right left' right' : Shared} (first : left' = left.counting count)
    (second : right' = right.counting count) :
    (if condition then left' else right') =
      (if condition then left else right).counting count := by
  split
  · exact first
  · exact second

variable {toVec : Message → Except String Bytes}

theorem counting_tryAnswer {entry : Entry}
    {error : Error} : (shared.counting count).tryAnswer toVec entry error =
      (shared.tryAnswer toVec entry error).counting count :=
  ite_counting rfl rfl

theorem counting_answerQueued {entry : Entry} :
    (shared.counting count).answerQueued toVec entry =
      (shared.answerQueued toVec entry).counting count := by
  unfold answerQueued
  exact ite_counting counting_tryAnswer rfl

theorem counting_answerFailed {entry : Entry} :
    (shared.counting count).answerFailed toVec entry =
      (shared.answerFailed toVec entry).counting count := by
  have failed : (shared.counting count).initializationFailed = shared.initializationFailed := rfl
  unfold answerFailed
  rw [failed, counting_tryAnswer]
  cases toVec (Message.errorReply entry.message.header shared.initializationFailed) with
  | error _ => rfl
  | ok _ => exact ite_counting rfl rfl

end Shared

def counted (count : UInt64) (done : Shared × Program) : Shared × Program :=
  (done.1.counting count, done.2)

section Counting

variable {toVec : Message → Except String Bytes} {self : Nat} {shared : Shared}
  {count : UInt64} {choice : Choice}

private theorem ite_counted {condition : Prop} [Decidable condition]
    {left right left' right' : Option (Shared × Program)}
    (first : left' = left.map (counted count)) (second : right' = right.map (counted count)) :
    (if condition then left' else right') =
      (if condition then left else right).map (counted count) := by
  split
  · exact first
  · exact second

private theorem paired_counted {after after' : Shared} (same : after' = after.counting count)
    (more : Program) : some (after', more) = (some (after, more)).map (counted count) := by
  rw [same]
  rfl

private theorem some_counted {condition : Prop} [Decidable condition]
    {left right left' right' : Shared × Program}
    (first : left' = counted count left) (second : right' = counted count right) :
    some (if condition then left' else right') =
      (some (if condition then left else right)).map (counted count) := by
  split
  · exact congrArg some first
  · exact congrArg some second

private theorem ite_fst {condition : Prop} [Decidable condition]
    {left right left' right' : Shared × Program}
    (first : left' = counted count left) (second : right' = counted count right) :
    (if condition then left' else right') =
      counted count (if condition then left else right) := by
  split
  · exact first
  · exact second

theorem act_counting (action : Action) :
    ∃ after, act toVec self (shared.counting count) action choice =
      (act toVec self shared action choice).map (counted after) := by
  cases choice with
  | proceed =>
      cases action with
      | arrive message => exact ⟨count, ite_counted rfl rfl⟩
      | gate use =>
          refine ⟨count, ite_counted rfl ?_⟩
          dsimp only [Shared.counting_gate]
          rcases shared.gate with _ | _ | _ <;> rfl
      | schedule use =>
          exact ⟨count, some_counted rfl (ite_fst rfl (ite_fst rfl rfl))⟩
      | await use initiating =>
          refine ⟨count, ?_⟩
          unfold act
          dsimp only
          unfold Shared.awaitResult
          rw [Shared.counting_result]
          rcases shared.result with _ | (_ | _) | _ <;> rfl
      | fail use error =>
          cases use with
          | send message => exact ⟨count, some_counted rfl rfl⟩
          | _ => exact ⟨count, rfl⟩
      | answerFailed message =>
          exact ⟨count, paired_counted Shared.counting_answerFailed _⟩
      | enqueue message bypass =>
          by_cases closed : shared.admissionClosed = true
          · refine ⟨count, ?_⟩
            unfold act
            dsimp only
            unfold Shared.enqueue
            have closed' : (shared.counting count).admissionClosed = true := closed
            rw [if_pos closed, if_pos closed']
            rfl
          · have closed' : ¬ (shared.counting count).admissionClosed = true := closed
            cases call : Shared.isCall message with
            | true =>
                refine ⟨count + 1, ?_⟩
                unfold act
                dsimp only
                unfold Shared.enqueue
                rw [if_neg closed, if_neg closed', call]
                exact some_counted rfl rfl
            | false =>
                refine ⟨count, ?_⟩
                unfold act
                dsimp only
                unfold Shared.enqueue
                rw [if_neg closed, if_neg closed', call]
                exact some_counted rfl rfl
      | enter delivery => exact ⟨count, some_counted rfl rfl⟩
      | permit delivery => exact ⟨count, some_counted rfl rfl⟩
      | expire delivery => exact ⟨count, some_counted rfl rfl⟩
      | undelivered delivery error =>
          cases call : Shared.isCall delivery.message with
          | true =>
              by_cases queued : delivery.queued = true
              · refine ⟨count, ?_⟩
                unfold act
                dsimp only
                unfold Shared.undelivered
                rw [if_pos queued, if_pos queued]
                rfl
              · refine ⟨count - 1, ?_⟩
                unfold act
                dsimp only
                unfold Shared.undelivered
                rw [if_neg queued, if_neg queued, if_pos call, if_pos call]
                rfl
          | false =>
              have other : ¬ Shared.isCall delivery.message = true := by
                rw [call]
                decide
              refine ⟨count, ?_⟩
              unfold act
              dsimp only
              unfold Shared.undelivered
              rw [if_neg other, if_neg other]
              exact some_counted rfl rfl
      | takeDrain => exact ⟨count, ite_counted rfl rfl⟩
      | waitReady => exact ⟨count, ite_counted rfl rfl⟩
      | pop =>
          refine ⟨count, ?_⟩
          unfold act
          dsimp only
          unfold Shared.pop
          rw [Shared.counting_pending]
          cases shared.pending <;> rfl
      | finishDrain =>
          refine ⟨count, ?_⟩
          unfold act
          dsimp only
          unfold Shared.finishDrain
          rw [Shared.counting_pending]
          cases shared.pending <;> rfl
      | faultPending failed error => exact ⟨count, some_counted rfl rfl⟩
      | answer failed =>
          cases failed with
          | nil => exact ⟨count, rfl⟩
          | cons entry rest =>
              exact ⟨count, paired_counted Shared.counting_answerQueued _⟩
      | anchor fault => exact ⟨count, some_counted rfl (ite_fst rfl rfl)⟩
      | abandon => exact ⟨count, some_counted rfl rfl⟩
      | takeJob =>
          refine ⟨count, ?_⟩
          unfold act
          dsimp only
          unfold Shared.takeJob
          rw [Shared.counting_workers]
          cases shared.workers <;> rfl
      | lockInit => exact ⟨count, ite_counted rfl rfl⟩
      | enterInit => exact ⟨count, some_counted rfl rfl⟩
      | publishInit result =>
          cases result <;> exact ⟨count, rfl⟩
      | awaitInit guard => exact ⟨count, ite_counted rfl rfl⟩
      | awaitCallbacks => exact ⟨count, ite_counted rfl rfl⟩
      | lockCleanup => exact ⟨count, ite_counted rfl rfl⟩
      | beginCleanup =>
          exact ⟨count, some_counted rfl (ite_fst rfl (ite_fst rfl rfl))⟩
      | awaitDrained => exact ⟨count, ite_counted rfl (ite_counted rfl rfl)⟩
      | publishCleanup code =>
          have same : (shared.counting count).publishCleanup code = (shared.publishCleanup code).counting count :=
            Shared.ite_counting rfl rfl
          exact ⟨count, paired_counted same _⟩
      | lockReinit config => exact ⟨count, ite_counted rfl rfl⟩
      | replaceConfig config => exact ⟨count, some_counted rfl (ite_fst rfl rfl)⟩
      | relock config => exact ⟨count, ite_counted rfl rfl⟩
      | awaitReady config => exact ⟨count, ite_counted rfl rfl⟩
      | relockReady config => exact ⟨count, ite_counted rfl rfl⟩
      | callReinit config =>
          refine ⟨count, ?_⟩
          unfold act
          dsimp only
          unfold Shared.callReinit
          rw [Shared.counting_module]
          cases shared.module with
          | none => rfl
          | some module => exact some_counted rfl rfl
      | lockStop => exact ⟨count, ite_counted rfl rfl⟩
      | awaitStop ordinary =>
          refine ⟨count, ?_⟩
          unfold act
          dsimp only
          unfold Shared.awaitStop
          rw [Shared.counting_cleanup]
          cases shared.cleanup <;> rfl
      | tryLock => exact ⟨count, ite_counted rfl (ite_counted rfl rfl)⟩
      | publishEager result =>
          cases result <;> exact ⟨count, rfl⟩
      | hostReady =>
          have same : (shared.counting count).hostReady = shared.hostReady.counting count :=
            Shared.ite_counting rfl rfl
          exact ⟨count, paired_counted same _⟩
      | pushInbound message => exact ⟨count, ite_counted rfl rfl⟩
      | recv =>
          cases arrived : shared.channel with
          | nil =>
              refine ⟨count, ?_⟩
              unfold act
              dsimp only
              unfold Shared.recv
              rw [Shared.counting_channel, arrived]
              rfl
          | cons head rest =>
              refine ⟨if head.refunds && count ≠ 0 then count - 1 else count, ?_⟩
              unfold act
              dsimp only
              unfold Shared.recv
              rw [Shared.counting_channel, arrived]
              rfl
      | _ => exact ⟨count, rfl⟩
  | timeout =>
      cases action with
      | await use initiating => exact ⟨count, ite_counted rfl rfl⟩
      | _ => exact ⟨count, rfl⟩
  | cancel =>
      cases action with
      | stalled delivery => exact ⟨count, ite_counted rfl rfl⟩
      | _ => exact ⟨count, rfl⟩
  | spawned started =>
      cases action with
      | submit job => exact ⟨count, some_counted rfl rfl⟩
      | _ => exact ⟨count, rfl⟩
  | returned code =>
      cases action with
      | delivering delivery =>
          exact ⟨count, some_counted rfl (ite_fst rfl (ite_fst rfl (ite_fst rfl rfl)))⟩
      | shutdownReturns =>
          have same : ((shared.counting count).shutdownReturned code).1 =
              (shared.shutdownReturned code).1.counting count :=
            Shared.ite_counting rfl rfl
          exact ⟨count, paired_counted same _⟩
      | _ => exact ⟨count, rfl⟩
  | initialized outcome =>
      cases action with
      | initReturns =>
          cases outcome with
          | ok module => exact ⟨count, some_counted rfl rfl⟩
          | error reason => exact ⟨count, rfl⟩
      | eagerReturns =>
          cases outcome with
          | ok module => exact ⟨count, some_counted rfl rfl⟩
          | error reason => exact ⟨count, rfl⟩
      | _ => exact ⟨count, rfl⟩
  | panicked =>
      cases action with
      | _ => exact ⟨count, rfl⟩

theorem step_counting (task : Program) :
    ∃ after, step toVec self choice (shared.counting count) task =
      (step toVec self choice shared task).map (counted after) := by
  cases task with
  | nil => exact ⟨count, rfl⟩
  | cons action rest =>
      obtain ⟨after, same⟩ := @act_counting toVec self shared count choice action
      refine ⟨after, ?_⟩
      unfold step
      dsimp only
      rw [same, Option.map_map, Option.map_map]
      rfl

end Counting

/-! ### Messages over the cap -/

section Oversize

variable (toVec : Message → Except String Bytes)

def Oversized (message : Message) : Prop :=
  ∃ bytes, toVec message = .ok bytes ∧ MAX_FRAME_LEN < bytes.length

def oversize : Error := .protocol "module frame exceeds the size cap"

/-- A step at which no call over the cap is put in the queue: the module is ready or
closed, or the call is one that need not wait. -/
def Unqueued (state : Tasks Shared Program) : Tasks.Event Call Choice Outside → Prop
  | .advance id _ => ∀ message bypass rest,
      state.tasks.lookup id = some (.enqueue message bypass :: rest) →
        Oversized toVec message → Shared.isCall message = true →
          state.shared.admissionClosed = true ∨ state.shared.isReady = true ∨
            bypass.isSome = true
  | _ => True

/-- A step at which no message over the cap is handed in. -/
def Withheld (state : Tasks Shared Program) : Tasks.Event Call Choice Outside → Prop
  | .advance id _ => ∀ message bypass rest,
      state.tasks.lookup id = some (.enqueue message bypass :: rest) → ¬ Oversized toVec message
  | _ => True

def Refusal (shared : Shared) (error : Error) : Prop :=
  error = oversize ∨ error = .connectionClosed ∧ shared.ended = true

inductive Refused (shared : Shared) (id : Nat) (message : Message) (bypass : Option BusName) :
    Program → Prop
  | framing : Refused shared id message bypass [.frame ⟨id, message, bypass, false⟩]
  | dropping {error : Error} (why : Refusal shared error) :
      Refused shared id message bypass [.undelivered ⟨id, message, bypass, false⟩ error]
  | returned {error : Error} (why : Refusal shared error) :
      Refused shared id message bypass [.returned (.error error)]

inductive Image (id : Nat) (shared : Shared) : Program → Program → Prop
  | same {task : Program} : Image id shared task task
  | refused {message : Message} {bypass : Option BusName} {more rest : Program}
      (oversized : Oversized toVec message) (past : Refused shared id message bypass more) :
      Image id shared (more ++ rest) (.enqueue message bypass :: rest)

def Alike (shared other : Shared) : Prop := ∃ count, other = shared.counting count

variable {toVec} {id : Nat} {shared after : Shared} {choice : Choice}
  {message : Message} {bypass : Option BusName} {more rest task stepped : Program}

theorem Refusal.stays {error : Error} (why : Refusal shared error)
    (ends : shared.ended = true → after.ended = true) : Refusal after error :=
  why.imp_right (fun closed => ⟨closed.1, ends closed.2⟩)

theorem Refused.stays (past : Refused shared id message bypass more)
    (ends : shared.ended = true → after.ended = true) : Refused after id message bypass more := by
  cases past with
  | framing => exact .framing
  | dropping why => exact .dropping (why.stays ends)
  | returned why => exact .returned (why.stays ends)

theorem Image.stays {mirrored : Program} (image : Image toVec id shared task mirrored)
    (ends : shared.ended = true → after.ended = true) : Image toVec id after task mirrored := by
  cases image with
  | same => exact .same
  | refused oversized past => exact .refused oversized (past.stays ends)

theorem ended_step (done : step toVec id choice shared task = some (after, stepped))
    (ended : shared.ended = true) : after.ended = true := by
  obtain ⟨action, rest, more, _, _, acts⟩ := step_acts done
  exact ended_stays acts ended

theorem enqueue_refused {self : Nat}
    (direct : Shared.isCall message = true → shared.admissionClosed = true ∨
      shared.isReady = true ∨ bypass.isSome = true)
    (done : shared.enqueue self message bypass = (after, more)) :
    (∃ count, after = shared.counting count) ∧ Refused after self message bypass more := by
  unfold Shared.enqueue at done
  by_cases closed : shared.admissionClosed = true
  · rw [if_pos closed] at done
    cases done
    refine ⟨⟨_, rfl⟩, .returned (.inr ⟨rfl, ?_⟩)⟩
    exact Bool.or_eq_true_iff.mpr (.inr closed)
  · rw [if_neg closed] at done
    have stays : ¬ (Shared.isCall message && !shared.isReady && bypass.isNone) = true := by
      intro waits
      rw [Bool.and_eq_true, Bool.and_eq_true, Bool.not_eq_true', Option.isNone_iff_eq_none] at waits
      rcases direct waits.1.1 with shut | ready | privileged
      · exact closed shut
      · rw [waits.1.2] at ready
        cases ready
      · rw [waits.2] at privileged
        cases privileged
    dsimp only at done
    rw [if_neg stays] at done
    cases done
    refine ⟨?_, .framing⟩
    split
    · exact ⟨_, rfl⟩
    · exact ⟨_, rfl⟩

theorem frameOf_oversized {delivery : Delivery} (oversized : Oversized toVec delivery.message) :
    Shared.frameOf toVec delivery = [.undelivered delivery oversize] := by
  obtain ⟨bytes, written, concluded⟩ := oversized
  unfold Shared.frameOf
  rw [written]
  exact if_pos concluded

theorem frame_oversized {delivery : Delivery} (going : shared.ended = false)
    (oversized : Oversized toVec delivery.message) :
    step toVec id .proceed shared [.frame delivery] =
      some (shared, [.undelivered delivery oversize]) := by
  have framed : act toVec id shared (.frame delivery) .proceed =
      some (shared, Shared.frameOf toVec delivery) := by
    unfold act
    dsimp only
    rw [going]
    rfl
  unfold step
  dsimp only
  rw [framed, frameOf_oversized oversized]
  rfl

theorem undelivered_counting {error : Error} :
    ∃ count, (shared.undelivered ⟨id, message, bypass, false⟩ error).1 = shared.counting count := by
  change ∃ count, (if Shared.isCall message = true then _ else shared) = shared.counting count
  split
  · exact ⟨_, rfl⟩
  · exact ⟨_, rfl⟩

theorem refused_step (oversized : Oversized toVec message)
    (past : Refused shared id message bypass more)
    (done : step toVec id choice shared (more ++ rest) = some (after, stepped)) :
    (∃ count, after = shared.counting count) ∧
      ∃ later, stepped = later ++ rest ∧ Refused after id message bypass later := by
  cases past with
  | framing =>
      cases choice with
      | proceed =>
          by_cases ended : shared.ended = true
          · have closed := Option.some.inj done
            rw [if_pos ended] at closed
            cases closed
            exact ⟨⟨_, rfl⟩, _, rfl, .dropping (.inr ⟨rfl, ended⟩)⟩
          · have framed : Shared.frameOf toVec ⟨id, message, bypass, false⟩ =
                [.undelivered ⟨id, message, bypass, false⟩ oversize] := frameOf_oversized oversized
            have dropped := Option.some.inj done
            rw [if_neg ended, framed] at dropped
            cases dropped
            exact ⟨⟨_, rfl⟩, _, rfl, .dropping (.inl rfl)⟩
      | _ => cases done
  | @dropping error why =>
      cases choice with
      | proceed =>
          have left : ∃ count, (shared.undelivered ⟨id, message, bypass, false⟩ error).1 =
              shared.counting count := undelivered_counting
          cases done
          obtain ⟨count, same⟩ := left
          refine ⟨⟨count, same⟩, _, rfl, .returned (why.stays ?_)⟩
          intro ended
          rw [same]
          exact ended
      | _ => cases done
  | returned why =>
      cases choice <;> cases done

theorem mirrors : Tasks.Mirrors (kind toVec) Alike (Image toVec) (Unqueued toVec)
    (Withheld toVec) where
  start := fun _ _ _ => trivial
  started := fun _ _ _ => .same
  step := by
    intro state other id choice task mirrored shared stepped beside admitted present found taken
    obtain ⟨count, alike⟩ := beside.shared
    have image : Image toVec id state.shared task mirrored := by
      have related := beside.tasks id
      rw [present, found] at related
      cases related with
      | some own => exact own
    cases image with
    | same =>
        by_cases handed : ∃ message bypass rest, task = .enqueue message bypass :: rest ∧
            Oversized toVec message
        · obtain ⟨message, bypass, rest, rfl, oversized⟩ := handed
          left
          cases choice with
          | proceed =>
              have direct := admitted message bypass rest present oversized
              have entered : some ((state.shared.enqueue id message bypass).1,
                (state.shared.enqueue id message bypass).2 ++ rest) = some (shared, stepped) := taken
              generalize done : state.shared.enqueue id message bypass = after at entered
              cases entered
              obtain ⟨⟨other, same⟩, past⟩ := enqueue_refused direct done
              refine ⟨⟨count, ?_⟩, .refused oversized past⟩
              rw [alike, same]
              rfl
          | _ => cases taken
        · right
          obtain ⟨after, same⟩ := @step_counting toVec id state.shared count choice task
          have taken : step toVec id choice state.shared task = some (shared, stepped) := taken
          rw [taken, ← alike] at same
          refine ⟨_, _, ?_, same, ⟨after, rfl⟩, .same⟩
          intro message bypass rest waiting oversized
          rw [found] at waiting
          exact handed ⟨message, bypass, rest, Option.some.inj waiting, oversized⟩
    | refused oversized past =>
        left
        obtain ⟨⟨other, same⟩, later, rfl, dropping⟩ := refused_step oversized past taken
        refine ⟨⟨count, ?_⟩, .refused oversized dropping⟩
        rw [alike, same]
        rfl
  bystander := by
    intro state id choice task shared stepped other bystander mirrored taken image
    exact image.stays (ended_step taken)
  outside := by
    intro state other event beside
    obtain ⟨count, alike⟩ := beside.shared
    refine ⟨trivial, ⟨count, ?_⟩, ?_⟩
    · change outside event other.shared = (outside event state.shared).counting count
      rw [alike]
      cases event <;> rfl
    · intro id
      have related := beside.tasks id
      dsimp only
      generalize state.tasks.lookup id = left at related ⊢
      generalize other.tasks.lookup id = right at related ⊢
      cases related with
      | none => exact .none
      | some image =>
          refine .some (image.stays ?_)
          intro ended
          cases event <;> exact ended

/-- `writer_task`: whether a peer's writer goes on to its next message. -/
def writerGoesOn : Except Error Unit → Bool
  | .ok () => true
  | .error (.protocol _) => true
  | .error _ => false

/-- A transport beside one that no message over the cap was handed to: the two agree but
for the number of calls in flight, every task is where it would be, but for the sends of
such messages, and their writers go on. -/
structure Unharmed (toVec : Message → Except String Bytes) (state other : Tasks Shared Program) :
    Prop where
  shared : ∃ count, state.shared = other.shared.counting count
  tasks : ∀ id, state.tasks.lookup id = other.tasks.lookup id ∨
    ∃ message bypass more rest, Oversized toVec message ∧
      other.tasks.lookup id = some (.enqueue message bypass :: rest) ∧
      state.tasks.lookup id = some (more ++ rest) ∧ Refused state.shared id message bypass more
  writers : ∀ error, Refusal state.shared error →
    writerGoesOn (.error error) = true ∨ state.shared.ended = true

theorem unharmed_of_beside {state other : Tasks Shared Program}
    (beside : Tasks.Beside Alike (Image toVec) state other) : Unharmed toVec state other := by
  refine ⟨?_, ?_, ?_⟩
  · obtain ⟨count, same⟩ := beside.shared
    refine ⟨state.shared.inflight, ?_⟩
    rw [same]
    rfl
  · intro id
    have related := beside.tasks id
    generalize state.tasks.lookup id = left at related ⊢
    generalize other.tasks.lookup id = right at related ⊢
    cases related with
    | none => exact .inl rfl
    | some image =>
        cases image with
        | same => exact .inl rfl
        | refused oversized past => exact .inr ⟨_, _, _, _, oversized, rfl, rfl, past⟩
  · rintro error (rfl | ⟨_, ended⟩)
    · exact .inl rfl
    · exact .inr ended

/-- Where no call over the cap is put in the queue, messages over the cap make no
difference: some of the steps make a run in which none was handed in, and it ends at the
same. -/
theorem oversized_alone {first state : Tasks Shared Program}
    {events : List (Tasks.Event Call Choice Outside)} (starts : (system toVec).initial first)
    (run : ((system toVec).restrict (Unqueued toVec)).Run first events state) :
    ∃ kept other, kept.Sublist events ∧
      ((system toVec).restrict (Withheld toVec)).Run first kept other ∧
      Unharmed toVec state other := by
  obtain ⟨kept, other, within, mirror, beside⟩ := Tasks.mirrored mirrors (fun shared =>
    ⟨shared.inflight, rfl⟩) starts run
  exact ⟨kept, other, within, mirror, unharmed_of_beside beside⟩

end Oversize

/-! ### A call over the cap -/

/-- A call that is told from others by its serial. -/
def longCall : Message :=
  { ModuleBus.voiceCall with header := { ModuleBus.voiceCall.header with serial := 1 } }

/-- Its frame is one byte too long, and every other is empty. -/
def sizing (message : Message) : Except String Bytes :=
  .ok (if message.header.serial = 1 then List.replicate (MAX_FRAME_LEN + 1) 0 else [])

theorem longCall_oversized : Oversized sizing longCall :=
  ⟨_, rfl, Nat.lt_of_lt_of_eq (Nat.lt_succ_self _) List.length_replicate.symm⟩

def direct (state : Tasks Shared Program) : Tasks.Event Call Choice Outside → Bool
  | .advance id _ =>
      match state.tasks.lookup id with
      | some (.enqueue _ bypass :: _) =>
          state.shared.admissionClosed || state.shared.isReady || bypass.isSome
      | _ => true
  | _ => true

theorem unqueued_of_direct {toVec : Message → Except String Bytes}
    (state : Tasks Shared Program) (event : Tasks.Event Call Choice Outside)
    (passes : direct state event = true) : Unqueued toVec state event := by
  cases event with
  | advance id choice =>
      intro message bypass rest waiting _ _
      unfold direct at passes
      dsimp only at passes
      rw [waiting, Bool.or_eq_true, Bool.or_eq_true] at passes
      exact or_assoc.mp passes
  | start id call => trivial
  | outside event => trivial

/-- The module is ready before the call is handed in, and another one is handed in after. -/
def refusedDirectly : List (Tasks.Event Call Choice Outside) :=
  initializing longCall ++ readying ++ turns 0 [.proceed, .proceed, .proceed, .proceed] ++
    .start 3 (.send ModuleBus.voiceCall) ::
      turns 3 (List.replicate 10 .proceed ++ [.returned TB_OK])

theorem refusedDirectly_alone : (replay sizing refusedDirectly).shared.delivered = [3] ∧
    ∃ kept other, kept.Sublist refusedDirectly ∧
      ((system sizing).restrict (Withheld sizing)).Run ⟨lazyTransport, ∅⟩ kept other ∧
      Unharmed sizing (replay sizing refusedDirectly) other :=
  ⟨by decide +kernel, oversized_alone ⟨lazyTransport_fresh, rfl⟩
    (.of_checked unqueued_of_direct (by decide +kernel))⟩

def queuedBoth : List (Tasks.Event Call Choice Outside) :=
  initializing longCall ++ turns 0 [.proceed, .proceed, .proceed] ++
    .start 3 (.send ModuleBus.voiceCall) ::
      turns 3 [.proceed, .proceed, .proceed, .proceed, .proceed, .proceed] ++ readying ++
        .start 4 .drainPending :: turns 4 [.proceed, .proceed, .proceed, .proceed]

def longDelivery : Delivery := ⟨0, longCall, none, true⟩

theorem queuedBoth_framing :
    (replay sizing queuedBoth).tasks.lookup 4 = some [.frame longDelivery] ∧
      (replay sizing queuedBoth).shared.ended = false :=
  ⟨rfl, by decide +kernel⟩

/-- The drainer finds the frame too long. -/
def framed : Tasks Shared Program :=
  { shared := (replay sizing queuedBoth).shared
    tasks := (replay sizing queuedBoth).tasks.insert 4 [.undelivered longDelivery oversize] }

theorem framed_next :
    Tasks.next (kind sizing) (replay sizing queuedBoth) (.advance 4 .proceed) = framed := by
  have going : (replay sizing queuedBoth).shared.ended = false := queuedBoth_framing.2
  have taken := @frame_oversized sizing 4 _ longDelivery going longCall_oversized
  exact Tasks.next_advance (kind sizing) queuedBoth_framing.1 taken

/-- What the drainer does about it. -/
def fallout : List (Tasks.Event Call Choice Outside) :=
  turns 4 [.proceed, .proceed, .proceed, .proceed, .proceed, .proceed, .proceed, .proceed,
    .proceed]

/-- The other call, where the long one was never sent. -/
def deliveredAlone : List (Tasks.Event Call Choice Outside) :=
  initializing ModuleBus.voiceCall ++ turns 0 [.proceed, .proceed, .proceed] ++ readying ++
    .start 4 .drainPending ::
      turns 4 [.proceed, .proceed, .proceed, .proceed, .proceed, .proceed, .proceed, .proceed,
        .returned TB_OK]

/-- A long call that waits takes the module down, and the call behind it with it. -/
theorem longCall_faults : Oversized sizing longCall ∧
    (∃ events, (system sizing).Run ⟨lazyTransport, ∅⟩ events
        (fallout.foldl (Tasks.next (kind sizing)) framed)) ∧
      (fallout.foldl (Tasks.next (kind sizing)) framed).shared.faulted = true ∧
      (fallout.foldl (Tasks.next (kind sizing)) framed).shared.admissionClosed = true ∧
      (fallout.foldl (Tasks.next (kind sizing)) framed).shared.delivered = [] ∧
      (fallout.foldl (Tasks.next (kind sizing)) framed).shared.pending.length = 0 ∧
      (replay sizing deliveredAlone).shared.delivered = [0] ∧
      (replay sizing deliveredAlone).shared.ended = false := by
  refine ⟨longCall_oversized, ⟨queuedBoth ++ [.advance 4 .proceed] ++ fallout, ?_⟩,
    by decide +kernel, by decide +kernel, by decide +kernel, by decide +kernel,
    by decide +kernel, by decide +kernel⟩
  have early : (system sizing).Run ⟨lazyTransport, ∅⟩ queuedBoth (replay sizing queuedBoth) :=
    .of_foldl queuedBoth
  have late : (system sizing).Run framed fallout
      (fallout.foldl (Tasks.next (kind sizing)) framed) := .of_foldl fallout
  exact (early.append (.single framed_next.symm)).append late

end ModuleTransport

end TinyBus
