import TinyBus.Library.Reliance
import TinyBus.TerminalFlags
import TinyBus.TransportFates

/-
A transport with which nothing goes wrong.  What the actions of its operations rely
on is listed, each reliance is a fact that nobody takes back, and an action that
records a fault relies on what never holds.
-/

namespace TinyBus

open TransitionSystem

namespace ModuleTransport

/-! ### Runs in which nothing fails -/

def Choice.fails : Choice → Bool
  | .returned code => code ≠ TB_OK && code ≠ TB_BACKPRESSURE
  | .initialized (.ok module) => module.incomplete
  | .initialized (.error _) => true
  | .panicked => true
  | _ => false

def Fits (toVec : Message → Except String Bytes) (message : Message) : Prop :=
  ∃ bytes, toVec message = .ok bytes ∧ bytes.length ≤ MAX_FRAME_LEN

/-- An action at which no callback fails, no deadline expires and no worker fails to start. -/
structure Unfailing (state : Tasks Shared Program) (action : Action) (choice : Choice) :
    Prop where
  callbacks : choice.fails = false
  deadlines : choice ≠ .timeout
  workers : choice ≠ .spawned false
  -- The load that runs its initializer has the transport to itself.
  loads : action = .tryLock → state.shared.locked = false
  -- An initializer is held back before anybody can be about to schedule it.
  holds : action = .pauseInitialization → ∀ id task, state.tasks.lookup id = some task →
    ∀ use, .schedule use ∉ task

/-- An action at which, beyond that, whoever started the initialization waits for it, and
a call from the queue has a frame that can be sent. -/
structure Patient (toVec : Message → Except String Bytes) (state : Tasks Shared Program)
    (action : Action) (choice : Choice) : Prop extends Unfailing state action choice where
  patience : ∀ use, action = .await use true → choice ≠ .cancel
  frames : ∀ delivery, action = .frame delivery → delivery.queued = true →
    Fits toVec delivery.message

/-- The operations of a host that rejects no admission, of a module that reports no fault. -/
def Call.ordinary : Call → Bool
  | .requestTerminal fault => !fault
  | .commitTerminal fault => !fault
  | .commitAdmissionTermination _ => false
  | .releaseInitialization allowed => allowed
  | .hostFault => false
  | _ => true

def Shared.Handed (shared : Shared) : Prop := shared.init = .deferred → shared.initializer = true

def Call.initializes : Call → Bool
  | .send _ => true
  | .ensureInitialized => true
  | _ => false

def Ordinary (goes : Tasks Shared Program → Action → Choice → Prop)
    (state : Tasks Shared Program) : Tasks.Event Call Choice Outside → Prop
  | .start _ call =>
      call.ordinary = true ∧ (call.initializes = true → state.shared.Handed)
  | .advance id choice => ∀ action rest, state.tasks.lookup id = some (action :: rest) →
      goes state action choice
  | .outside _ => True

def Faultless : Tasks Shared Program → Tasks.Event Call Choice Outside → Prop :=
  Ordinary Unfailing

def Healthy (toVec : Message → Except String Bytes) :
    Tasks Shared Program → Tasks.Event Call Choice Outside → Prop :=
  Ordinary (Patient toVec)

/-! ### What the actions rely on -/

inductive Fact where
  | closed
  | loaded
  | handed
  | entered
  | gated
  | never
  deriving DecidableEq

def Shared.Has (shared : Shared) : Fact → Prop
  | .closed => shared.admissionClosed = true
  | .loaded => shared.module.isSome = true
  | .handed => shared.Handed
  | .entered => shared.init ≠ .deferred
  | .gated => shared.gate = some true
  | .never => False

def refusal (error : Error) : List Fact :=
  if error = .connectionClosed then [.closed] else [.never]

def Delivery.relies (delivery : Delivery) : List Fact :=
  if delivery.queued then
    if delivery.requiredController.isNone then [.loaded] else [.never]
  else []

def Action.relies : Action → List Fact
  | .arrive _ => [.handed]
  | .gate _ => [.handed]
  | .schedule _ => [.handed, .gated]
  | .fail (.send _) error => refusal error
  | .answerFailed _ => [.never]
  | .authorize _ => [.loaded]
  | .enqueue _ _ => [.loaded]
  | .frame delivery => delivery.relies
  | .check delivery => delivery.relies
  | .enter delivery => delivery.relies
  | .permit delivery => delivery.relies
  | .delivering delivery => delivery.relies
  | .backpressure delivery => delivery.relies
  | .stalled delivery => delivery.relies
  | .expire _ => [.never]
  | .undelivered delivery error => if delivery.queued then refusal error else []
  | .faultPending _ error => refusal error
  | .clone _ => [.never]
  | .answer _ => [.never]
  | .publish fault => if fault then [.never] else []
  | .anchor _ => [.closed]
  | .unsure => [.never]
  | .abandon => [.never]
  | .terminate _ _ => [.never]
  | .forget => [.entered]
  | .publishInit (.ok ()) => [.loaded]
  | .publishInit (.error _) => [.never]
  | .handOff => [.closed]
  | .eagerUnavailable => [.never]
  | .publishEager (.ok ()) => [.loaded]
  | .publishEager (.error _) => [.never]
  | .releaseInitialization allowed => if allowed then [] else [.never]
  | _ => []

def Action.brings : Action → List Fact
  | .close => [.closed]
  | _ => []

def reliance : Reliance Action Fact where
  relies := Action.relies
  brings := Action.brings

structure Calm (shared : Shared) : Prop where
  faulted : shared.faulted = false
  fault : shared.native.fault = false
  callbacks : shared.callbacks.closed = true → shared.admissionClosed = true
  succeeded : shared.result = some (.ok ()) → shared.module.isSome = true
  canceled : ∀ failure, shared.result = some (.error failure) →
    failure = .closed ∧ shared.admissionClosed = true
  pending : shared.pending ≠ [] → shared.module.isSome = true
  gate : shared.gate ≠ some false
  requested : shared.cleanup = .requested → shared.admissionClosed = true

def Shared.health (shared : Shared) :=
  ((shared.faulted, shared.native.fault, shared.callbacks.closed, shared.admissionClosed),
    (shared.result, shared.module.isSome, shared.pending, shared.gate, shared.cleanup))

theorem Calm.kept {shared after : Shared} (calm : Calm shared)
    (same : after.health = shared.health) : Calm after := by
  unfold Shared.health at same
  simp only [Prod.mk.injEq] at same
  obtain ⟨⟨faulted, fault, callbacks, admission⟩, result, module, pending, gate, cleanup⟩ := same
  constructor
  · exact faulted.trans calm.faulted
  · exact fault.trans calm.fault
  · rw [callbacks, admission]
    exact calm.callbacks
  · rw [result, module]
    exact calm.succeeded
  · rw [result, admission]
    exact calm.canceled
  · rw [pending, module]
    exact calm.pending
  · rw [gate]
    exact calm.gate
  · rw [cleanup, admission]
    exact calm.requested

def Calms (after : Shared) (more : Program) : Prop :=
  Calm after ∧ reliance.Covers after.Has more

section

variable {toVec : Message → Except String Bytes} {self : Nat}
  {state : Tasks Shared Program} {after : Shared} {choice : Choice} {more : Program}

variable {shared : Shared} {action : Action} {delivery : Delivery} {use : InitUse}

theorem Calm.ended (calm : Calm shared) (ended : shared.ended = true) :
    shared.admissionClosed = true := by
  unfold Shared.ended at ended
  rw [calm.faulted, Bool.false_or] at ended
  exact ended

theorem covers_of_silent {holds : Fact → Prop} {program : Program}
    (silent : program.all (fun action => action.relies.isEmpty) = true) :
    reliance.Covers holds program := by
  induction program generalizing holds with
  | nil => trivial
  | cons action rest ih =>
      rw [List.all_cons, Bool.and_eq_true, List.isEmpty_iff] at silent
      refine ⟨?_, ih silent.2⟩
      intro fact relied
      change fact ∈ action.relies at relied
      rw [silent.1] at relied
      cases relied

theorem covers_single {holds : Fact → Prop}
    (relied : ∀ fact ∈ action.relies, holds fact) : reliance.Covers holds [action] :=
  ⟨relied, trivial⟩

private theorem refusal_has (closed : shared.admissionClosed = true) :
    ∀ fact ∈ refusal .connectionClosed, shared.Has fact := by
  intro fact relied
  obtain rfl : fact = .closed := List.mem_singleton.mp relied
  exact closed

private theorem refused {error : Error} (relied : ∀ fact ∈ refusal error, shared.Has fact) :
    error = .connectionClosed ∧ shared.admissionClosed = true := by
  unfold refusal at relied
  split at relied
  · rename_i same
    exact ⟨same, relied .closed List.mem_cons_self⟩
  · exact (relied .never List.mem_cons_self).elim

private theorem undelivered_has (closed : shared.admissionClosed = true) :
    reliance.Covers shared.Has [.undelivered delivery .connectionClosed] := by
  apply covers_single
  intro fact relied
  unfold Action.relies at relied
  dsimp only at relied
  split at relied
  · exact refusal_has closed fact relied
  · cases relied

private theorem fail_has (closed : shared.admissionClosed = true) :
    reliance.Covers shared.Has [.fail use .connectionClosed] := by
  apply covers_single
  cases use with
  | send message => exact refusal_has closed
  | host => exact nofun
  | reinit config => exact nofun

private theorem queued_has (relied : ∀ fact ∈ delivery.relies, shared.Has fact)
    (queued : delivery.queued = true) :
    shared.module.isSome = true ∧ delivery.requiredController = none := by
  unfold Delivery.relies at relied
  rw [if_pos queued] at relied
  split at relied
  · rename_i direct
    exact ⟨relied .loaded List.mem_cons_self, Option.isNone_iff_eq_none.mp direct⟩
  · exact (relied .never List.mem_cons_self).elim

/-! ### Single actions -/

private theorem gate_calms (calm : Calm state.shared)
    (relied : ∀ fact ∈ Action.relies (.gate use), state.shared.Has fact)
    (done : act toVec self state.shared (.gate use) choice = some (after, more)) :
    Calms after more := by
  cases choice with
  | proceed =>
      change state.shared.passGate use = _ at done
      unfold Shared.passGate at done
      split at done
      · rename_i ended
        cases done
        exact ⟨calm, fail_has (calm.ended ended)⟩
      · split at done
        · rename_i allowed
          cases done
          refine ⟨calm, covers_single ?_⟩
          have handed := relied .handed List.mem_cons_self
          intro fact among
          rcases List.mem_cons.mp among with rfl | among
          · exact handed
          · obtain rfl := List.mem_singleton.mp among
            exact allowed
        · rename_i refused
          exact absurd refused calm.gate
        · cases done
  | cancel =>
      cases done
      exact ⟨calm, covers_of_silent rfl⟩
  | _ => cases done

private theorem schedule_calms (calm : Calm state.shared)
    (relied : ∀ fact ∈ Action.relies (.schedule use), state.shared.Has fact)
    (done : act toVec self state.shared (.schedule use) choice = some (after, more)) :
    Calms after more := by
  have handed : state.shared.Handed := relied .handed List.mem_cons_self
  have gated : state.shared.gate = some true := relied .gated (List.mem_cons_of_mem _ List.mem_cons_self)
  cases choice with
  | proceed =>
      have done := Option.some.inj done
      unfold Shared.scheduleInitializer at done
      split at done
      · rename_i refuses
        cases done
        have ended : state.shared.ended = true := by simpa [gated] using refuses
        exact ⟨calm, fail_has (calm.ended ended)⟩
      · split at done
        · cases done
          exact ⟨calm, covers_of_silent rfl⟩
        · rename_i pending
          rw [Bool.or_eq_true, not_or, decide_eq_true_iff, not_not] at pending
          rw [if_pos (handed pending.2)] at done
          cases done
          refine ⟨calm.kept rfl, covers_of_silent rfl⟩
  | _ => cases done

private theorem await_calms {initiating : Bool} (calm : Calm state.shared)
    (unfailing : Patient toVec state (.await use initiating) choice)
    (done : act toVec self state.shared (.await use initiating) choice = some (after, more)) :
    Calms after more := by
  cases choice with
  | proceed =>
      change state.shared.awaitResult use = _ at done
      unfold Shared.awaitResult at done
      split at done
      · cases done
      · rename_i succeeded
        cases done
        refine ⟨calm, ?_⟩
        split
        · rename_i ended
          exact fail_has (calm.ended ended)
        · cases use with
          | send message =>
              apply covers_single
              intro fact among
              obtain rfl := List.mem_singleton.mp among
              exact calm.succeeded succeeded
          | host => exact covers_of_silent rfl
          | reinit config => exact covers_of_silent rfl
      · rename_i canceled
        cases done
        exact ⟨calm, fail_has (calm.canceled _ canceled).2⟩
      · rename_i failed
        exact absurd (calm.canceled _ failed).1 nofun
  | timeout => exact absurd rfl unfailing.deadlines
  | cancel =>
      cases done
      refine ⟨calm, ?_⟩
      cases initiating with
      | false => exact covers_of_silent rfl
      | true => exact absurd rfl (unfailing.patience use rfl)
  | _ => cases done

private theorem fail_calms {error : Error} (calm : Calm state.shared)
    (relied : ∀ fact ∈ Action.relies (.fail use error), state.shared.Has fact)
    (done : act toVec self state.shared (.fail use error) choice = some (after, more)) :
    Calms after more := by
  cases choice with
  | proceed =>
      have done := Option.some.inj done
      cases use with
      | send message =>
          obtain ⟨rfl, closed⟩ := refused relied
          unfold Shared.failInitialization at done
          dsimp only at done
          rw [closed, decide_eq_true rfl, Bool.and_self, if_pos rfl] at done
          cases done
          exact ⟨calm, covers_of_silent rfl⟩
      | host =>
          cases done
          exact ⟨calm, covers_of_silent rfl⟩
      | reinit config =>
          cases done
          exact ⟨calm, covers_of_silent rfl⟩
  | _ => cases done

private theorem enter_calms (calm : Calm state.shared)
    (relied : ∀ fact ∈ Action.relies (.enter delivery), state.shared.Has fact)
    (done : act toVec self state.shared (.enter delivery) choice = some (after, more)) :
    Calms after more := by
  cases choice with
  | proceed =>
      have done := Option.some.inj done
      unfold Shared.enterCallback at done
      split at done
      · rename_i refuses
        cases done
        refine ⟨calm, ?_⟩
        cases queued : delivery.queued with
        | false =>
            apply covers_single
            intro fact among
            unfold Action.relies at among
            dsimp only at among
            rw [queued] at among
            cases among
        | true =>
            have there := (queued_has relied queued).1
            rw [Option.isNone_eq_false_iff.mpr there, Bool.false_or] at refuses
            exact undelivered_has (calm.callbacks refuses)
      · cases done
        exact ⟨calm.kept rfl, covers_single relied⟩
  | _ => cases done

private theorem permit_calms (calm : Calm state.shared)
    (relied : ∀ fact ∈ Action.relies (.permit delivery), state.shared.Has fact)
    (done : act toVec self state.shared (.permit delivery) choice = some (after, more)) :
    Calms after more := by
  cases choice with
  | proceed =>
      have done := Option.some.inj done
      unfold Shared.permit at done
      split at done
      · rename_i refuses
        cases done
        refine ⟨calm.kept rfl, ?_⟩
        cases queued : delivery.queued with
        | false =>
            apply covers_single
            intro fact among
            unfold Action.relies at among
            dsimp only at among
            rw [queued] at among
            cases among
        | true =>
            rw [(queued_has relied queued).2] at refuses
            cases refuses
      · cases done
        exact ⟨calm.kept rfl, covers_single relied⟩
  | _ => cases done

private theorem delivering_calms (calm : Calm state.shared)
    (unfailing : Patient toVec state (.delivering delivery) choice)
    (relied : ∀ fact ∈ Action.relies (.delivering delivery), state.shared.Has fact)
    (done : act toVec self state.shared (.delivering delivery) choice = some (after, more)) :
    Calms after more := by
  have left : Calm state.shared.leaveCallback :=
    calm.kept rfl
  cases choice with
  | returned code =>
      have done := Option.some.inj done
      unfold Shared.deliveryReturned at done
      dsimp only at done
      split at done
      · cases done
        refine ⟨calm.kept rfl, ?_⟩
        unfold Shared.afterDelivery
        split
        · exact covers_of_silent rfl
        · exact covers_of_silent rfl
      · rename_i failed
        split at done
        · cases done
          exact ⟨left, covers_single relied⟩
        · rename_i refused
          have fails := unfailing.callbacks
          rw [Choice.fails, decide_eq_true failed, decide_eq_true refused] at fails
          cases fails
  | _ => cases done

private theorem faultPending_calms {failed : Entry} {error : Error} (calm : Calm state.shared)
    (relied : ∀ fact ∈ Action.relies (.faultPending failed error), state.shared.Has fact)
    (done : act toVec self state.shared (.faultPending failed error) choice =
      some (after, more)) : Calms after more := by
  obtain ⟨rfl, closed⟩ := refused relied
  cases choice with
  | proceed =>
      have done := Option.some.inj done
      unfold Shared.faultPending at done
      rw [if_pos (by rw [closed]; rfl)] at done
      cases done
      exact ⟨⟨calm.faulted, calm.fault, calm.callbacks, calm.succeeded, calm.canceled,
        fun filled => absurd rfl filled, calm.gate, calm.requested⟩, covers_of_silent rfl⟩
  | _ => cases done

private theorem submit_calms {job : Job} (calm : Calm state.shared)
    (unfailing : Patient toVec state (.submit job) choice)
    (done : act toVec self state.shared (.submit job) choice = some (after, more)) :
    Calms after more := by
  cases choice with
  | spawned started =>
      cases started with
      | false => exact absurd rfl unfailing.workers
      | true =>
          cases done
          exact ⟨calm.kept rfl, trivial⟩
  | _ => cases done

private theorem cancelInit_calm (calm : Calm shared)
    (closed : shared.admissionClosed = true) : Calm shared.cancelInit := by
  refine ⟨calm.faulted, calm.fault, calm.callbacks, nofun, ?_, calm.pending, calm.gate, nofun⟩
  intro failure same
  cases same
  exact ⟨rfl, closed⟩

private theorem enterInit_calms (calm : Calm state.shared)
    (done : act toVec self state.shared .enterInit choice = some (after, more)) :
    Calms after more := by
  cases choice with
  | proceed =>
      have done := Option.some.inj done
      unfold Shared.enterInit at done
      split at done
      · rename_i ended
        cases done
        exact ⟨cancelInit_calm calm (calm.ended ended), covers_of_silent rfl⟩
      · cases done
        exact ⟨calm.kept rfl, covers_of_silent rfl⟩
  | _ => cases done

private theorem load_calm (calm : Calm shared) (module : Vtable) :
    Calm { shared with module := some module } :=
  ⟨calm.faulted, calm.fault, calm.callbacks, fun _ => rfl, calm.canceled, fun _ => rfl,
    calm.gate, calm.requested⟩

private theorem initReturns_calms (calm : Calm state.shared)
    (unfailing : Patient toVec state .initReturns choice)
    (done : act toVec self state.shared .initReturns choice = some (after, more)) :
    Calms after more := by
  have succeeds := unfailing.callbacks
  cases choice with
  | initialized outcome =>
      cases outcome with
      | error reason => cases succeeds
      | ok module =>
          have done := Option.some.inj done
          unfold Shared.initReturned at done
          dsimp only at done
          rw [show module.incomplete = false from succeeds, if_neg Bool.false_ne_true] at done
          cases done
          refine ⟨load_calm calm module, ?_⟩
          refine ⟨nofun, ?_, trivial⟩
          intro fact among
          obtain rfl := List.mem_singleton.mp among
          exact .inl rfl
  | panicked => cases succeeds
  | _ => cases done

private theorem eagerReturns_calms (calm : Calm state.shared)
    (unfailing : Patient toVec state .eagerReturns choice)
    (done : act toVec self state.shared .eagerReturns choice = some (after, more)) :
    Calms after more := by
  have succeeds := unfailing.callbacks
  cases choice with
  | initialized outcome =>
      cases outcome with
      | error reason => cases succeeds
      | ok module =>
          have done := Option.some.inj done
          unfold Shared.eagerReturned at done
          dsimp only at done
          rw [show module.incomplete = false from succeeds, if_neg Bool.false_ne_true] at done
          cases done
          refine ⟨load_calm calm module, ?_⟩
          refine ⟨nofun, ?_, trivial⟩
          intro fact among
          obtain rfl := List.mem_singleton.mp among
          exact .inl rfl
  | panicked => cases succeeds
  | _ => cases done

private theorem publish_calm {result : Option (Except InitFailure Unit)} (calm : Calm shared)
    (there : shared.module.isSome = true)
    (published : result = some (shared.result.getD (.ok ()))) :
    (result = some (.ok ()) → shared.module.isSome = true) ∧
      ∀ failure, result = some (.error failure) →
        failure = .closed ∧ shared.admissionClosed = true := by
  refine ⟨fun _ => there, ?_⟩
  intro failure same
  rw [published] at same
  cases earlier : shared.result with
  | none =>
      rw [earlier] at same
      cases same
  | some outcome =>
      rw [earlier] at same
      cases same
      exact calm.canceled failure earlier

private theorem publishInit_calms {result : Except InitFailure Unit} (calm : Calm state.shared)
    (relied : ∀ fact ∈ Action.relies (.publishInit result), state.shared.Has fact)
    (done : act toVec self state.shared (.publishInit result) choice = some (after, more)) :
    Calms after more := by
  cases result with
  | error failure => exact (relied .never List.mem_cons_self).elim
  | ok _ =>
      have there := relied .loaded List.mem_cons_self
      obtain ⟨succeeded, canceled⟩ := publish_calm calm there rfl
      cases choice with
      | proceed =>
          cases done
          refine ⟨⟨calm.faulted, calm.fault, calm.callbacks, succeeded, canceled, calm.pending,
            calm.gate, calm.requested⟩, ?_⟩
          split
          · exact covers_of_silent rfl
          · exact covers_of_silent rfl
      | _ => cases done

private theorem publishEager_calms {result : Except Error Unit} (calm : Calm state.shared)
    (relied : ∀ fact ∈ Action.relies (.publishEager result), state.shared.Has fact)
    (done : act toVec self state.shared (.publishEager result) choice = some (after, more)) :
    Calms after more := by
  cases result with
  | error error => exact (relied .never List.mem_cons_self).elim
  | ok _ =>
      have there := relied .loaded List.mem_cons_self
      obtain ⟨succeeded, canceled⟩ := publish_calm calm there rfl
      cases choice with
      | proceed =>
          cases done
          exact ⟨⟨calm.faulted, calm.fault, calm.callbacks, succeeded, canceled, calm.pending,
            calm.gate, calm.requested⟩, covers_of_silent rfl⟩
      | _ => cases done

private theorem beginCleanup_calms (calm : Calm state.shared)
    (done : act toVec self state.shared .beginCleanup choice = some (after, more)) :
    Calms after more := by
  cases choice with
  | proceed =>
      have done := Option.some.inj done
      unfold Shared.beginCleanup at done
      split at done
      · cases done
        exact ⟨calm, covers_of_silent rfl⟩
      · rename_i requested
        have closed := calm.requested (not_not.mp requested)
        split at done
        · cases done
          refine ⟨cancelInit_calm calm closed, ?_, covers_of_silent rfl⟩
          intro fact among
          obtain rfl := List.mem_singleton.mp among
          exact nofun
        · split at done
          · cases done
            exact ⟨⟨calm.faulted, calm.fault, calm.callbacks, calm.succeeded, calm.canceled,
              calm.pending, calm.gate, nofun⟩, covers_of_silent rfl⟩
          · cases done
            exact ⟨⟨calm.faulted, calm.fault, calm.callbacks, calm.succeeded, calm.canceled,
              calm.pending, calm.gate, nofun⟩, covers_of_silent rfl⟩
  | _ => cases done

private theorem tryLock_calms (calm : Calm state.shared)
    (unfailing : Patient toVec state .tryLock choice)
    (done : act toVec self state.shared .tryLock choice = some (after, more)) :
    Calms after more := by
  cases choice with
  | proceed =>
      change state.shared.tryLock = _ at done
      unfold Shared.tryLock at done
      rw [unfailing.loads rfl, if_neg Bool.false_ne_true] at done
      split at done
      · cases done
      · cases done
        exact ⟨calm.kept rfl, covers_of_silent rfl⟩
  | _ => cases done

private theorem lookModule_calms {config : Bytes} (calm : Calm state.shared)
    (done : act toVec self state.shared (.lookModule config) choice = some (after, more)) :
    Calms after more := by
  cases choice with
  | proceed =>
      cases done
      refine ⟨calm, ?_⟩
      split
      · exact covers_of_silent rfl
      · split
        · rename_i initializing
          refine ⟨nofun, ?_, trivial⟩
          intro fact among
          obtain rfl := List.mem_singleton.mp among
          refine .inl ?_
          intro deferred
          rw [deferred] at initializing
          cases initializing
        · exact covers_of_silent rfl
  | _ => cases done

/-! ### Any action -/

private theorem sends_calm (calm : Calm state.shared)
    (unfailing : Patient toVec state action choice)
    (relied : ∀ fact ∈ action.relies, state.shared.Has fact)
    (looks : LooksSend self state.shared action more)
    (done : act toVec self state.shared action choice = some (state.shared, more)) :
    Calms state.shared more := by
  cases looks with
  | gateFails => exact gate_calms calm relied done
  | gatePasses => exact gate_calms calm relied done
  | scheduleFails => exact schedule_calms calm relied done
  | scheduleFollows => exact schedule_calms calm relied done
  | awaitSucceeds => exact await_calms calm unfailing done
  | awaitFails => exact await_calms calm unfailing done
  | awaitExpires => exact await_calms calm unfailing done
  | awaitCanceled => exact await_calms calm unfailing done
  | failClosed => exact fail_calms calm relied done
  | failHost => exact fail_calms calm relied done
  | failReinit => exact fail_calms calm relied done
  | authorizes => exact ⟨calm, covers_single relied⟩
  | enqueueClosed => exact ⟨calm, covers_of_silent rfl⟩

private theorem frame_covers (unfailing : Patient toVec state (.frame delivery) choice)
    (relied : ∀ fact ∈ delivery.relies, shared.Has fact) :
    reliance.Covers shared.Has (Shared.frameOf toVec delivery) := by
  cases queued : delivery.queued with
  | true =>
      obtain ⟨bytes, written, short⟩ := unfailing.frames delivery rfl queued
      unfold Shared.frameOf
      rw [written]
      dsimp only
      rw [if_neg (Nat.not_lt.mpr short)]
      exact covers_single relied
  | false =>
      have silent (error : Error) :
          reliance.Covers shared.Has [.undelivered delivery error] := by
        apply covers_single
        intro fact among
        unfold Action.relies at among
        dsimp only at among
        rw [queued] at among
        cases among
      unfold Shared.frameOf
      split
      · exact silent _
      · split
        · exact silent _
        · exact covers_single relied

private theorem delivery_calm (calm : Calm state.shared)
    (unfailing : Patient toVec state action choice)
    (relied : ∀ fact ∈ action.relies, state.shared.Has fact)
    (looks : LooksDelivery toVec state.shared action more)
    (done : act toVec self state.shared action choice = some (state.shared, more)) :
    Calms state.shared more := by
  cases looks with
  | frameClosed ended => exact ⟨calm, undelivered_has (calm.ended ended)⟩
  | frames => exact ⟨calm, frame_covers unfailing relied⟩
  | checkClosed ended => exact ⟨calm, undelivered_has (calm.ended ended)⟩
  | checks => exact ⟨calm, covers_single relied⟩
  | enterRefused => exact enter_calms calm relied done
  | pressClosed closed => exact ⟨calm, undelivered_has closed⟩
  | presses => exact ⟨calm, covers_single relied⟩
  | wakes => exact ⟨calm, covers_single relied⟩
  | expires =>
      cases choice with
      | timeout => exact absurd rfl unfailing.deadlines
      | proceed => cases done
      | cancel =>
          change (if _ then _ else _) = _ at done
          split at done <;> cases done
      | _ => cases done
  | expireClosed => exact (relied .never List.mem_cons_self).elim
  | hands queued =>
      refine ⟨calm, covers_single ?_⟩
      unfold Action.relies at relied
      dsimp only at relied
      rw [if_pos queued] at relied
      exact relied
  | clones => exact (relied .never List.mem_cons_self).elim
  | cloneFails => exact (relied .never List.mem_cons_self).elim
  | answerLost => exact (relied .never List.mem_cons_self).elim
  | answersDone => exact (relied .never List.mem_cons_self).elim
  | _ => exact ⟨calm, covers_of_silent rfl⟩

private theorem physical_calm (calm : Calm state.shared)
    (unfailing : Patient toVec state action choice)
    (relied : ∀ fact ∈ action.relies, state.shared.Has fact)
    (looks : LooksPhysical state.shared action more)
    (done : act toVec self state.shared action choice = some (state.shared, more)) :
    Calms state.shared more := by
  cases looks with
  | submitFails => exact submit_calms calm unfailing done
  | abandonSkips => exact (relied .never List.mem_cons_self).elim
  | terminates => exact (relied .never List.mem_cons_self).elim
  | requests => exact (relied .never List.mem_cons_self).elim
  | initRejected => exact initReturns_calms calm unfailing done
  | cleanupTaken => exact beginCleanup_calms calm done
  | eagerRejected => exact eagerReturns_calms calm unfailing done
  | stopCommits =>
      refine ⟨calm, nofun, nofun, ?_, trivial⟩
      intro fact among
      exact .inr among
  | _ => exact ⟨calm, covers_of_silent rfl⟩

private theorem reinit_calm (calm : Calm state.shared)
    (looks : LooksReinit state.shared action more)
    (done : act toVec self state.shared action choice = some (state.shared, more)) :
    Calms state.shared more := by
  cases looks with
  | found => exact lookModule_calms calm done
  | initializing => exact lookModule_calms calm done
  | missing => exact lookModule_calms calm done
  | _ => exact ⟨calm, covers_of_silent rfl⟩

private theorem notes_calm (calm : Calm state.shared)
    (relied : ∀ fact ∈ action.relies, state.shared.Has fact)
    (notes : Notes state.shared action after more)
    (done : act toVec self state.shared action choice = some (after, more)) :
    Calms after more := by
  cases notes with
  | noInitializer => exact schedule_calms calm relied done
  | @releases allowed =>
      cases allowed with
      | false => exact (relied .never List.mem_cons_self).elim
      | true =>
          exact ⟨⟨calm.faulted, calm.fault, calm.callbacks, calm.succeeded, calm.canceled,
            calm.pending, nofun, calm.requested⟩, trivial⟩
  | pauses =>
      exact ⟨⟨calm.faulted, calm.fault, calm.callbacks, calm.succeeded, calm.canceled,
        calm.pending, nofun, calm.requested⟩, trivial⟩
  | _ =>
      exact ⟨calm.kept rfl, covers_of_silent rfl⟩

private theorem closeAdmission_calm (calm : Calm shared) :
    Calm shared.closeAdmission :=
  ⟨calm.faulted, calm.fault, fun _ => rfl, calm.succeeded,
    fun failure same => ⟨(calm.canceled failure same).1, rfl⟩, fun filled => absurd rfl filled,
    calm.gate, fun _ => rfl⟩

theorem act_calms (calm : Calm state.shared) (unfailing : Patient toVec state action choice)
    (relied : ∀ fact ∈ action.relies, state.shared.Has fact)
    (done : act toVec self state.shared action choice = some (after, more)) :
    Calms after more := by
  have acts := act_acts done
  cases acts with
  | canceled waits => exact ⟨calm, covers_of_silent rfl⟩
  | sendLooks looks => exact sends_calm calm unfailing relied looks done
  | deliveryLooks looks => exact delivery_calm calm unfailing relied looks done
  | physicalLooks looks => exact physical_calm calm unfailing relied looks done
  | reinitLooks looks => exact reinit_calm calm looks done
  | notes notes => exact notes_calm calm relied notes done
  | locks takes =>
      refine ⟨calm.kept rfl, ?_⟩
      cases takes <;> exact covers_of_silent rfl
  | arrives =>
      exact ⟨calm.kept rfl, covers_single relied⟩
  | schedules => exact schedule_calms calm relied done
  | fails => exact fail_calms calm relied done
  | answersFailed => exact (relied .never List.mem_cons_self).elim
  | losesFailed => exact (relied .never List.mem_cons_self).elim
  | queues =>
      exact ⟨⟨calm.faulted, calm.fault, calm.callbacks, calm.succeeded, calm.canceled,
        fun _ => relied .loaded List.mem_cons_self, calm.gate, calm.requested⟩,
        covers_of_silent rfl⟩
  | enters => exact enter_calms calm relied done
  | permitRefused => exact permit_calms calm relied done
  | permits => exact permit_calms calm relied done
  | delivers => exact delivering_calms calm unfailing relied done
  | pushesBack => exact delivering_calms calm unfailing relied done
  | deliveryFails => exact delivering_calms calm unfailing relied done
  | expires => exact (relied .never List.mem_cons_self).elim
  | pops queued =>
      have there := calm.pending (by rw [queued]; exact List.cons_ne_nil _ _)
      refine ⟨⟨calm.faulted, calm.fault, calm.callbacks, calm.succeeded, calm.canceled,
        fun _ => there, calm.gate, calm.requested⟩, covers_single ?_⟩
      intro fact among
      obtain rfl := List.mem_singleton.mp among
      exact there
  | dropsPending => exact faultPending_calms calm relied done
  | faultsPending => exact faultPending_calms calm relied done
  | answers => exact (relied .never List.mem_cons_self).elim
  | @publishes fault =>
      cases fault with
      | true => exact (relied .never List.mem_cons_self).elim
      | false =>
          refine ⟨⟨?_, ?_, calm.callbacks, calm.succeeded, calm.canceled,
            calm.pending, calm.gate, calm.requested⟩, trivial⟩
          · change (state.shared.faulted || false) = false
            rw [Bool.or_false, calm.faulted]
          · change (state.shared.native.fault || false) = false
            rw [Bool.or_false, calm.fault]
  | closes => exact ⟨closeAdmission_calm calm, trivial⟩
  | closesSync => exact ⟨closeAdmission_calm calm, covers_of_silent rfl⟩
  | anchorIdle =>
      have closed := relied .closed List.mem_cons_self
      exact ⟨⟨calm.faulted, calm.fault, calm.callbacks, calm.succeeded, calm.canceled,
        calm.pending, calm.gate, fun _ => closed⟩, trivial⟩
  | anchorCancels =>
      have closed := relied .closed List.mem_cons_self
      refine ⟨⟨calm.faulted, calm.fault, calm.callbacks, nofun, ?_, calm.pending, calm.gate,
        nofun⟩, ?_, covers_of_silent rfl⟩
      · intro failure same
        cases same
        exact ⟨rfl, closed⟩
      · intro fact among
        obtain rfl := List.mem_singleton.mp among
        exact nofun
  | anchorSubmits =>
      have closed := relied .closed List.mem_cons_self
      exact ⟨⟨calm.faulted, calm.fault, calm.callbacks, calm.succeeded, calm.canceled,
        calm.pending, calm.gate, fun _ => closed⟩, covers_of_silent rfl⟩
  | submits => exact submit_calms calm unfailing done
  | unsures => exact (relied .never List.mem_cons_self).elim
  | abandons => exact (relied .never List.mem_cons_self).elim
  | takesJob =>
      refine ⟨calm.kept rfl, ?_⟩
      split
      · exact covers_of_silent rfl
      · exact covers_of_silent rfl
  | initCanceled => exact enterInit_calms calm done
  | entersInit => exact enterInit_calms calm done
  | initReturned => exact initReturns_calms calm unfailing done
  | publishesInit => exact publishInit_calms calm relied done
  | rejectsInit => exact publishInit_calms calm relied done
  | cleanupCanceled => exact beginCleanup_calms calm done
  | cleanupUncertain => exact beginCleanup_calms calm done
  | beginsCleanup => exact beginCleanup_calms calm done
  | publishesCleanup finished =>
      refine ⟨⟨calm.faulted, calm.fault, calm.callbacks, calm.succeeded, calm.canceled,
        calm.pending, calm.gate, ?_⟩, covers_of_silent rfl⟩
      rintro rfl
      rcases finished with complete | uncertain
      · cases complete
      · cases uncertain
  | handsOff =>
      have closed := relied .closed List.mem_cons_self
      exact ⟨⟨calm.faulted, calm.fault, calm.callbacks, calm.succeeded, calm.canceled,
        calm.pending, calm.gate, fun _ => closed⟩, covers_of_silent rfl⟩
  | follows =>
      have closed := relied .closed List.mem_cons_self
      exact ⟨⟨calm.faulted, calm.fault, calm.callbacks, calm.succeeded, calm.canceled,
        calm.pending, calm.gate, fun _ => closed⟩, covers_of_silent rfl⟩
  | triesLock => exact tryLock_calms calm unfailing done
  | lockTaken => exact tryLock_calms calm unfailing done
  | eagerUnavailable => exact (relied .never List.mem_cons_self).elim
  | eagerReturned => exact eagerReturns_calms calm unfailing done
  | publishesEager => exact publishEager_calms calm relied done
  | rejectsEager => exact publishEager_calms calm relied done
  | _ =>
      exact ⟨calm.kept rfl, covers_of_silent rfl⟩

/-! ### Facts that nobody takes back -/

private theorem entered_keeps (relied : ∀ fact ∈ action.relies, shared.Has fact)
    (acts : Acts toVec self shared action after more) :
    (shared.init ≠ .deferred → after.init ≠ .deferred) ∧ (shared.Handed → after.Handed) := by
  cases acts with
  | notes notes => cases notes <;> exact ⟨fun kept => kept, fun kept => kept⟩
  | forgets =>
      have entered := relied .entered List.mem_cons_self
      exact ⟨fun kept => kept, fun _ deferred => absurd deferred entered⟩
  | schedules => exact ⟨fun _ => nofun, fun _ => nofun⟩
  | anchorCancels => exact ⟨fun _ => nofun, fun _ => nofun⟩
  | initCanceled => exact ⟨fun _ => nofun, fun _ => nofun⟩
  | entersInit => exact ⟨fun _ => nofun, fun _ => nofun⟩
  | publishesInit => exact ⟨fun _ => nofun, fun _ => nofun⟩
  | rejectsInit => exact ⟨fun _ => nofun, fun _ => nofun⟩
  | cleanupCanceled => exact ⟨fun _ => nofun, fun _ => nofun⟩
  | entersEager => exact ⟨fun _ => nofun, fun _ => nofun⟩
  | publishesEager => exact ⟨fun _ => nofun, fun _ => nofun⟩
  | rejectsEager => exact ⟨fun _ => nofun, fun _ => nofun⟩
  | _ => exact ⟨fun kept => kept, fun kept => kept⟩

private theorem loaded_keeps (acts : Acts toVec self shared action after more)
    (there : shared.module.isSome = true) : after.module.isSome = true := by
  cases acts with
  | notes notes => cases notes <;> exact there
  | initReturned => rfl
  | eagerReturned => rfl
  | _ => exact there

private theorem gated_keeps (relied : ∀ fact ∈ action.relies, shared.Has fact)
    (open' : action ≠ .pauseInitialization) (acts : Acts toVec self shared action after more)
    (gated : shared.gate = some true) : after.gate = some true := by
  cases acts with
  | notes notes =>
      cases notes with
      | pauses => exact absurd rfl open'
      | @releases allowed =>
          cases allowed with
          | true => rfl
          | false => exact (relied .never List.mem_cons_self).elim
      | _ => exact gated
  | _ => exact gated

theorem facts_stay (relied : ∀ fact ∈ action.relies, shared.Has fact)
    (acts : Acts toVec self shared action after more) {fact : Fact}
    (kept : action = .pauseInitialization → fact ≠ .gated) (has : shared.Has fact) :
    after.Has fact := by
  cases fact with
  | closed => exact admission_stays acts has
  | loaded => exact loaded_keeps acts has
  | handed => exact (entered_keeps relied acts).2 has
  | entered => exact (entered_keeps relied acts).1 has
  | gated => exact gated_keeps relied (fun pauses => kept pauses rfl) acts has
  | never => exact has.elim

theorem brought (acts : Acts toVec self shared action after more) {fact : Fact}
    (brings : fact ∈ action.brings) : after.Has fact := by
  cases action with
  | close =>
      obtain rfl := List.mem_singleton.mp brings
      cases acts with
      | closes => rfl
      | _ => rename_i inner; cases inner
  | _ => cases brings

private theorem gated_schedules (gated : .gated ∈ action.relies) :
    ∃ use, action = .schedule use := by
  have refusals (error : Error) : Fact.gated ∉ refusal error := by
    unfold refusal
    split <;> decide
  have deliveries (delivery : Delivery) : Fact.gated ∉ delivery.relies := by
    unfold Delivery.relies
    split
    · split <;> decide
    · decide
  cases action with
  | schedule use => exact ⟨use, rfl⟩
  | fail use error =>
      cases use with
      | send message => exact absurd gated (refusals error)
      | _ => cases gated
  | undelivered delivery error =>
      change Fact.gated ∈ (if delivery.queued then refusal error else []) at gated
      split at gated
      · exact absurd gated (refusals error)
      · cases gated
  | faultPending failed error => exact absurd gated (refusals error)
  | frame delivery => exact absurd gated (deliveries delivery)
  | check delivery => exact absurd gated (deliveries delivery)
  | enter delivery => exact absurd gated (deliveries delivery)
  | permit delivery => exact absurd gated (deliveries delivery)
  | delivering delivery => exact absurd gated (deliveries delivery)
  | backpressure delivery => exact absurd gated (deliveries delivery)
  | stalled delivery => exact absurd gated (deliveries delivery)
  | publish fault => cases fault <;> simp [Action.relies] at gated
  | publishInit result => cases result <;> simp [Action.relies] at gated
  | publishEager result => cases result <;> simp [Action.relies] at gated
  | releaseInitialization allowed => cases allowed <;> simp [Action.relies] at gated
  | _ => simp [Action.relies] at gated

/-! ### Runs -/

structure Well (state : Tasks Shared Program) : Prop where
  calm : Calm state.shared
  covered : ∀ id task, state.tasks.lookup id = some task →
    reliance.Covers state.shared.Has task

private theorem program_covered {call : Call} (ordinary : call.ordinary = true)
    (handed : call.initializes = true → shared.Handed) :
    reliance.Covers shared.Has (program call) := by
  have given (action : Action) (relies : action.relies = [.handed]) (there : shared.Handed) :
      reliance.Covers shared.Has [action] := by
    apply covers_single
    rw [relies]
    intro fact among
    obtain rfl := List.mem_singleton.mp among
    exact there
  cases call with
  | send message => exact given _ rfl (handed rfl)
  | ensureInitialized => exact given _ rfl (handed rfl)
  | requestTerminal fault =>
      cases fault with
      | true => cases ordinary
      | false =>
          refine ⟨nofun, nofun, ?_, trivial⟩
          exact fun fact among => .inr among
  | commitTerminal fault =>
      cases fault with
      | true => cases ordinary
      | false => exact covers_of_silent rfl
  | releaseInitialization allowed =>
      cases allowed with
      | true => exact covers_of_silent rfl
      | false => cases ordinary
  | commitAdmissionTermination cause => cases ordinary
  | hostFault => cases ordinary
  | _ => exact covers_of_silent rfl

private theorem step_act {task stepped : Program}
    (done : step toVec self choice shared task = some (after, stepped)) :
    ∃ action rest more, task = action :: rest ∧ stepped = more ++ rest ∧
      act toVec self shared action choice = some (after, more) := by
  cases task with
  | nil => cases done
  | cons action rest =>
      obtain ⟨⟨later, more⟩, acted, same⟩ := Option.map_eq_some_iff.mp done
      cases same
      exact ⟨action, rest, more, rfl, rfl, acted⟩

private theorem outside_calm (event : Outside) (calm : Calm shared) :
    Calm (outside event shared) := by
  cases event <;>
    exact calm.kept rfl

private theorem outside_has (event : Outside) {fact : Fact}
    (has : shared.Has fact) : (outside event shared).Has fact := by
  cases event <;> cases fact <;> exact has

theorem well_step {event : Tasks.Event Call Choice Outside}
    (healthy : Healthy toVec state event) (well : Well state) :
    Well (Tasks.next (kind toVec) state event) := by
  have moved := Tasks.next_moved (kind toVec) state event
  generalize Tasks.next (kind toVec) state event = next at moved
  obtain ⟨calm, covered⟩ := well
  cases moved with
  | still => exact ⟨calm, covered⟩
  | @started id call vacant =>
      refine ⟨calm, ?_⟩
      intro other task found
      dsimp only at found ⊢
      rw [Table.lookup_insert_eq] at found
      split at found
      · cases found
        exact program_covered healthy.1 healthy.2
      · exact covered other task found
  | @stepped id choice task stepped shared present taken =>
      obtain ⟨action, rest, more, rfl, rfl, done⟩ := step_act taken
      have acts := act_acts done
      have unfailing := healthy action rest present
      have relied := (covered id _ present).1
      obtain ⟨calmly, front⟩ := act_calms calm unfailing relied done
      -- A pause takes back the gate, which no operation relies on then.
      have stays (other : Nat) (program : Program) (found : state.tasks.lookup other = some program)
          (next : Action) (among : next ∈ program) (fact : Fact) (relies : fact ∈ next.relies)
          (has : state.shared.Has fact) : shared.Has fact := by
        refine facts_stay relied acts ?_ has
        rintro pauses rfl
        obtain ⟨use, rfl⟩ := gated_schedules relies
        exact unfailing.holds pauses other program found use among
      refine ⟨calmly, ?_⟩
      intro other task found
      dsimp only at found ⊢
      rw [Table.lookup_insert_eq] at found
      split at found
      · cases found
        refine (covered id _ present).step ?_ (fun _ => brought acts) front
        intro next among
        exact stays id _ present next (List.mem_cons_of_mem _ among)
      · exact (covered other task found).mono (stays other task found)
  | @around event =>
      refine ⟨outside_calm event calm, ?_⟩
      intro id task found
      exact (covered id task found).mono (fun _ _ _ _ has => outside_has event has)

theorem reachable_well (reached : ((system toVec).restrict (Healthy toVec)).Reachable state) :
    Well state := by
  apply reached.invariant
  · rintro first ⟨fresh, empty⟩
    refine ⟨⟨fresh.flags.1, ?_, ?_, ?_, ?_, ?_, ?_, ?_⟩, ?_⟩
    · rw [fresh.native]
    · rw [fresh.callbacks]
      exact nofun
    · rw [fresh.physical.2.2.2.1]
      exact nofun
    · rw [fresh.physical.2.2.2.1]
      exact nofun
    · rw [fresh.queue.1]
      exact fun filled => absurd rfl filled
    · rw [fresh.gate]
      exact nofun
    · rw [fresh.physical.2.1]
      exact nofun
    · rw [empty]
      exact nofun
  · rintro before event after ⟨healthy, rfl⟩ well
    exact well_step healthy well

/-! ### The terminal flags of a transport -/

def Shared.context (shared : Shared) : Terminal.Context := ⟨shared.faulted, shared.native, []⟩

private theorem published_later (shared : Shared) (fault : Bool) :
    Terminal.Later shared.context (shared.publishTerminalFlags fault).context := by
  refine ⟨?_, fun _ => rfl, fun _ => rfl, ?_, fun set => set⟩
  · intro set
    change (shared.faulted || fault) = true
    rw [show shared.faulted = true from set, Bool.true_or]
  · intro set
    change (shared.native.fault || fault) = true
    rw [show shared.native.fault = true from set, Bool.true_or]

theorem acts_later (acts : Acts toVec self shared action after more) :
    Terminal.Later shared.context after.context := by
  cases acts with
  | notes notes =>
      cases notes with
      | shutdown =>
          exact ⟨fun set => set, fun set => set, fun set => set, fun set => set, fun _ => rfl⟩
      | _ => exact .refl _
  | fails => exact published_later shared true
  | expires => exact published_later shared true
  | faultsPending => exact published_later shared true
  | publishes => exact published_later shared _
  | abandons => exact published_later shared true
  | _ => exact .refl _

theorem run_flags_later {before : Tasks Shared Program}
    {events : List (Tasks.Event Call Choice Outside)}
    (run : (system toVec).Run before events state) :
    Terminal.Later before.shared.context state.shared.context := by
  induction run with
  | nil => exact .refl _
  | @snoc middle last events event _ stepped ih =>
      refine ih.trans ?_
      obtain rfl : last = Tasks.next (kind toVec) middle event := stepped
      have moved := Tasks.next_moved (kind toVec) middle event
      generalize Tasks.next (kind toVec) middle event = last at moved
      cases moved with
      | still => exact .refl _
      | started => exact .refl _
      | stepped present taken =>
          obtain ⟨_, _, _, _, _, acts⟩ := step_acts taken
          exact acts_later acts
      | around => rename_i event; cases event <;> exact .refl _

end

/-- The terminal flags of a module, in every run of those who write them. -/
structure LastingFlags : Prop where
  later : ∀ before events after, Terminal.system.Run before events after →
    Terminal.Later before.shared after.shared
  left : ∀ before events after, Terminal.system.Run before events after →
    before.shared.flags ≠ .LIVE → after.shared.flags ≠ .LIVE
  confirmed : ∀ state, Terminal.system.Reachable state →
    state.shared.flags.physicallyStopped = true → TB_OK ∈ state.shared.codes
  accompanied : ∀ state, Terminal.system.Reachable state → state.shared.faulted = true →
    ∃ id bound, ∀ events after, Terminal.system.Run state events after →
      bound ≤ events.countP (Terminal.goes id) → after.shared.flags.fault = true

theorem terminal_flags_last (toVec : Message → Except String Bytes) :
    LastingFlags ∧
      (∀ before events after, (system toVec).Run before events after →
        Terminal.Later before.shared.context after.shared.context) ∧
      ∀ state, ((system toVec).restrict (Healthy toVec)).Reachable state →
        state.shared.faulted = false ∧ state.shared.native.fault = false := by
  refine ⟨⟨?_, ?_, ?_, ?_⟩, ?_, ?_⟩
  · exact fun _ _ _ run => Terminal.run_later run
  · exact fun _ _ _ run left => (Terminal.run_later run).left left
  · exact fun _ reached stopped => (Terminal.reachable_confirmed reached).1 stopped
  · exact fun _ reached faulted => Terminal.fault_accompanied reached faulted
  · exact fun _ _ _ run => run_flags_later run
  · intro state reached
    have calm := (reachable_well reached).calm
    exact ⟨calm.faulted, calm.fault⟩

/-! ### A stop beside an initialization -/

private def Choice.smooth : Choice → Bool
  | .timeout => false
  | .spawned started => started
  | choice => !choice.fails

private def smooth (drops : Bool) (state : Tasks Shared Program) :
    Tasks.Event Call Choice Outside → Bool
  | .start _ call =>
      call.ordinary && (!call.initializes || state.shared.init ≠ .deferred ||
        state.shared.initializer)
  | .advance id choice =>
      choice.smooth && match state.tasks.lookup id with
        | some (.tryLock :: _) => false
        | some (.pauseInitialization :: _) => false
        | some (.await _ true :: _) => match choice with
          | .cancel => drops
          | _ => true
        | _ => true
  | .outside _ => true

private theorem unfailing_of_smooth {drops : Bool} {state : Tasks Shared Program} {id : Nat}
    {choice : Choice} {action : Action} {rest : Program}
    (passes : smooth drops state (.advance id choice) = true)
    (present : state.tasks.lookup id = some (action :: rest)) :
    Unfailing state action choice := by
  unfold smooth at passes
  dsimp only at passes
  rw [present, Bool.and_eq_true] at passes
  obtain ⟨easy, goes⟩ := passes
  refine ⟨?_, ?_, ?_, ?_, ?_⟩
  · cases choice with
    | timeout => cases easy
    | spawned started => rfl
    | _ => simpa [Choice.smooth] using easy
  · rintro rfl
    cases easy
  · rintro rfl
    cases easy
  · rintro rfl
    cases goes
  · rintro rfl
    cases goes

private theorem handed_of_smooth {drops : Bool} {state : Tasks Shared Program} {id : Nat}
    {call : Call} (passes : smooth drops state (.start id call) = true) :
    call.ordinary = true ∧ (call.initializes = true → state.shared.Handed) := by
  unfold smooth at passes
  rw [Bool.and_eq_true] at passes
  refine ⟨passes.1, ?_⟩
  intro starts deferred
  simpa [starts, deferred] using passes.2

private theorem faultless_of_smooth (state : Tasks Shared Program)
    (event : Tasks.Event Call Choice Outside) (passes : smooth true state event = true) :
    Faultless state event := by
  cases event with
  | start id call => exact handed_of_smooth passes
  | advance id choice => exact fun _ _ present => unfailing_of_smooth passes present
  | outside event => trivial

private theorem healthy_of_smooth (state : Tasks Shared Program)
    (event : Tasks.Event Call Choice Outside) (passes : smooth false state event = true) :
    Healthy (fun _ => .ok []) state event := by
  cases event with
  | start id call => exact handed_of_smooth passes
  | advance id choice =>
      intro action rest present
      refine ⟨unfailing_of_smooth passes present, ?_, fun _ _ _ => ⟨[], rfl, Nat.zero_le _⟩⟩
      rintro use rfl rfl
      unfold smooth at passes
      dsimp only at passes
      rw [present, Bool.and_eq_true] at passes
      cases passes.2
  | outside event => trivial

def droppedInitialization : List (Tasks.Event Call Choice Outside) :=
  .start 0 .ensureInitialized :: turns 0 [.proceed, .proceed, .spawned true] ++
    .start 3 .stop :: turns 3 [.proceed] ++ turns 0 [.cancel, .proceed]

theorem droppedInitialization_faults : ∃ state,
    ((system (fun _ => .ok [])).restrict Faultless).Reachable state ∧
      state.tasks.lookup 3 = some [.lockStop] ∧ state.shared.faulted = true :=
  ⟨replay (fun _ => .ok []) droppedInitialization,
    ⟨_, droppedInitialization, ⟨lazyTransport_fresh, rfl⟩,
      .of_checked faultless_of_smooth (by decide)⟩, rfl, rfl⟩

/-- A call is delivered, and the module stops. -/
def quietStop : List (Tasks.Event Call Choice Outside) :=
  initializing ModuleBus.voiceCall ++ readying ++ turns 0 [.proceed, .proceed, .proceed] ++
    delivering 0 ++ stopping ++ turns 4 [.returned TB_OK]

theorem quietStop_unfaulted :
    (replay (fun _ => .ok []) quietStop).shared.native.physicallyStopped = true ∧
      (replay (fun _ => .ok []) quietStop).shared.faulted = false ∧
      (replay (fun _ => .ok []) quietStop).shared.native.fault = false :=
  ⟨by decide, (terminal_flags_last (fun _ => .ok [])).2.2 _
    ⟨_, quietStop, ⟨lazyTransport_fresh, rfl⟩, .of_checked healthy_of_smooth (by decide)⟩⟩

end ModuleTransport

end TinyBus
