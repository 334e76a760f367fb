import Mathlib.Algebra.Order.Ring.Int
import Mathlib.Algebra.Order.Ring.Nat
import Mathlib.Data.Int.ConditionallyCompleteOrder
import Mathlib.Order.ConditionallyCompleteLattice.Basic
import TinyBus.Library.Weights
import TinyBus.ModuleRouting
import TinyBus.TransportSteps

/-
The calls into a module that its lifecycle is made of.  The initializer, the lock of
the lifecycle and the right to shut the module down are things of which there is one:
an action that has such a thing weighs one, and nothing makes the whole heavier.
-/

namespace TinyBus

namespace ModuleTransport

section

variable {M : Type} [AddCommMonoid M]

def weigh (measure : Action → M) (program : Program) : M := (program.map measure).sum

theorem weigh_cons (measure : Action → M) (action : Action) (rest : Program) :
    weigh measure (action :: rest) = measure action + weigh measure rest := by
  unfold weigh
  rw [List.map_cons, List.sum_cons]

theorem weigh_append (measure : Action → M) (early late : Program) :
    weigh measure (early ++ late) = weigh measure early + weigh measure late := by
  unfold weigh
  rw [List.map_append, List.sum_append]

theorem weigh_add (measure other : Action → M) (program : Program) :
    weigh (fun action => measure action + other action) program =
      weigh measure program + weigh other program := by
  unfold weigh
  exact List.sum_map_add

theorem weigh_map {N : Type} [AddCommMonoid N] (scale : M →+ N) (measure : Action → M)
    (program : Program) :
    weigh (fun action => scale (measure action)) program = scale (weigh measure program) := by
  unfold weigh
  rw [map_list_sum, List.map_map]
  rfl

end

variable {toVec : Message → Except String Bytes}

section

variable {M : Type} [AddCommMonoid M] [PartialOrder M] [IsOrderedCancelAddMonoid M]

theorem lightens_of_acts {common : Shared → M} {measure : Nat → Action → M}
    {guard : Tasks Shared Program → Tasks.Event Call Choice Outside → Prop}
    (start : ∀ id call, weigh (measure id) (program call) = 0)
    (acts : ∀ state id choice action rest after more, guard state (.advance id choice) →
      state.tasks.lookup id = some (action :: rest) →
        Acts toVec id state.shared action after more →
          common after + weigh (measure id) more ≤ common state.shared + measure id action)
    (around : ∀ event shared, common (outside event shared) ≤ common shared) :
    Tasks.Lightens (kind toVec) guard common (fun id => weigh (measure id)) where
  start := start
  step := by
    intro state id choice task after stepped admitted present done
    obtain ⟨action, rest, more, rfl, rfl, acted⟩ := step_acts done
    rw [weigh_cons, weigh_append, ← add_assoc, ← add_assoc]
    exact add_le_add_left (acts state id choice action rest after more admitted present acted) _
  outside := fun event state => around event state.shared

end

theorem le_weigh_of_mem {measure : Action → Nat} {program : Program} {action : Action}
    (member : action ∈ program) : measure action ≤ weigh measure program := by
  unfold weigh
  exact List.le_sum_of_mem (List.mem_map_of_mem member)

theorem sole_of_weight (measure : Nat → Action → Nat) {tasks : Table Nat Program}
    (one : Tasks.weight (fun id => weigh (measure id)) tasks ≤ 1) {id other : Nat}
    {action beside : Action} {rest task : Program}
    (present : tasks.lookup id = some (action :: rest)) (has : 1 ≤ measure id action)
    (found : tasks.lookup other = some task) (member : beside ∈ task)
    (also : 1 ≤ measure other beside) (apart : other ≠ id ∨ beside ∈ rest) : False := by
  have nonneg (id : Nat) (task : Program) : 0 ≤ weigh (measure id) task := Nat.zero_le _
  by_cases same : other = id
  · subst same
    rw [present] at found
    cases found
    rcases apart with different | later
    · exact different rfl
    · have own := Tasks.own_le_weight nonneg present
      have theirs : measure other beside ≤ weigh (measure other) rest := le_weigh_of_mem later
      rw [weigh_cons] at own
      omega
  · have both := Tasks.own_add_own_le_weight nonneg present found same
    have theirs : measure other beside ≤ weigh (measure other) task := le_weigh_of_mem member
    rw [weigh_cons] at both
    omega

/-! ### Things of which there is one -/

/-- The actions that never have such a thing: those of a send, a delivery and the
drainer. -/
def Action.plain : Action → Bool
  | .gate _ => true
  | .schedule _ => true
  | .await _ _ => true
  | .fail _ _ => true
  | .authorize _ => true
  | .enqueue _ _ => true
  | .returned _ => true
  | .canceled => true
  | .frame _ => true
  | .check _ => true
  | .enter _ => true
  | .backpressure _ => true
  | .stalled _ => true
  | .expire _ => true
  | .undelivered _ _ => true
  | .waitReady => true
  | .drain => true
  | .pop => true
  | .recheck => true
  | .finishDrain => true
  | .endDrain => true
  | .faultPending _ _ => true
  | .clone _ => true
  | .answer _ => true
  | .publish _ => true
  | .close => true
  | .anchor _ => true
  | .abandon => true
  | .takeInbound => true
  | .relock _ => true
  | .lockReinit _ => true
  | .awaitReady _ => true
  | .relockReady _ => true
  | .lockStop => true
  | .awaitStop _ => true
  | _ => false

/-- The actions that are taken in the lock of the lifecycle, and those that take its
guard along. -/
def Action.guarded : Action → Nat
  | .submit job => job.guard.toNat
  | .enterInit => 1
  | .initReturns => 1
  | .publishInit _ => 1
  | .awaitInit guard => guard.toNat
  | .drainCallbacks guard => guard.toNat
  | .beginCleanup => 1
  | .beginPending => 1
  | .stopSync => 1
  | .closeSync => 1
  | .awaitDrained => 1
  | .shutdownReturns => 1
  | .publishCleanup _ => 1
  | .release => 1
  | .replaceConfig _ => 1
  | .replaced => 1
  | .lookModule _ => 1
  | .recheckModule _ => 1
  | .lookReady _ => 1
  | .recheckReady _ => 1
  | .callReinit _ => 1
  | .reinitReturns => 1
  | .recheckStop => 1
  | .handOff => 1
  | .enterEager => 1
  | .eagerReturns => 1
  | .publishEager _ => 1
  | _ => 0

def Shared.guards (shared : Shared) : Nat :=
  (!shared.locked).toNat + (shared.workers.map (fun job => job.guard.toNat)).sum

def Action.initializers : Action → Nat
  | .submit job => job.initializer.toNat
  | .lockInit => 1
  | .enterInit => 1
  | .enterEager => 1
  | _ => 0

def Shared.initializers (shared : Shared) : Nat :=
  shared.initializer.toNat + shared.eagerInitializer.toNat +
    (shared.workers.map (fun job => job.initializer.toNat)).sum + shared.calls.count .init

def Action.shutdowns : Action → Nat
  | .beginPending => 1
  | .stopSync => 1
  | .closeSync => 1
  | .awaitDrained => 1
  | _ => 0

def Shared.shutdowns (shared : Shared) : Nat :=
  (decide (shared.cleanup = .idle) || decide (shared.cleanup = .requested)).toNat +
    shared.calls.count .shutdown

section

variable {self : Nat} {shared after : Shared} {action next : Action} {more : Program}
  {measure : Action → Nat}

theorem weigh_plain (vanishes : ∀ action : Action, action.plain = true → measure action = 0)
    {program : Program} (plain : program.all Action.plain = true) :
    weigh measure program = 0 := by
  induction program with
  | nil => rfl
  | cons head rest ih =>
      rw [List.all_cons, Bool.and_eq_true] at plain
      rw [weigh_cons, vanishes head plain.1, ih plain.2]

private theorem waits_plain (waits : Waits action) : action.plain = true := by
  cases waits <;> rfl

private theorem send_plain (looks : LooksSend self shared action more) :
    action.plain = true ∧ more.all Action.plain = true := by
  cases looks with
  | @awaitSucceeds use _ => cases use <;> exact ⟨rfl, rfl⟩
  | @awaitExpires _ initiating _ => cases initiating <;> exact ⟨rfl, rfl⟩
  | @awaitCanceled _ initiating => cases initiating <;> exact ⟨rfl, rfl⟩
  | _ => exact ⟨rfl, rfl⟩

private theorem delivery_plain (looks : LooksDelivery toVec shared action more) :
    action.plain = true ∧ more.all Action.plain = true := by
  cases looks with
  | frames _ =>
      unfold Shared.frameOf
      split
      · exact ⟨rfl, rfl⟩
      · split <;> exact ⟨rfl, rfl⟩
  | _ => exact ⟨rfl, rfl⟩

theorem canceled_le (vanishes : ∀ action : Action, action.plain = true → measure action = 0)
    (waits : Waits action) : weigh measure [.canceled] ≤ measure action := by
  rw [vanishes action (waits_plain waits), weigh_plain vanishes rfl]

theorem send_le (vanishes : ∀ action : Action, action.plain = true → measure action = 0)
    (looks : LooksSend self shared action more) : weigh measure more ≤ measure action := by
  rw [vanishes action (send_plain looks).1, weigh_plain vanishes (send_plain looks).2]

theorem delivery_le (vanishes : ∀ action : Action, action.plain = true → measure action = 0)
    (looks : LooksDelivery toVec shared action more) :
    weigh measure more ≤ measure action := by
  rw [vanishes action (delivery_plain looks).1,
    weigh_plain vanishes (delivery_plain looks).2]

private theorem guarded_plain (plain : action.plain = true) : action.guarded = 0 := by
  cases action <;> first | rfl | cases plain

private theorem initializers_plain (plain : action.plain = true) :
    action.initializers = 0 := by
  cases action <;> first | rfl | cases plain

private theorem shutdowns_plain (plain : action.plain = true) : action.shutdowns = 0 := by
  cases action <;> first | rfl | cases plain

theorem guards_le (acts : Acts toVec self shared action after more) :
    after.guards + weigh Action.guarded more ≤ shared.guards + action.guarded := by
  have vanishes (action : Action) : action.plain = true → action.guarded = 0 := guarded_plain
  cases acts with
  | canceled waits => exact Nat.add_le_add_left (canceled_le vanishes waits) _
  | sendLooks looks => exact Nat.add_le_add_left (send_le vanishes looks) _
  | deliveryLooks looks => exact Nat.add_le_add_left (delivery_le vanishes looks) _
  | physicalLooks looks =>
      cases looks with
      | submitFails => exact Nat.le_add_right _ _
      | _ => exact Nat.le_refl _
  | reinitLooks looks => cases looks <;> exact Nat.le_refl _
  | locks takes free =>
      -- The guard goes from the free lock to the action that follows.
      unfold Shared.guards
      rw [free]
      cases takes <;> simp [weigh, Action.guarded, Nat.add_comm]
  | notes notes =>
      cases notes with
      | @releases allowed => cases allowed <;> exact Nat.le_refl _
      | _ => exact Nat.le_refl _
  | fails => split <;> exact Nat.le_refl _
  | delivers =>
      unfold Shared.afterDelivery
      split <;> exact Nat.le_refl _
  | submits =>
      unfold Shared.guards
      simp [weigh, Action.guarded, Nat.add_assoc]
  | @takesJob job rest queued =>
      unfold Shared.guards
      rw [queued]
      split
      · simp [weigh, Action.guarded]
      · simp [weigh, Action.guarded, Nat.add_comm, Nat.add_left_comm]
  | publishesInit => split <;> exact Nat.le_refl _
  | releases =>
      unfold Shared.guards
      simp [weigh, Action.guarded]
      omega
  | triesLock _ free =>
      unfold Shared.guards
      rw [free]
      simp [weigh, Action.guarded, Nat.add_comm]
  | _ => exact Nat.le_refl _

theorem initializers_le (acts : Acts toVec self shared action after more) :
    after.initializers + weigh Action.initializers more ≤
      shared.initializers + action.initializers := by
  have vanishes (action : Action) : action.plain = true → action.initializers = 0 := initializers_plain
  cases acts with
  | canceled waits => exact Nat.add_le_add_left (canceled_le vanishes waits) _
  | sendLooks looks => exact Nat.add_le_add_left (send_le vanishes looks) _
  | deliveryLooks looks => exact Nat.add_le_add_left (delivery_le vanishes looks) _
  | physicalLooks looks =>
      cases looks with
      | submitFails => exact Nat.le_add_right _ _
      | _ => exact Nat.le_refl _
  | reinitLooks looks => cases looks <;> exact Nat.le_refl _
  | locks takes _ => cases takes <;> exact Nat.le_refl _
  | notes notes =>
      cases notes with
      | @releases allowed => cases allowed <;> exact Nat.le_refl _
      | _ => exact Nat.le_refl _
  | schedules _ there =>
      unfold Shared.initializers
      rw [there]
      simp [weigh, Action.initializers, Nat.add_assoc, Nat.add_comm, Nat.add_left_comm]
  | fails => split <;> exact Nat.le_refl _
  | delivers =>
      unfold Shared.afterDelivery
      split <;> exact Nat.le_refl _
  | submits =>
      unfold Shared.initializers
      simp [weigh, Action.initializers]
      omega
  | forgets =>
      unfold Shared.initializers
      simp [weigh, Action.initializers]
  | @takesJob job rest queued =>
      unfold Shared.initializers
      rw [queued]
      cases given : job.initializer with
      | false => simp [weigh, Action.initializers, given]
      | true =>
          simp [weigh, Action.initializers, given, Nat.add_assoc, Nat.add_comm,
            Nat.add_left_comm]
  | initCanceled => exact Nat.le_add_right _ _
  | entersInit =>
      -- The initializer is spent by the call.
      unfold Shared.initializers
      simp [weigh, Action.initializers]
      omega
  | publishesInit =>
      unfold Shared.initializers
      split <;> simp [weigh, Action.initializers]
  | shutsDown _ _ =>
      unfold Shared.initializers
      simp [weigh, Action.initializers]
  | callsReinit =>
      unfold Shared.initializers
      simp [weigh, Action.initializers]
  | triesLock there _ =>
      unfold Shared.initializers
      rw [there]
      simp [weigh, Action.initializers, Nat.add_assoc, Nat.add_comm, Nat.add_left_comm]
  | lockTaken there =>
      unfold Shared.initializers
      simp [weigh, Action.initializers]
  | entersEager =>
      unfold Shared.initializers
      simp [weigh, Action.initializers, Shared.enterEager]
      omega
  | publishesEager =>
      unfold Shared.initializers
      simp [weigh, Action.initializers]
  | _ => exact Nat.le_refl _

private theorem shutdowns_moves {cleanup : CleanupState}
    (moves : cleanup = shared.cleanup ∨ shared.cleanup = .idle ∧ cleanup = .requested) :
    (decide (cleanup = .idle) || decide (cleanup = .requested)).toNat ≤
      (decide (shared.cleanup = .idle) || decide (shared.cleanup = .requested)).toNat := by
  rcases moves with same | ⟨idle, requested⟩
  · rw [same]
  · rw [idle, requested]
    exact Nat.le_refl _

theorem shutdowns_le (acts : Acts toVec self shared action after more) :
    after.shutdowns + weigh Action.shutdowns more ≤ shared.shutdowns + action.shutdowns := by
  have vanishes (action : Action) : action.plain = true → action.shutdowns = 0 := shutdowns_plain
  cases acts with
  | canceled waits => exact Nat.add_le_add_left (canceled_le vanishes waits) _
  | sendLooks looks => exact Nat.add_le_add_left (send_le vanishes looks) _
  | deliveryLooks looks => exact Nat.add_le_add_left (delivery_le vanishes looks) _
  | physicalLooks looks =>
      cases looks with
      | alreadyStopped => exact Nat.le_add_right _ _
      | nothingToStop => exact Nat.le_add_right _ _
      | _ => exact Nat.le_refl _
  | reinitLooks looks => cases looks <;> exact Nat.le_refl _
  | locks takes _ => cases takes <;> exact Nat.le_refl _
  | notes notes =>
      cases notes with
      | @releases allowed => cases allowed <;> exact Nat.le_refl _
      | _ => exact Nat.le_refl _
  | fails => split <;> exact Nat.le_refl _
  | delivers =>
      unfold Shared.afterDelivery
      split <;> exact Nat.le_refl _
  | anchorIdle moves =>
      exact Nat.add_le_add_right (Nat.add_le_add_right (shutdowns_moves moves) _) _
  | anchorCancels =>
      unfold Shared.shutdowns
      simp [weigh, Action.shutdowns]
  | anchorSubmits moves =>
      unfold Shared.shutdowns
      rcases moves with same | same
      · simp [weigh, Action.shutdowns, same]
      · simp [weigh, Action.shutdowns, same]
  | unsures =>
      unfold Shared.shutdowns Shared.unsure
      simp [weigh, Action.shutdowns]
  | abandons moves =>
      exact Nat.add_le_add_right (Nat.add_le_add_right (shutdowns_moves moves) _) _
  | initCanceled =>
      unfold Shared.shutdowns Shared.cancelInit
      simp [weigh, Action.shutdowns]
  | entersInit =>
      unfold Shared.shutdowns
      simp [weigh, Action.shutdowns]
  | publishesInit =>
      unfold Shared.shutdowns
      split <;> simp [weigh, Action.shutdowns]
  | rejectsInit =>
      unfold Shared.shutdowns
      simp [weigh, Action.shutdowns]
  | cleanupCanceled =>
      unfold Shared.shutdowns Shared.cancelInit
      simp [weigh, Action.shutdowns]
  | cleanupUncertain =>
      unfold Shared.shutdowns
      simp [weigh, Action.shutdowns]
  | beginsCleanup requested _ =>
      unfold Shared.shutdowns
      rw [requested]
      simp [weigh, Action.shutdowns, Nat.add_comm]
  | shutsDown _ _ =>
      -- The right is spent by the call.
      unfold Shared.shutdowns
      simp [weigh, Action.shutdowns, Nat.add_assoc]
  | publishesCleanup finished =>
      unfold Shared.shutdowns
      rcases finished with same | same
      · simp [weigh, Action.shutdowns, same]
      · simp [weigh, Action.shutdowns, same]
  | callsReinit =>
      unfold Shared.shutdowns
      simp [weigh, Action.shutdowns]
  | handsOff moves =>
      unfold Shared.shutdowns
      rcases moves with same | same
      · simp [weigh, Action.shutdowns, same]
      · simp [weigh, Action.shutdowns, same]
  | follows moves =>
      exact Nat.add_le_add_right (Nat.add_le_add_right (shutdowns_moves moves) _) _
  | takesJob _ =>
      split <;> exact Nat.le_refl _
  | eagerUnavailable =>
      unfold Shared.shutdowns
      simp [weigh, Action.shutdowns]
  | entersEager =>
      unfold Shared.shutdowns Shared.enterEager
      rw [List.count_append]
      exact Nat.le_refl _
  | publishesEager =>
      unfold Shared.shutdowns
      simp [weigh, Action.shutdowns]
  | rejectsEager =>
      unfold Shared.shutdowns
      simp [weigh, Action.shutdowns, requestTerminal]
  | _ => exact Nat.le_refl _

end

/-! ### Callbacks that run -/

def Action.reserves : Action → Int
  | .permit _ => 1
  | .delivering _ => 1
  | _ => 0

section

variable {self : Nat} {shared after : Shared} {action : Action} {more : Program}

theorem reserves_le (acts : Acts toVec self shared action after more) :
    -(after.callbacks.active : Int) + weigh Action.reserves more ≤
      -(shared.callbacks.active : Int) + action.reserves := by
  cases acts with
  | canceled waits => cases waits <;> exact Int.le_refl _
  | sendLooks looks =>
      cases looks with
      | @awaitSucceeds use _ => cases use <;> exact Int.le_refl _
      | @awaitExpires _ initiating _ => cases initiating <;> exact Int.le_refl _
      | @awaitCanceled _ initiating => cases initiating <;> exact Int.le_refl _
      | _ => exact Int.le_refl _
  | deliveryLooks looks =>
      cases looks with
      | frames _ =>
          unfold Shared.frameOf
          split
          · exact Int.le_refl _
          · split <;> exact Int.le_refl _
      | _ => exact Int.le_refl _
  | physicalLooks looks => cases looks <;> exact Int.le_refl _
  | reinitLooks looks => cases looks <;> exact Int.le_refl _
  | locks takes _ => cases takes <;> exact Int.le_refl _
  | notes notes =>
      cases notes with
      | @releases allowed => cases allowed <;> exact Int.le_refl _
      | _ => exact Int.le_refl _
  | fails => split <;> exact Int.le_refl _
  | enters _ =>
      simp [weigh, Action.reserves]
  | permitRefused =>
      simp [weigh, Action.reserves, Shared.leaveCallback]
      omega
  | delivers =>
      unfold Shared.afterDelivery
      split
      · simp [weigh, Action.reserves, Shared.leaveCallback]
        omega
      · simp [weigh, Action.reserves, Shared.leaveCallback]
        omega
  | pushesBack =>
      simp [weigh, Action.reserves, Shared.leaveCallback]
      omega
  | deliveryFails =>
      simp [weigh, Action.reserves, Shared.leaveCallback]
      omega
  | takesJob _ => split <;> exact Int.le_refl _
  | publishesInit => split <;> exact Int.le_refl _
  | _ => exact Int.le_refl _

end

/-! ### What the calls follow on -/

def Action.runs : Action → Bool
  | .initReturns => true
  | .eagerReturns => true
  | .reinitReturns => true
  | .shutdownReturns => true
  | _ => false

def Action.delivers : Action → Bool
  | .delivering _ => true
  | _ => false

def Action.drainsCallbacks : Action → Bool
  | .awaitDrained => true
  | _ => false

def Action.publishesValid : Action → Bool
  | .publishInit (.ok ()) => true
  | .publishEager (.ok ()) => true
  | _ => false

def In (test : Action → Bool) (program : Program) : Prop := program.head?.any test = true

section

variable {self : Nat} {shared after : Shared} {action : Action} {more : Program}

private theorem closed_stays (acts : Acts toVec self shared action after more)
    (closed : shared.callbacks.closed = true) : after.callbacks.closed = true := by
  cases acts with
  | notes notes => cases notes <;> exact closed
  | closes => rfl
  | closesSync => rfl
  | _ => exact closed

private theorem active_le (acts : Acts toVec self shared action after more)
    (closed : shared.callbacks.closed = true) :
    after.callbacks.active ≤ shared.callbacks.active := by
  cases acts with
  | notes notes => cases notes <;> exact Nat.le_refl _
  | enters entry =>
      rw [closed] at entry
      cases entry
  | permitRefused => exact Nat.sub_le _ _
  | delivers => exact Nat.sub_le _ _
  | pushesBack => exact Nat.sub_le _ _
  | deliveryFails => exact Nat.sub_le _ _
  | _ => exact Nat.le_refl _

private theorem drains_closed (acts : Acts toVec self shared action after more)
    (drains : more.any Action.drainsCallbacks = true) : after.callbacks.closed = true := by
  cases acts with
  | closesSync => rfl
  | canceled _ => cases drains
  | sendLooks looks =>
      cases looks with
      | @awaitSucceeds use _ => cases use <;> cases drains
      | @awaitExpires _ initiating _ => cases initiating <;> cases drains
      | @awaitCanceled _ initiating => cases initiating <;> cases drains
      | _ => cases drains
  | deliveryLooks looks =>
      cases looks with
      | frames _ =>
          unfold Shared.frameOf at drains
          split at drains
          · cases drains
          · split at drains <;> cases drains
      | _ => cases drains
  | physicalLooks looks => cases looks <;> cases drains
  | reinitLooks looks => cases looks <;> cases drains
  | locks takes _ => cases takes <;> cases drains
  | notes notes =>
      cases notes with
      | @releases allowed => cases allowed <;> cases drains
      | _ => cases drains
  | fails => split at drains <;> cases drains
  | delivers =>
      unfold Shared.afterDelivery at drains
      split at drains <;> cases drains
  | takesJob _ => split at drains <;> cases drains
  | publishesInit => split at drains <;> cases drains
  | _ => cases drains

private theorem calls_grow (acts : Acts toVec self shared action after more) :
    after.calls = shared.calls ∨ ∃ call, after.calls = shared.calls ++ [call] ∧
      (call = .shutdown → action = .awaitDrained ∧ shared.callbacks.active = 0 ∧
        after.callbacks = shared.callbacks ∧ shared.module.isSome = true) := by
  cases acts with
  | notes notes => cases notes <;> exact .inl rfl
  | entersInit => exact .inr ⟨_, rfl, fun same => nomatch same⟩
  | publishesInit => exact .inr ⟨_, rfl, fun same => nomatch same⟩
  | shutsDown drained there => exact .inr ⟨_, rfl, fun _ => ⟨rfl, drained, rfl, there⟩⟩
  | callsReinit => exact .inr ⟨_, rfl, fun same => nomatch same⟩
  | entersEager => exact .inr ⟨_, rfl, fun same => nomatch same⟩
  | publishesEager => exact .inr ⟨_, rfl, fun same => nomatch same⟩
  | _ => exact .inl rfl

private theorem module_from (acts : Acts toVec self shared action after more)
    (there : after.module.isSome = true) :
    shared.module.isSome = true ∨ more.any Action.publishesValid = true := by
  cases acts with
  | notes notes => cases notes <;> exact .inl there
  | initReturned => exact .inr rfl
  | eagerReturned => exact .inr rfl
  | _ => exact .inl there

private theorem published_by (acts : Acts toVec self shared action after more)
    (publishes : action.publishesValid = true) : .published ∈ after.calls := by
  cases acts with
  | canceled waits => cases waits <;> cases publishes
  | sendLooks looks => cases looks <;> cases publishes
  | deliveryLooks looks => cases looks <;> cases publishes
  | physicalLooks looks => cases looks <;> cases publishes
  | reinitLooks looks => cases looks <;> cases publishes
  | locks takes _ => cases takes <;> cases publishes
  | notes notes => cases notes <;> cases publishes
  | publishesInit => exact List.mem_append_right _ (List.mem_singleton.mpr rfl)
  | publishesEager => exact List.mem_append_right _ (List.mem_singleton.mpr rfl)
  | _ => cases publishes

end

/-! ### Every reachable transport -/

variable {state : Tasks Shared Program}

private theorem outside_same (event : Outside) (shared : Shared) :
    (outside event shared).callbacks = shared.callbacks ∧
      (outside event shared).calls = shared.calls ∧
        (outside event shared).module = shared.module := by
  cases event <;> exact ⟨rfl, rfl, rfl⟩

theorem guards_lighten :
    Tasks.Lightens (kind toVec) (fun _ _ => True) Shared.guards (fun _ => weigh Action.guarded) := by
  refine lightens_of_acts ?_ (fun _ _ _ _ _ _ _ _ _ acts => guards_le acts) ?_
  · intro _ call
    cases call <;> rfl
  · intro event shared
    cases event <;> exact Nat.le_refl _

theorem initializers_lighten :
    Tasks.Lightens (kind toVec) (fun _ _ => True) Shared.initializers (fun _ => weigh Action.initializers) := by
  refine lightens_of_acts ?_ (fun _ _ _ _ _ _ _ _ _ acts => initializers_le acts) ?_
  · intro _ call
    cases call <;> rfl
  · intro event shared
    cases event <;> exact Nat.le_refl _

theorem shutdowns_lighten :
    Tasks.Lightens (kind toVec) (fun _ _ => True) Shared.shutdowns (fun _ => weigh Action.shutdowns) := by
  refine lightens_of_acts ?_ (fun _ _ _ _ _ _ _ _ _ acts => shutdowns_le acts) ?_
  · intro _ call
    cases call <;> rfl
  · intro event shared
    cases event <;> exact Nat.le_refl _

theorem reserves_lighten :
    Tasks.Lightens (kind toVec) (fun _ _ => True) (fun shared => -(shared.callbacks.active : Int))
      (fun _ => weigh Action.reserves) := by
  refine lightens_of_acts ?_ (fun _ _ _ _ _ _ _ _ _ acts => reserves_le acts) ?_
  · intro _ call
    cases call <;> rfl
  · intro event shared
    cases event <;> exact Int.le_refl _

theorem guards_one (reached : (system toVec).Reachable state) :
    state.shared.guards + Tasks.weight (fun _ => weigh Action.guarded) state.tasks ≤ 1 := by
  refine Tasks.total_le_of_unguarded guards_lighten ?_ reached
  intro shared fresh
  unfold Shared.guards
  rw [fresh.lifecycle.1, fresh.lifecycle.2.1]
  exact Nat.le_refl _

theorem initializers_one (reached : (system toVec).Reachable state) :
    state.shared.initializers + Tasks.weight (fun _ => weigh Action.initializers) state.tasks ≤
      1 := by
  refine Tasks.total_le_of_unguarded initializers_lighten ?_ reached
  intro shared fresh
  unfold Shared.initializers
  rw [fresh.lifecycle.1, fresh.history.1]
  rcases fresh.one with none | none
  · rw [none]
    cases shared.eagerInitializer <;> decide
  · rw [none]
    cases shared.initializer <;> decide

theorem shutdowns_one (reached : (system toVec).Reachable state) :
    state.shared.shutdowns + Tasks.weight (fun _ => weigh Action.shutdowns) state.tasks ≤ 1 := by
  refine Tasks.total_le_of_unguarded shutdowns_lighten ?_ reached
  intro shared fresh
  unfold Shared.shutdowns
  rw [fresh.physical.2.1, fresh.history.1]
  exact Nat.le_refl _

theorem reserves_counted (reached : (system toVec).Reachable state) :
    Tasks.weight (fun _ => weigh Action.reserves) state.tasks ≤
      (state.shared.callbacks.active : Int) := by
  have bounded : -(state.shared.callbacks.active : Int) +
      Tasks.weight (fun _ => weigh Action.reserves) state.tasks ≤ 0 := by
    refine Tasks.total_le_of_unguarded reserves_lighten ?_ reached
    intro shared fresh
    rw [fresh.callbacks]
    exact Int.le_refl _
  omega

private structure Closing (state : Tasks Shared Program) : Prop where
  waits : ∀ id task, state.tasks.lookup id = some task →
    task.any Action.drainsCallbacks = true → state.shared.callbacks.closed = true
  after : .shutdown ∈ state.shared.calls →
    state.shared.callbacks.closed = true ∧ state.shared.callbacks.active = 0

private theorem reachable_closing (reached : (system toVec).Reachable state) :
    Closing state := by
  apply reached.invariant
  · rintro first ⟨fresh, empty⟩
    refine ⟨?_, ?_⟩
    · intro id task found
      rw [empty] at found
      cases found
    · intro called
      rw [fresh.history.1] at called
      cases called
  · rintro before event after rfl held
    have moved := Tasks.next_moved (kind toVec) before event
    generalize Tasks.next (kind toVec) before event = next at moved
    cases moved with
    | still => exact held
    | @started id call vacant =>
        refine ⟨?_, held.after⟩
        intro other task found drains
        dsimp only at found
        rw [Table.lookup_insert_eq] at found
        split at found
        · cases found
          cases call <;> cases drains
        · exact held.waits other task found drains
    | @around event =>
        obtain ⟨callbacks, calls, _⟩ := outside_same event before.shared
        refine ⟨?_, ?_⟩
        · intro id task found drains
          exact (congrArg CallbackGate.closed callbacks).trans (held.waits id task found drains)
        · intro called
          dsimp only [kind] at called ⊢
          rw [calls] at called
          rw [callbacks]
          exact held.after called
    | @stepped id choice task stepped shared present taken =>
        obtain ⟨action, rest, more, rfl, rfl, acts⟩ := step_acts taken
        refine ⟨?_, ?_⟩
        · intro other bystander found drains
          dsimp only at found ⊢
          rw [Table.lookup_insert_eq] at found
          split at found
          · cases found
            rw [List.any_append, Bool.or_eq_true] at drains
            rcases drains with new | old
            · exact drains_closed acts new
            · refine closed_stays acts (held.waits id _ present ?_)
              rw [List.any_cons, old, Bool.or_true]
          · exact closed_stays acts (held.waits other bystander found drains)
        · intro called
          dsimp only at called ⊢
          have kept (old : .shutdown ∈ before.shared.calls) :
              shared.callbacks.closed = true ∧ shared.callbacks.active = 0 := by
            obtain ⟨closed, drained⟩ := held.after old
            refine ⟨closed_stays acts closed, Nat.le_zero.mp ?_⟩
            exact drained ▸ active_le acts closed
          rcases calls_grow acts with same | ⟨call, grown, shuts⟩
          · exact kept (same ▸ called)
          · rw [grown] at called
            rcases List.mem_append.mp called with old | new
            · exact kept old
            · obtain ⟨waits, drained, callbacks, _⟩ := shuts (List.mem_singleton.mp new).symm
              rw [callbacks]
              refine ⟨held.waits id _ present ?_, drained⟩
              rw [waits]
              rfl

private theorem le_weigh_of_any {measure : Action → Nat} {test : Action → Bool}
    (measured : ∀ action, test action = true → 1 ≤ measure action) {program : Program}
    (any : program.any test = true) : 1 ≤ weigh measure program := by
  induction program with
  | nil => cases any
  | cons head rest ih =>
      rw [List.any_cons, Bool.or_eq_true] at any
      rw [weigh_cons]
      rcases any with first | later
      · exact Nat.le_trans (measured head first) (Nat.le_add_right _ _)
      · exact Nat.le_trans (ih later) (Nat.le_add_left _ _)

private theorem own_guarded_le {tasks : Table Nat Program} {id : Nat} {task : Program}
    (present : tasks.lookup id = some task) :
    weigh Action.guarded task ≤ Tasks.weight (fun _ => weigh Action.guarded) tasks :=
  Tasks.own_le_weight (fun _ task => Nat.zero_le (weigh Action.guarded task)) present

private theorem both_guarded_le {tasks : Table Nat Program} {id other : Nat}
    {task bystander : Program} (present : tasks.lookup id = some task)
    (beside : tasks.lookup other = some bystander) (different : other ≠ id) :
    weigh Action.guarded task + weigh Action.guarded bystander ≤
      Tasks.weight (fun _ => weigh Action.guarded) tasks :=
  Tasks.own_add_own_le_weight (fun _ task => Nat.zero_le (weigh Action.guarded task)) present
    beside different

private theorem publishes_guarded (action : Action)
    (publishes : action.publishesValid = true) : 1 ≤ action.guarded := by
  cases action <;> first | exact Nat.le_refl _ | cases publishes

private theorem runs_guarded (action : Action) (runs : action.runs = true) :
    1 ≤ action.guarded := by
  cases action <;> first | exact Nat.le_refl _ | cases runs

private theorem reserves_nonneg (program : Program) : 0 ≤ weigh Action.reserves program := by
  unfold weigh
  refine List.sum_nonneg ?_
  intro value member
  obtain ⟨action, _, rfl⟩ := List.mem_map.mp member
  unfold Action.reserves
  split <;> decide

private theorem any_of_in {test : Action → Bool} {program : Program} (within : In test program) :
    program.any test = true := by
  cases program with
  | nil => cases within
  | cons head rest =>
      have first : test head = true := within
      rw [List.any_cons, first, Bool.true_or]

/-- A vtable is published as valid, or a task is about to; and so is every shutdown
after the publication. -/
private structure Backed (state : Tasks Shared Program) : Prop where
  module : state.shared.module.isSome = true → .published ∈ state.shared.calls ∨
    ∃ id task, state.tasks.lookup id = some task ∧
      task.any Action.publishesValid = true
  ordered : ∀ early late, state.shared.calls = early ++ .shutdown :: late →
    .published ∈ early

private theorem published_of_waits (reached : (system toVec).Reachable state)
    (backed : Backed state) (there : state.shared.module.isSome = true) {id : Nat}
    {rest : Program} (present : state.tasks.lookup id = some (.awaitDrained :: rest)) :
    .published ∈ state.shared.calls := by
  rcases backed.module there with published | ⟨other, task, beside, publishes⟩
  · exact published
  · have one := guards_one reached
    by_cases same : other = id
    · rw [same, present] at beside
      cases beside
      have own := own_guarded_le present
      have late : 1 ≤ weigh Action.guarded rest :=
        le_weigh_of_any publishes_guarded publishes
      rw [weigh_cons] at own
      have first : Action.guarded .awaitDrained = 1 := rfl
      omega
    · have both := both_guarded_le present beside same
      have theirs : 1 ≤ weigh Action.guarded task :=
        le_weigh_of_any publishes_guarded publishes
      rw [weigh_cons] at both
      have first : Action.guarded .awaitDrained = 1 := rfl
      omega

private theorem reachable_backed (reached : (system toVec).Reachable state) :
    Backed state := by
  apply reached.invariant_with (fun _ reached => reached)
  · rintro first ⟨fresh, _⟩
    refine ⟨?_, ?_⟩
    · intro there
      rw [fresh.module] at there
      cases there
    · intro early late split
      rw [fresh.history.1] at split
      exact absurd split.symm (List.append_ne_nil_of_right_ne_nil _ (List.cons_ne_nil _ _))
  · rintro before event after reached rfl backed
    have moved := Tasks.next_moved (kind toVec) before event
    generalize Tasks.next (kind toVec) before event = next at moved
    cases moved with
    | still => exact backed
    | @started id call vacant =>
        refine ⟨?_, backed.ordered⟩
        intro there
        rcases backed.module there with published | ⟨other, task, present, publishes⟩
        · exact .inl published
        · refine .inr ⟨other, task, ?_, publishes⟩
          rw [Table.lookup_insert_eq, if_neg]
          · exact present
          · intro same
            rw [same, vacant] at present
            cases present
    | @around event =>
        obtain ⟨_, calls, module⟩ := outside_same event before.shared
        refine ⟨?_, ?_⟩
        · intro there
          dsimp only [kind] at there ⊢
          rw [module] at there
          rw [calls]
          exact backed.module there
        · intro early late split
          dsimp only [kind] at split
          rw [calls] at split
          exact backed.ordered early late split
    | @stepped id choice task stepped shared present taken =>
        obtain ⟨action, rest, more, rfl, rfl, acts⟩ := step_acts taken
        have grows := calls_grow acts
        refine ⟨?_, ?_⟩
        · intro there
          have kept (old : .published ∈ before.shared.calls) : .published ∈ shared.calls := by
            rcases grows with same | ⟨call, grown, _⟩
            · exact same ▸ old
            · exact grown ▸ List.mem_append_left _ old
          rcases module_from acts there with before' | publishes
          · rcases backed.module before' with published | ⟨other, bystander, beside, publishes⟩
            · exact .inl (kept published)
            · by_cases same : other = id
              · rw [same, present] at beside
                cases beside
                rw [List.any_cons, Bool.or_eq_true] at publishes
                rcases publishes with now | later
                · exact .inl (published_by acts now)
                · refine .inr ⟨id, more ++ rest, AList.lookup_insert _, ?_⟩
                  rw [List.any_append, later, Bool.or_true]
              · refine .inr ⟨other, bystander, ?_, publishes⟩
                rw [Table.lookup_insert_eq, if_neg same]
                exact beside
          · refine .inr ⟨id, more ++ rest, AList.lookup_insert _, ?_⟩
            rw [List.any_append, publishes, Bool.true_or]
        · intro early late split
          dsimp only at split
          rcases grows with same | ⟨call, grown, shuts⟩
          · exact backed.ordered early late (same ▸ split)
          · rw [grown] at split
            rcases List.eq_nil_or_concat late with rfl | ⟨others, last, rfl⟩
            · obtain ⟨earlier, now⟩ := List.append_inj' split rfl
              obtain ⟨waits, _, _, there⟩ := shuts (List.cons.inj now).1
              subst waits
              rw [← earlier]
              exact published_of_waits reached backed there present
            · rw [List.concat_eq_append, ← List.cons_append, ← List.append_assoc] at split
              exact backed.ordered early others (List.append_inj' split rfl).1

/-! ### The calls exclude each other -/

/-- The initializer and the shutdown are called at most once, the shutdown behind a
valid initialization; no two calls of the lifecycle run at once; and no delivery runs
from the shutdown on. -/
structure Exclusive (state : Tasks Shared Program) : Prop where
  initOnce : state.shared.calls.count .init ≤ 1
  shutdownOnce : state.shared.calls.count .shutdown ≤ 1
  published : ∀ early late, state.shared.calls = early ++ .shutdown :: late →
    .published ∈ early
  apart : ∀ id other task bystander, state.tasks.lookup id = some task →
    state.tasks.lookup other = some bystander → In Action.runs task →
      In Action.runs bystander → id = other
  quiet : .shutdown ∈ state.shared.calls → ∀ id task, state.tasks.lookup id = some task →
    ¬ In Action.delivers task

theorem native_calls_exclusive (reached : (system toVec).Reachable state) :
    Exclusive state := by
  have initializers := initializers_one reached
  have shutdowns := shutdowns_one reached
  refine ⟨?_, ?_, (reachable_backed reached).ordered, ?_, ?_⟩
  · unfold Shared.initializers at initializers
    omega
  · unfold Shared.shutdowns at shutdowns
    omega
  · intro id other task bystander present beside runs alsoRuns
    refine Classical.byContradiction ?_
    intro different
    have guards := guards_one reached
    have both := both_guarded_le present beside (fun same => different same.symm)
    have own := le_weigh_of_any runs_guarded (any_of_in runs)
    have theirs := le_weigh_of_any runs_guarded (any_of_in alsoRuns)
    omega
  · intro called id task present within
    have drained := ((reachable_closing reached).after called).2
    have counted := reserves_counted reached
    rw [drained] at counted
    have own := Tasks.own_le_weight (fun _ => reserves_nonneg) present
    cases task with
    | nil => cases within
    | cons head rest =>
        have delivers : head.delivers = true := within
        have others := reserves_nonneg rest
        rw [weigh_cons] at own
        cases head <;> cases delivers
        change 1 + weigh Action.reserves rest ≤ _ at own
        omega

/-! ### A module that is initialized, called and stopped -/

/-- The transport of a lazy module. -/
def lazyTransport : Shared :=
  { label := "voice", config := [], controller := none, controllerLive := false,
    preReadyConfidentialRoutes := [], brokerRouting := true,
    native := ⟨true, false, false, false⟩, faulted := false, initFailed := false,
    stopped := false, admissionClosed := false, initStarted := false, ready := false,
    init := .deferred, cleanup := .idle, job := false, result := none, code := none,
    gate := some true, initializer := true, eagerInitializer := false, workers := [],
    locked := false, lifecyclePending := false, stopTaskSpawned := false, module := none,
    callbacks := ⟨false, 0⟩, hostCallbacks := false, hostCallbacksDrained := false,
    pending := [], drainStarted := false, drainers := 0, inbound := true, channel := [],
    inflight := 0, calls := [], sent := [], offered := [], delivered := [], discarded := [],
    received := [] }

theorem lazyTransport_fresh : Fresh lazyTransport where
  native := rfl
  flags := ⟨rfl, rfl, rfl, rfl, rfl, rfl⟩
  physical := ⟨rfl, rfl, rfl, rfl, rfl⟩
  gate := rfl
  one := .inr rfl
  lifecycle := ⟨rfl, rfl, rfl, rfl⟩
  module := rfl
  callbacks := rfl
  queue := ⟨rfl, rfl, rfl⟩
  inbound := ⟨rfl, rfl, rfl⟩
  history := ⟨rfl, rfl, rfl, rfl, rfl, rfl⟩

def wholeVtable : Vtable := ⟨moduleVtableSize, true, true⟩

def turns (id : Nat) (choices : List Choice) : List (Tasks.Event Call Choice Outside) :=
  choices.map (fun choice => .advance id choice)

def replay (toVec : Message → Except String Bytes)
    (events : List (Tasks.Event Call Choice Outside)) : Tasks Shared Program :=
  events.foldl (Tasks.next (kind toVec)) ⟨lazyTransport, ∅⟩

theorem replay_reachable (toVec : Message → Except String Bytes)
    (events : List (Tasks.Event Call Choice Outside)) :
    (system toVec).Reachable (replay toVec events) :=
  .of_foldl ⟨lazyTransport_fresh, rfl⟩ events

def initializing (message : Message) : List (Tasks.Event Call Choice Outside) :=
  .start 0 (.send message) ::
    turns 0 [.proceed, .proceed, .proceed, .spawned true] ++
      .start 1 .physicalWorker ::
        turns 1 [.proceed, .proceed, .proceed, .initialized (.ok wholeVtable), .proceed,
          .proceed, .proceed]

def readying : List (Tasks.Event Call Choice Outside) :=
  .start 2 .hostReady :: turns 2 [.proceed]

def delivering (id : Nat) : List (Tasks.Event Call Choice Outside) :=
  turns id [.proceed, .proceed, .proceed, .proceed, .returned TB_OK]

def stopping : List (Tasks.Event Call Choice Outside) :=
  .start 3 .stop :: turns 3 [.proceed, .proceed, .proceed, .proceed, .proceed, .proceed,
    .spawned true] ++
      .start 4 .physicalWorker :: turns 4 [.proceed, .proceed, .proceed, .proceed, .proceed,
        .proceed, .proceed, .proceed]

def stoppedTransport : Tasks Shared Program :=
  replay (fun _ => .ok []) (initializing ModuleBus.voiceCall ++ readying ++
    turns 0 [.proceed, .proceed, .proceed] ++ delivering 0 ++ stopping)

theorem stoppedTransport_exclusive :
    stoppedTransport.shared.calls = [.init, .published, .shutdown] ∧
      stoppedTransport.shared.delivered = [0] ∧ Exclusive stoppedTransport :=
  ⟨by decide, by decide, native_calls_exclusive (replay_reachable _ _)⟩

end ModuleTransport

end TinyBus
