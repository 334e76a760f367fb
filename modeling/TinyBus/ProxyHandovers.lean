import TinyBus.Reconfiguration

/-
What the caller of a handed-out proxy may rely on.  One caller at a time is past
the transition lock, so what it found or wrote stays as it is until it answers,
unless the module is invalidated in between: that takes no turn, and the
fingerprint of a call under way is written over it.
-/

namespace TinyBus

open TransitionSystem

/-- The proxy is for the last acknowledged configuration, up to its fingerprint, of
a module that was not invalidated since, and no call failed or was abandoned since. -/
structure Handover.Current {Config Fingerprint : Type} (of : Config → Option Fingerprint)
    (handover : Handover Config) : Prop where
  acknowledged : ∃ last, handover.acknowledged = some last ∧ of last = of handover.config
  settled : handover.unsettled = false
  valid : handover.invalidated = false

def ProxyPhase.exposed {Config : Type} : ProxyPhase Config → Bool
  | .reinit _ _ => true
  | .memberCalling _ _ => true
  | .proxying _ => true
  | _ => false

def ProxyPhase.reconfigures {Config : Type} : ProxyPhase Config → Bool
  | .reinit _ _ => true
  | .memberEnsuring _ _ => true
  | .memberProxying _ _ => true
  | .memberCalling _ _ => true
  | .sleeping _ _ => true
  | _ => false

namespace ReconfigurableModule

variable {Config Fingerprint : Type}

/-- The module is invalidated only while nobody waits for its answer or a proxy. -/
def Quiet (state : State Config Fingerprint) : Event Config → Prop
  | .outside _ => ∀ id caller, state.tasks.lookup id = some caller →
      caller.phase.exposed = false
  | _ => True

/-- The module holds a configuration with this fingerprint; where it is calm,
nothing invalidated it. -/
structure Holds (calm : Prop) (of : Config → Option Fingerprint)
    (module : ReconfigurableModule Config Fingerprint) (print : Option Fingerprint) :
    Prop where
  acknowledged : ∃ last, module.acknowledged = some last ∧ of last = print
  settled : module.unsettled = false
  valid : calm → module.invalidated = false

structure Coherent (calm : Prop) (of : Config → Option Fingerprint)
    (module : ReconfigurableModule Config Fingerprint) : Prop where
  remembered : ∀ fingerprint, module.fingerprint = some fingerprint →
    Holds calm of module (some fingerprint)
  handed : ∀ handover ∈ module.handed,
    (∃ last, handover.acknowledged = some last ∧ of last = of handover.config) ∧
      handover.unsettled = false ∧ (calm → handover.invalidated = false)

theorem Coherent.keep {calm : Prop} {of : Config → Option Fingerprint}
    {module : ReconfigurableModule Config Fingerprint} (coherent : Coherent calm of module)
    (transition : Option Nat) (uncertain faulted : Bool) :
    Coherent calm of
      { module with
        transition := transition, memberUncertain := uncertain, markedFaulted := faulted } := by
  refine ⟨?_, coherent.handed⟩
  intro fingerprint remembered
  have holds := coherent.remembered fingerprint remembered
  exact ⟨holds.acknowledged, holds.settled, holds.valid⟩

theorem coherent_of_initial {calm : Prop} {of : Config → Option Fingerprint}
    {module : ReconfigurableModule Config Fingerprint} (initial : Initial of module) :
    Coherent calm of module := by
  rcases initial with rfl | ⟨config, fingerprint, own, rfl⟩
  · refine ⟨?_, ?_⟩
    · intro print remembered
      cases remembered
    · intro handover among
      cases among
  · refine ⟨?_, ?_⟩
    · intro print remembered
      cases remembered
      exact ⟨⟨config, rfl, own⟩, rfl, fun _ => rfl⟩
    · intro handover among
      cases among

end ReconfigurableModule

namespace ProxyCaller

open ReconfigurableModule

variable {Config Fingerprint : Type}

structure Knows (calm : Prop) (of : Config → Option Fingerprint) (id : Nat)
    (shared : Shared Config Fingerprint) (caller : ProxyCaller Config) : Prop where
  lock : hasLock caller.phase = true → shared.transition = some id
  cleared : caller.phase.reconfigures = true → shared.fingerprint = none
  uninterrupted : caller.phase.reconfigures = true → caller.phase.exposed = true → calm →
    shared.interrupted = false
  holds : ∀ config, caller.phase = .proxying config → Holds calm of shared (of config)

structure Leaves (calm : Prop) (of : Config → Option Fingerprint) (id : Nat)
    (after : Shared Config Fingerprint × ProxyCaller Config) : Prop where
  coherent : Coherent calm of after.1
  knows : Knows calm of id after.1 after.2

variable {calm : Prop} {of : Config → Option Fingerprint} {id : Nat}
  {shared : Shared Config Fingerprint} {caller : ProxyCaller Config}

variable {phase : ProxyPhase Config} {after : Shared Config Fingerprint × ProxyCaller Config}
  {choice : ProxyChoice Config} {settings : ReconfigureSettings}

theorem hasLock_of_reconfigures (reconfigures : phase.reconfigures = true) :
    hasLock phase = true := by
  cases phase <;> first | rfl | cases reconfigures

theorem Knows.of_unlocked (unlocked : hasLock caller.phase = false) :
    Knows calm of id shared caller := by
  refine ⟨?_, ?_, ?_, ?_⟩
  · intro locks
    rw [unlocked] at locks
    cases locks
  · intro reconfigures
    rw [hasLock_of_reconfigures reconfigures] at unlocked
    cases unlocked
  · intro reconfigures
    rw [hasLock_of_reconfigures reconfigures] at unlocked
    cases unlocked
  · intro config proxying
    rw [proxying] at unlocked
    cases unlocked

theorem Knows.of_waiting (locked : shared.transition = some id)
    (waits : caller.phase.reconfigures = false)
    (early : ∀ config, caller.phase ≠ .proxying config) : Knows calm of id shared caller := by
  refine ⟨fun _ => locked, ?_, ?_, ?_⟩
  · intro reconfigures
    rw [waits] at reconfigures
    cases reconfigures
  · intro reconfigures
    rw [waits] at reconfigures
    cases reconfigures
  · intro config proxying
    exact absurd proxying (early config)

theorem coherent_of_cleared (cleared : shared.fingerprint = none)
    (handed : ∀ handover ∈ shared.handed,
      (∃ last, handover.acknowledged = some last ∧ of last = of handover.config) ∧
        handover.unsettled = false ∧ (calm → handover.invalidated = false)) :
    Coherent calm of shared := by
  refine ⟨?_, handed⟩
  intro fingerprint remembered
  rw [cleared] at remembered
  cases remembered

theorem finish_leaves (result : Except (ModuleCallError × Reason) Unit)
    (coherent : Coherent calm of shared) (locked : shared.transition = some id) :
    Leaves calm of id (finish shared caller result) := by
  unfold finish
  cases caller.config with
  | some config => exact ⟨coherent.keep none _ _, .of_unlocked rfl⟩
  | none => exact ⟨coherent, .of_waiting locked rfl (by simp)⟩

theorem giveUp_leaves (settings : ReconfigureSettings) (failure : ReconfigureFailure)
    (reported : Option Reason) (coherent : Coherent calm of shared)
    (locked : shared.transition = some id) :
    Leaves calm of id (giveUp settings shared caller failure reported) := by
  unfold giveUp
  dsimp only
  split
  · exact finish_leaves _ (coherent.keep _ _ true) locked
  · exact finish_leaves _ coherent locked

theorem proxyLocked_leaves (config : Config) (known enabled : Bool)
    (coherent : Coherent calm of shared) (locked : shared.transition = some id) :
    Leaves calm of id (proxyLocked shared caller config known enabled) := by
  unfold proxyLocked
  split
  · exact finish_leaves _ coherent locked
  · split
    · exact finish_leaves _ coherent locked
    · split
      · exact finish_leaves _ coherent locked
      · exact ⟨coherent, .of_waiting locked rfl (by simp [goTo])⟩

theorem goTo_leaves (cleared : shared.fingerprint = none) (coherent : Coherent calm of shared)
    (locked : shared.transition = some id)
    (early : phase.exposed = false) : Leaves calm of id (shared, caller.goTo phase) := by
  refine ⟨coherent, fun _ => locked, fun _ => cleared, ?_, ?_⟩
  · intro _ exposed
    rw [show (caller.goTo phase).phase = phase from rfl, early] at exposed
    cases exposed
  · intro config proxying
    rw [show phase = .proxying config from proxying] at early
    cases early

theorem begun_leaves (cleared : shared.fingerprint = none) (coherent : Coherent calm of shared)
    (locked : shared.transition = some id) (reconfigures : phase.reconfigures = true) :
    Leaves calm of id (shared.begun, caller.goTo phase) := by
  refine ⟨coherent_of_cleared cleared coherent.handed, fun _ => locked, fun _ => cleared,
    fun _ _ _ => rfl, ?_⟩
  intro config proxying
  rw [show phase = .proxying config from proxying] at reconfigures
  cases reconfigures

theorem attempt_leaves (settings : ReconfigureSettings) (config : Config) (number : Nat)
    (known enabled : Bool) (cleared : shared.fingerprint = none)
    (coherent : Coherent calm of shared) (locked : shared.transition = some id) :
    Leaves calm of id (attempt settings shared caller config number known enabled) := by
  unfold attempt
  cases settings.strategy with
  | lifecycle => exact begun_leaves cleared coherent locked rfl
  | member name =>
      dsimp only
      split
      · exact giveUp_leaves settings _ _ coherent locked
      · exact goTo_leaves cleared coherent locked rfl

theorem proxying_leaves {config : Config} (coherent : Coherent calm of shared)
    (locked : shared.transition = some id) (holds : Holds calm of shared (of config)) :
    Leaves calm of id (shared, caller.goTo (.proxying config)) := by
  refine ⟨coherent, fun _ => locked, ?_, ?_, ?_⟩
  · intro reconfigures
    cases reconfigures
  · intro reconfigures
    cases reconfigures
  · intro other proxying
    cases proxying
    exact holds

theorem compare_leaves [DecidableEq Fingerprint] (settings : ReconfigureSettings)
    (config : Config) (encoded known enabled : Bool) (coherent : Coherent calm of shared)
    (locked : shared.transition = some id) :
    Leaves calm of id (compare settings of shared caller config encoded known enabled) := by
  unfold compare
  split
  · exact finish_leaves _ coherent locked
  · rename_i fingerprint own
    split
    · rename_i remembered
      refine proxying_leaves coherent locked ?_
      rw [own]
      exact coherent.remembered fingerprint remembered
    · have emptied : Coherent calm of { shared with fingerprint := none } :=
        coherent_of_cleared rfl coherent.handed
      dsimp only
      split
      · exact finish_leaves _ emptied locked
      · exact attempt_leaves settings config 0 known enabled rfl emptied locked

theorem answered_leaves (settings : ReconfigureSettings) (config : Config) (number : Nat)
    (outcome : Except ReconfigureFailure Unit) (known enabled : Bool)
    (cleared : shared.fingerprint = none) (uninterrupted : calm → shared.interrupted = false)
    (coherent : Coherent calm of shared) (locked : shared.transition = some id) :
    Leaves calm of id
      (answered settings of shared caller config number outcome known enabled) := by
  unfold answered
  cases outcome with
  | ok done =>
      have holds : Holds calm of (shared.acknowledge config (of config)) (of config) :=
        ⟨⟨config, rfl, rfl⟩, rfl, uninterrupted⟩
      refine proxying_leaves ⟨?_, coherent.handed⟩ locked holds
      intro fingerprint remembered
      have own : of config = some fingerprint := remembered
      rw [own] at holds
      exact own ▸ holds
  | error failure =>
      have failed : Coherent calm of { shared with unsettled := true } :=
        coherent_of_cleared cleared coherent.handed
      dsimp only
      split
      · split
        · exact goTo_leaves cleared failed locked rfl
        · exact attempt_leaves settings config (number + 1) known enabled cleared failed locked
      · exact giveUp_leaves settings failure none failed locked

theorem dropped_coherent (knows : Knows calm of id shared caller)
    (coherent : Coherent calm of shared) :
    Coherent calm of (dropped shared caller.phase) := by
  cases phase : caller.phase with
  | reinit config number =>
      have cleared := knows.cleared (by rw [phase]; rfl)
      exact coherent_of_cleared cleared coherent.handed
  | memberCalling config number =>
      have cleared := knows.cleared (by rw [phase]; rfl)
      exact coherent_of_cleared cleared coherent.handed
  | _ => exact coherent

@[simp] theorem dropped_transition (phase : ProxyPhase Config) :
    (dropped shared phase).transition = shared.transition := by
  cases phase <;> rfl

theorem handOver_coherent {config : Config} (coherent : Coherent calm of shared)
    (holds : Holds calm of shared (of config)) :
    Coherent calm of (shared.handOver config) := by
  refine ⟨?_, ?_⟩
  · intro fingerprint remembered
    have known := coherent.remembered fingerprint remembered
    exact ⟨known.acknowledged, known.settled, known.valid⟩
  · intro handover among
    rcases List.mem_append.mp among with earlier | last
    · exact coherent.handed handover earlier
    · rw [List.mem_singleton.mp last]
      exact ⟨holds.acknowledged, holds.settled, holds.valid⟩

theorem step_leaves [DecidableEq Fingerprint] (coherent : Coherent calm of shared)
    (knows : Knows calm of id shared caller)
    (taken : step settings of id choice shared caller = some after) :
    Leaves calm of id after := by
  unfold step at taken
  split at taken
  · -- the lock is free
    split at taken
    · cases taken
      exact ⟨coherent.keep (some id) _ _, .of_waiting rfl rfl (by simp [goTo])⟩
    · cases taken
  · rename_i config known enabled held
    cases taken
    exact proxyLocked_leaves _ known enabled coherent (knows.lock (by rw [held]; rfl))
  · rename_i config loaded encoded known enabled ensuring
    have locked := knows.lock (by rw [ensuring]; rfl)
    split at taken
    · cases taken
      exact compare_leaves settings config encoded known enabled coherent locked
    · cases taken
      exact finish_leaves _ coherent locked
  · rename_i config number loaded waiting
    have locked := knows.lock (by rw [waiting]; rfl)
    have cleared := knows.cleared (by rw [waiting]; rfl)
    split at taken
    · cases taken
      exact goTo_leaves cleared coherent locked rfl
    · cases taken
      exact giveUp_leaves settings _ _ coherent locked
  · rename_i config number outcome waiting
    have locked := knows.lock (by rw [waiting]; rfl)
    have cleared := knows.cleared (by rw [waiting]; rfl)
    cases outcome with
    | ok done =>
        cases taken
        have sent : Leaves calm of id
            (begun { shared with memberUncertain := true },
              caller.goTo (.memberCalling config number)) :=
          begun_leaves cleared (coherent.keep _ true _) locked rfl
        exact sent
    | error failure =>
        cases taken
        exact giveUp_leaves settings _ _ coherent locked
  · rename_i config number outcome known enabled waiting
    cases taken
    exact answered_leaves settings config number outcome known enabled
      (knows.cleared (by rw [waiting]; rfl))
      (knows.uninterrupted (by rw [waiting]; rfl) (by rw [waiting]; rfl)) coherent
      (knows.lock (by rw [waiting]; rfl))
  · rename_i config number outcome known enabled waiting
    cases taken
    have locked := knows.lock (by rw [waiting]; rfl)
    have cleared := knows.cleared (by rw [waiting]; rfl)
    have uninterrupted := knows.uninterrupted (by rw [waiting]; rfl) (by rw [waiting]; rfl)
    cases outcome with
    | ok done =>
        exact answered_leaves settings config number _ known enabled cleared uninterrupted
          (coherent.keep _ false _) locked
    | error failure =>
        exact answered_leaves settings config number _ known enabled cleared uninterrupted
          coherent locked
  · rename_i config number known enabled sleeping
    cases taken
    exact attempt_leaves settings config number known enabled
      (knows.cleared (by rw [sleeping]; rfl)) coherent (knows.lock (by rw [sleeping]; rfl))
  · rename_i config outcome proxying
    have locked := knows.lock (by rw [proxying]; rfl)
    cases outcome with
    | ok done =>
        cases taken
        exact finish_leaves _ (handOver_coherent coherent (knows.holds config proxying)) locked
    | error failure =>
        cases taken
        exact finish_leaves _ coherent locked
  · -- a request through a guard is dropped, and the guard keeps the lock
    split at taken
    · rename_i held
      cases taken
      have locked : (dropped shared caller.phase).transition = some id := by
        rw [dropped_transition]
        exact knows.lock held.1
      exact ⟨dropped_coherent knows coherent, .of_waiting locked rfl (by simp [goTo])⟩
    · cases taken
  · split at taken
    · cases taken
      exact ⟨(dropped_coherent knows coherent).keep none _ _, .of_unlocked rfl⟩
    · cases taken
      exact ⟨coherent, .of_unlocked rfl⟩
  · cases taken

theorem step_still [DecidableEq Fingerprint] {other : Nat} (locked : shared.transition = some other)
    (different : other ≠ id) (knows : Knows calm of id shared caller)
    (taken : step settings of id choice shared caller = some after) : after.1 = shared := by
  have unlocked : hasLock caller.phase = false := by
    rw [Bool.eq_false_iff]
    intro held
    have same := (knows.lock held).symm.trans locked
    exact different (Option.some.inj same).symm
  cases phase : caller.phase with
  | turn =>
      cases choice <;> simp only [step, phase, locked, hasLock] at taken <;> cases taken
      rfl
  | gone =>
      cases choice <;> simp only [step, phase, hasLock] at taken <;> cases taken
      rfl
  | _ =>
      rw [phase] at unlocked
      cases unlocked

theorem Knows.other [DecidableEq Fingerprint] {other : Nat} {bystander : ProxyCaller Config}
    (knows : Knows calm of id shared caller)
    (taken : step settings of id choice shared caller = some after) (different : other ≠ id)
    (theirs : Knows calm of other shared bystander) :
    Knows calm of other after.1 bystander := by
  by_cases held : hasLock bystander.phase = true
  · rw [step_still (theirs.lock held) different knows taken]
    exact theirs
  · exact .of_unlocked (Bool.eq_false_iff.mpr held)

theorem Knows.invalidate (knows : Knows calm of id shared caller)
    (early : calm → caller.phase.exposed = false) :
    Knows calm of id shared.invalidate caller := by
  refine ⟨knows.lock, fun _ => rfl, ?_, ?_⟩
  · intro _ exposed calmly
    rw [early calmly] at exposed
    cases exposed
  · intro config proxying
    have holds := knows.holds config proxying
    refine ⟨holds.acknowledged, holds.settled, ?_⟩
    intro calmly
    have exposed := early calmly
    rw [proxying] at exposed
    cases exposed

end ProxyCaller

namespace ReconfigurableModule

variable {Config Fingerprint : Type} [DecidableEq Fingerprint]

theorem keeps (calm : Prop) (settings : ReconfigureSettings)
    (of : Config → Option Fingerprint) :
    Tasks.Keeps (kind settings of) (fun state => Coherent calm of state.shared)
      (ProxyCaller.Knows calm of) (fun state event => calm → Quiet state event) := by
  refine ⟨?_, ?_, ?_, ?_⟩
  · intro state id call sound _ _
    refine ⟨sound.common, ?_⟩
    cases call with
    | proxy config => exact .of_unlocked rfl
    | exclusive => exact .of_unlocked rfl
  · intro state id choice caller shared stepped sound _ present taken
    have leaves := ProxyCaller.step_leaves sound.common (sound.own id caller present) taken
    exact ⟨leaves.coherent, leaves.knows⟩
  · intro state id choice caller shared stepped other bystander sound _ present taken
      different found
    exact (sound.own id caller present).other taken different (sound.own other bystander found)
  · intro state event sound quiet
    refine ⟨ProxyCaller.coherent_of_cleared rfl sound.common.handed, ?_⟩
    intro id caller present
    exact (sound.own id caller present).invalidate
      (fun calmly => quiet calmly id caller present)

theorem coherent_of_reachable {calm : Prop} {settings : ReconfigureSettings}
    {of : Config → Option Fingerprint} {state : State Config Fingerprint}
    (reached : ((system settings of).restrict
      (fun state event => calm → Quiet state event)).Reachable state) :
    Coherent calm of state.shared := by
  have sound := Tasks.sound_of_keeps (keeps calm settings of)
    (fun first starts _ => coherent_of_initial starts) reached
  exact sound.common

/-- A proxy is only handed out for the configuration that was acknowledged last, and
never after a failed call; where the module is invalidated only while no caller waits
for its answer or for a proxy, no invalidation came in between either. -/
theorem handed_current (settings : ReconfigureSettings) (of : Config → Option Fingerprint) :
    (∀ state, (system settings of).Reachable state → ∀ handover ∈ state.shared.handed,
      (∃ last, handover.acknowledged = some last ∧ of last = of handover.config) ∧
        handover.unsettled = false) ∧
    ∀ state, ((system settings of).restrict Quiet).Reachable state →
      ∀ handover ∈ state.shared.handed, handover.Current of ∧
        ((∀ other, of other = of handover.config → other = handover.config) →
          handover.acknowledged = some handover.config) := by
  refine ⟨?_, ?_⟩
  · intro state reached handover among
    have coherent : Coherent False of state.shared :=
      coherent_of_reachable (reached.of_guard (fun _ _ => False.elim))
    obtain ⟨acknowledged, settled, _⟩ := coherent.handed handover among
    exact ⟨acknowledged, settled⟩
  · intro state reached handover among
    have coherent : Coherent True of state.shared :=
      coherent_of_reachable (reached.weaken (fun _ _ quiet _ => quiet))
    obtain ⟨acknowledged, settled, valid⟩ := coherent.handed handover among
    refine ⟨⟨acknowledged, settled, valid trivial⟩, ?_⟩
    intro apart
    obtain ⟨last, was, same⟩ := acknowledged
    rw [was, apart last same]

def lifecycle : ReconfigureSettings :=
  { strategy := .lifecycle, retryAttempts := 1, retryDelayed := false, markFaulted := false }

/-- A caller asks for configuration 7 and waits for the answer to `Reinitialize`. -/
def asked : List (Event Nat) :=
  [.start 0 (.proxy 7), .advance 0 .lock, .advance 0 (.request 7 true true),
    .advance 0 (.ensured true true true true)]

def handedOut : List (Event Nat) :=
  [.advance 0 (.answered (.ok ()) true true), .advance 0 (.proxied (.ok ()))]

def askedAgain : List (Event Nat) :=
  [.start 1 (.proxy 7), .advance 1 .lock, .advance 1 (.request 7 true true),
    .advance 1 (.ensured true true true true), .advance 1 (.proxied (.ok ()))]

def idle : State Nat Nat := { shared := new, tasks := ∅ }

def fromOwnCaller : Event Nat → Bool
  | .outside _ => false
  | _ => true

theorem fromOwnCaller_quiet {state : State Nat Nat} {event : Event Nat}
    (own : fromOwnCaller event = true) : Quiet state event := by
  cases event with
  | outside event => cases own
  | _ => trivial

def later (events : List (Event Nat)) : State Nat Nat :=
  events.foldl (Tasks.next (kind lifecycle some)) idle

theorem quietHandover_current :
    ∃ state : State Nat Nat, ((system lifecycle some).restrict Quiet).Reachable state ∧
      ∃ handover ∈ state.shared.handed, handover.Current some := by
  have run : ((system lifecycle some).restrict Quiet).Run idle (asked ++ handedOut)
      (later (asked ++ handedOut)) :=
    System.Run.of_checked (fun _ _ => fromOwnCaller_quiet) (by decide)
  have reached : ((system lifecycle some).restrict Quiet).Reachable
      (later (asked ++ handedOut)) := ⟨idle, _, ⟨.inl rfl, rfl⟩, run⟩
  exact ⟨_, reached, ⟨7, some 7, false, false⟩, .head _,
    ((handed_current lifecycle some).2 _ reached ⟨7, some 7, false, false⟩ (.head _)).1⟩

/-- The module is invalidated while `Reinitialize` is under way.  The answer writes the
fingerprint over that, and the later caller gets a proxy without a new call. -/
theorem lostInvalidation_handed :
    ¬ ∀ state : State Nat Nat, (system lifecycle some).Reachable state →
      ∀ handover ∈ state.shared.handed, handover.Current some := by
  intro every
  have reached : (system lifecycle some).Reachable
      (later (asked ++ [.outside ()] ++ handedOut ++ askedAgain)) :=
    System.Reachable.of_foldl ⟨.inl rfl, rfl⟩ _
  have second := every _ reached ⟨7, some 7, true, false⟩ (.tail _ (.head _))
  cases second.valid

end ReconfigurableModule

end TinyBus
