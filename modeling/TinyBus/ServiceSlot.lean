/-
The slot of one module service.  Operations and closes take its lock and keep it over their
awaits, and each of them may be dropped at any of these.  What became of a service is read
off the records: a service that was opened is in the slot, or it was closed once.
-/

import TinyBus.Library.Tasks

namespace TinyBus

namespace ServiceSlot

open TransitionSystem

universe u

variable {K : Type u}

/-- A service, and the closer that is stored with it, by the number of its opening and of
the task that brought the closer. -/
structure Entry (K : Type u) where
  key : K
  service : Nat
  close : Nat

inductive Record (K : Type u) where
  | opened (service : Nat) (key : K) (close : Nat)
  | operated (service : Nat) (asked : K)
  -- A stored closer was called.
  | closing (service close : Nat)
  -- `try_close_with` succeeded, and dropped the service.
  | retired (service : Nat)

structure Slot (K : Type u) where
  entry : Option (Entry K)
  holder : Option Nat
  opened : Nat
  records : List (Record K)

def Slot.new : Slot K := { entry := none, holder := none, opened := 0, records := [] }

inductive Call (K : Type u) where
  | withKey (key : K)
  -- Also what a registered shutdown hook calls.
  | close
  | tryCloseWith

/-- The await at which a task is. -/
inductive Phase (K : Type u) where
  | locking (call : Call K)
  | closingOld (key : K)
  | opening (key : K)
  | operating (key : K)
  | closing
  | tryClosing
  | returned (succeeds : Bool)
  | dropped

def Phase.locked : Phase K → Bool
  | .closingOld _ | .opening _ | .operating _ | .closing | .tryClosing => true
  | _ => false

/-- What awaited comes back, and whether it succeeds, or the task is dropped. -/
inductive Choice where
  | resume (succeeds : Bool)
  | drop
  deriving DecidableEq

namespace Slot

def record (slot : Slot K) (record : Record K) : Slot K :=
  { slot with records := slot.records ++ [record] }

def unlock (slot : Slot K) : Slot K := { slot with holder := none }

/-- The closer of an entry that was taken is called. -/
def callCloser (slot : Slot K) (old : Entry K) : Slot K :=
  { slot with entry := none }.record (.closing old.service old.close)

def reach (slot : Slot K) (key : K) : Slot K × Phase K :=
  match slot.entry with
  | none => (slot, .opening key)
  | some current => (slot.record (.operated current.service key), .operating key)

def install (slot : Slot K) (self : Nat) (key : K) : Slot K :=
  { slot with
    entry := some { key := key, service := slot.opened, close := self }
    opened := slot.opened + 1 }.record (.opened slot.opened key self)

/-- From the lock to the next await, or to the end. -/
def enter [BEq K] (slot : Slot K) : Call K → Slot K × Phase K
  | .withKey key =>
      match slot.entry with
      | some current =>
          if current.key != key then (slot.callCloser current, .closingOld key)
          else slot.reach key
      | none => slot.reach key
  | .close =>
      match slot.entry with
      | none => (slot.unlock, .returned true)
      | some old => (slot.callCloser old, .closing)
  | .tryCloseWith =>
      match slot.entry with
      | none => (slot.unlock, .returned true)
      | some _ => (slot, .tryClosing)

def retire (slot : Slot K) : Slot K :=
  match slot.entry with
  | none => slot
  | some current => { slot with entry := none }.record (.retired current.service)

end Slot

def step [BEq K] (self : Nat) (choice : Choice) (slot : Slot K) (phase : Phase K) :
    Option (Slot K × Phase K) :=
  match phase, choice with
  | .returned _, _ | .dropped, _ => none
  | .locking _, .drop => some (slot, .dropped)
  | .locking call, .resume _ =>
      if slot.holder = none then some ({ slot with holder := some self }.enter call) else none
  | _, .drop => some (slot.unlock, .dropped)
  -- The error of the old closer is discarded.
  | .closingOld key, .resume _ => some (slot.reach key)
  | .opening key, .resume true => some ((slot.install self key).reach key)
  | .opening _, .resume false => some (slot.unlock, .returned false)
  | .operating _, .resume succeeds => some (slot.unlock, .returned succeeds)
  | .closing, .resume succeeds => some (slot.unlock, .returned succeeds)
  | .tryClosing, .resume true => some (slot.retire.unlock, .returned true)
  | .tryClosing, .resume false => some (slot.unlock, .returned false)

def kind [BEq K] : Tasks.Kind (Slot K) (Phase K) (Call K) Choice Empty where
  start := .locking
  step := step
  outside := fun event _ => event.elim

def system (K : Type u) [BEq K] :
    System (Tasks (Slot K) (Phase K)) (Tasks.Event (Call K) Choice Empty) :=
  Tasks.system kind (fun slot => slot = .new)

def Record.closes (service : Nat) : Record K → Bool
  | .closing closed _ => closed == service
  | .retired closed => closed == service
  | _ => false

def closures (records : List (Record K)) (service : Nat) : Nat :=
  records.countP (Record.closes service)

def Slot.gone (slot : Slot K) (service : Nat) : Bool :=
  decide (service < slot.opened) && !slot.entry.any (fun entry => entry.service == service)

def Meets [BEq K] (key asked : K) : Prop := (key != asked) = false ∨ key = asked

/-- The records of a slot whose entry is given, after some openings. -/
structure Kept [BEq K] (slot : Slot K) : Prop where
  present : ∀ entry, slot.entry = some entry →
    entry.service < slot.opened ∧ .opened entry.service entry.key entry.close ∈ slot.records
  opened : ∀ service key close, .opened service key close ∈ slot.records →
    service < slot.opened
  -- A service that is not in the slot any more was closed, and only once.
  closed : ∀ service, closures slot.records service = (slot.gone service).toNat
  closing : ∀ service close, .closing service close ∈ slot.records →
    ∃ key, .opened service key close ∈ slot.records
  operated : ∀ service asked, .operated service asked ∈ slot.records →
    ∃ key close, .opened service key close ∈ slot.records ∧ Meets key asked

theorem closures_record (slot : Slot K) (record : Record K) (service : Nat) :
    closures (slot.record record).records service =
      closures slot.records service + (record.closes service).toNat := by
  unfold closures Slot.record
  rw [List.countP_append, List.countP_singleton]
  cases record.closes service <;> rfl

theorem mem_record {slot : Slot K} {record other : Record K} :
    other ∈ (slot.record record).records ↔ other ∈ slot.records ∨ other = record := by
  unfold Slot.record
  rw [List.mem_append, List.mem_singleton]

variable [BEq K]

namespace Kept

variable {slot : Slot K}

theorem new : Kept (.new : Slot K) where
  present := nofun
  opened := nofun
  closed := fun service => by
    have none : decide (service < 0) = false := decide_eq_false (Nat.not_lt_zero service)
    change 0 = (decide (service < 0) && _).toNat
    rw [none]
    rfl
  closing := nofun
  operated := nofun

theorem hold (kept : Kept slot) (holder : Option Nat) : Kept { slot with holder := holder } :=
  ⟨kept.present, kept.opened, kept.closed, kept.closing, kept.operated⟩

theorem operate (kept : Kept slot) {current : Entry K} (installed : slot.entry = some current)
    {asked : K} (meets : Meets current.key asked) :
    Kept (slot.record (.operated current.service asked)) where
  present := fun entry found =>
    ⟨(kept.present entry found).1, mem_record.mpr (.inl (kept.present entry found).2)⟩
  opened := fun service key close among =>
    kept.opened service key close ((mem_record.mp among).resolve_right nofun)
  closed := by
    intro service
    rw [closures_record]
    exact kept.closed service
  closing := by
    intro service close among
    obtain ⟨key, early⟩ := kept.closing service close ((mem_record.mp among).resolve_right nofun)
    exact ⟨key, mem_record.mpr (.inl early)⟩
  operated := by
    intro service other among
    rcases mem_record.mp among with old | new
    · obtain ⟨key, close, early, same⟩ := kept.operated service other old
      exact ⟨key, close, mem_record.mpr (.inl early), same⟩
    · cases new
      exact ⟨current.key, current.close,
        mem_record.mpr (.inl (kept.present current installed).2), meets⟩

theorem install (kept : Kept slot) (empty : slot.entry = none) (self : Nat) (key : K) :
    Kept (slot.install self key) where
  present := by
    intro entry found
    cases found
    exact ⟨Nat.lt_succ_self _, mem_record.mpr (.inr rfl)⟩
  opened := by
    intro service other close among
    rcases mem_record.mp among with old | new
    · exact Nat.lt_succ_of_lt (kept.opened service other close old)
    · cases new
      exact Nat.lt_succ_self _
  closed := by
    intro service
    unfold Slot.install
    rw [closures_record]
    have before := kept.closed service
    unfold Slot.gone at before ⊢
    rw [empty, Option.any_none, Bool.not_false, Bool.and_true] at before
    have grown : (decide (service < slot.opened + 1) && !(slot.opened == service)) =
        decide (service < slot.opened) := by
      rw [Bool.eq_iff_iff]
      simp only [Bool.and_eq_true, decide_eq_true_eq, Bool.not_eq_true', beq_eq_false_iff_ne]
      omega
    exact before.trans (congrArg Bool.toNat grown.symm)
  closing := by
    intro service close among
    obtain ⟨other, early⟩ := kept.closing service close ((mem_record.mp among).resolve_right nofun)
    exact ⟨other, mem_record.mpr (.inl early)⟩
  operated := by
    intro service asked among
    obtain ⟨other, close, early, same⟩ :=
      kept.operated service asked ((mem_record.mp among).resolve_right nofun)
    exact ⟨other, close, mem_record.mpr (.inl early), same⟩

theorem leave (kept : Kept slot) {current : Entry K} (installed : slot.entry = some current)
    {record : Record K} (closes : ∀ service, record.closes service = (current.service == service))
    (opens : ∀ service key close, .opened service key close ≠ record)
    (operates : ∀ service asked, .operated service asked ≠ record)
    (own : ∀ service close, .closing service close = record →
      service = current.service ∧ close = current.close) :
    Kept ({ slot with entry := none }.record record) where
  present := nofun
  opened := fun service key close among =>
    kept.opened service key close ((mem_record.mp among).resolve_right (opens service key close))
  closed := by
    intro service
    rw [closures_record, closes service]
    have before := kept.closed service
    have within := (kept.present current installed).1
    unfold Slot.gone at before ⊢
    rw [installed] at before
    refine (congrArg (· + _) before).trans ?_
    by_cases same : current.service = service
    · rw [← same, Option.any_some, BEq.rfl, decide_eq_true within]
      have away : (decide (current.service < slot.opened) && !false).toNat = 1 := by
        rw [decide_eq_true within]
        rfl
      exact away.symm
    · rw [Option.any_some, beq_false_of_ne same]
      rfl
  closing := by
    intro service close among
    rcases mem_record.mp among with old | new
    · obtain ⟨key, early⟩ := kept.closing service close old
      exact ⟨key, mem_record.mpr (.inl early)⟩
    · obtain ⟨rfl, rfl⟩ := own service close new
      exact ⟨current.key, mem_record.mpr (.inl (kept.present current installed).2)⟩
  operated := by
    intro service asked among
    obtain ⟨key, close, early, same⟩ :=
      kept.operated service asked ((mem_record.mp among).resolve_right (operates service asked))
    exact ⟨key, close, mem_record.mpr (.inl early), same⟩

theorem callCloser (kept : Kept slot) {current : Entry K}
    (installed : slot.entry = some current) : Kept (slot.callCloser current) :=
  kept.leave installed (fun _ => rfl) nofun nofun (fun _ _ same => by
    cases same
    exact ⟨rfl, rfl⟩)

theorem retire (kept : Kept slot) : Kept slot.retire := by
  unfold Slot.retire
  split
  · exact kept
  · rename_i current installed
    exact kept.leave installed (fun _ => rfl) nofun nofun nofun

end Kept

def Awaits (entry : Option (Entry K)) : Phase K → Prop
  | .closingOld _ | .opening _ | .closing => entry = none
  | .operating key => ∃ current, entry = some current ∧ Meets current.key key
  | .tryClosing => entry.isSome = true
  | _ => True

structure Arrives (id : Nat) (slot : Slot K) (phase : Phase K) : Prop where
  kept : Kept slot
  inside : phase.locked = true → slot.holder = some id ∧ Awaits slot.entry phase
  outside : phase.locked = false → slot.holder = none

section

variable {slot : Slot K} {self : Nat}

theorem arrives_unlocked (kept : Kept slot) {phase : Phase K} (out : phase.locked = false) :
    Arrives self slot.unlock phase where
  kept := kept.hold none
  inside := fun inside => by rw [out] at inside; cases inside
  outside := fun _ => rfl

theorem arrives_inside (kept : Kept slot) (held : slot.holder = some self) {phase : Phase K}
    (locked : phase.locked = true) (awaits : Awaits slot.entry phase) :
    Arrives self slot phase where
  kept := kept
  inside := fun _ => ⟨held, awaits⟩
  outside := fun out => by rw [locked] at out; cases out

theorem reach_arrives (kept : Kept slot) (held : slot.holder = some self) {key : K}
    (meets : ∀ current, slot.entry = some current → Meets current.key key) :
    Arrives self (slot.reach key).1 (slot.reach key).2 := by
  unfold Slot.reach
  split
  · rename_i empty
    exact arrives_inside kept held rfl empty
  · rename_i current installed
    have met := meets current installed
    exact arrives_inside (kept.operate installed met) held rfl ⟨current, installed, met⟩

theorem enter_arrives (kept : Kept slot) (held : slot.holder = some self) (call : Call K) :
    Arrives self (slot.enter call).1 (slot.enter call).2 := by
  cases call with
  | withKey key =>
      unfold Slot.enter
      dsimp only
      split
      · rename_i current installed
        split
        · exact arrives_inside (kept.callCloser installed) held rfl rfl
        · rename_i equal
          refine reach_arrives kept held ?_
          intro other found
          cases installed.symm.trans found
          exact .inl (Bool.eq_false_iff.mpr equal)
      · rename_i empty
        refine reach_arrives kept held ?_
        intro other found
        rw [empty] at found
        cases found
  | close =>
      unfold Slot.enter
      dsimp only
      split
      · exact arrives_unlocked kept rfl
      · rename_i old installed
        exact arrives_inside (kept.callCloser installed) held rfl rfl
  | tryCloseWith =>
      unfold Slot.enter
      dsimp only
      split
      · exact arrives_unlocked kept rfl
      · rename_i current installed
        exact arrives_inside kept held rfl (Option.isSome_of_eq_some installed)

end

/-- What a step of a task leads to: it had the lock, or the lock was free, or it only gave
up waiting for it. -/
inductive Stepped (self : Nat) (slot : Slot K) (phase : Phase K) :
    Slot K → Phase K → Prop
  | acts {after : Slot K} {stepped : Phase K} (alone : phase.locked = true ∨ slot.holder = none)
      (arrives : Arrives self after stepped) : Stepped self slot phase after stepped
  | leaves (out : phase.locked = false) : Stepped self slot phase slot .dropped

theorem step_stepped {self : Nat} {choice : Choice} {slot : Slot K} {phase : Phase K}
    {result : Slot K × Phase K} (kept : Kept slot)
    (inside : phase.locked = true → slot.holder = some self ∧ Awaits slot.entry phase)
    (taken : step self choice slot phase = some result) :
    Stepped self slot phase result.1 result.2 := by
  cases phase with
  | returned succeeds => cases choice <;> cases taken
  | dropped => cases choice <;> cases taken
  | locking call =>
      cases choice with
      | drop =>
          cases taken
          exact .leaves rfl
      | resume succeeds =>
          dsimp only [step] at taken
          split at taken
          · rename_i free
            cases taken
            exact .acts (.inr free) (enter_arrives (kept.hold (some self)) rfl call)
          · cases taken
  | closingOld key =>
      obtain ⟨held, empty⟩ := inside rfl
      cases choice with
      | drop =>
          cases taken
          exact .acts (.inl rfl) (arrives_unlocked kept rfl)
      | resume succeeds =>
          cases taken
          refine .acts (.inl rfl) (reach_arrives kept held ?_)
          intro current found
          cases empty.symm.trans found
  | opening key =>
      obtain ⟨held, empty⟩ := inside rfl
      cases choice with
      | drop =>
          cases taken
          exact .acts (.inl rfl) (arrives_unlocked kept rfl)
      | resume succeeds =>
          cases succeeds with
          | false =>
              cases taken
              exact .acts (.inl rfl) (arrives_unlocked kept rfl)
          | true =>
              cases taken
              refine .acts (.inl rfl) (reach_arrives (kept.install empty self key) held ?_)
              intro current found
              cases found
              exact .inr rfl
  | operating key =>
      cases choice <;> cases taken <;> exact .acts (.inl rfl) (arrives_unlocked kept rfl)
  | closing =>
      cases choice <;> cases taken <;> exact .acts (.inl rfl) (arrives_unlocked kept rfl)
  | tryClosing =>
      cases choice with
      | drop =>
          cases taken
          exact .acts (.inl rfl) (arrives_unlocked kept rfl)
      | resume succeeds =>
          cases succeeds with
          | false =>
              cases taken
              exact .acts (.inl rfl) (arrives_unlocked kept rfl)
          | true =>
              cases taken
              exact .acts (.inl rfl) (arrives_unlocked kept.retire rfl)

/-- The holder of the lock is a task that is inside. -/
structure Guarded (state : Tasks (Slot K) (Phase K)) : Prop where
  kept : Kept state.shared
  held : ∀ id, state.shared.holder = some id →
    ∃ phase, state.tasks.lookup id = some phase ∧ phase.locked = true

def Holds (id : Nat) (slot : Slot K) (phase : Phase K) : Prop :=
  phase.locked = true → slot.holder = some id ∧ Awaits slot.entry phase

abbrev Consistent : Tasks (Slot K) (Phase K) → Prop := Tasks.Sound Guarded Holds

variable {state : Tasks (Slot K) (Phase K)}

theorem guarded_step (guarded : Guarded state) {id : Nat} {phase stepped : Phase K} {after : Slot K}
    (present : state.tasks.lookup id = some phase)
    (did : Stepped id state.shared phase after stepped) :
    Guarded { shared := after, tasks := state.tasks.insert id stepped } ∧
      Holds id after stepped := by
  cases did with
  | acts _ arrives =>
      refine ⟨⟨arrives.kept, ?_⟩, arrives.inside⟩
      intro other held
      dsimp only at held ⊢
      rw [Table.lookup_insert_eq]
      cases locked : stepped.locked with
      | true =>
          cases (arrives.inside locked).1.symm.trans held
          exact ⟨stepped, if_pos rfl, locked⟩
      | false => cases (arrives.outside locked).symm.trans held
  | leaves out =>
      refine ⟨⟨guarded.kept, ?_⟩, nofun⟩
      intro other held
      obtain ⟨inside, found, locked⟩ := guarded.held other held
      refine ⟨inside, ?_, locked⟩
      dsimp only
      rw [Table.lookup_insert_eq, if_neg]
      · exact found
      · rintro rfl
        cases present.symm.trans found
        rw [out] at locked
        cases locked

theorem consistent_keeps :
    Tasks.Keeps (kind (K := K)) Guarded Holds (fun _ _ => True) where
  start := by
    intro state id call sound _ vacant
    refine ⟨⟨sound.common.kept, ?_⟩, nofun⟩
    intro other held
    obtain ⟨phase, found, locked⟩ := sound.common.held other held
    refine ⟨phase, ?_, locked⟩
    dsimp only
    rw [Table.lookup_insert_eq, if_neg]
    · exact found
    · rintro rfl
      cases vacant.symm.trans found
  step := by
    intro state id choice phase after stepped sound _ present taken
    have did := step_stepped sound.common.kept (sound.own id phase present) taken
    exact guarded_step sound.common present did
  other := by
    intro state id choice phase after stepped other bystander sound _ present taken different found
    have did := step_stepped sound.common.kept (sound.own id phase present) taken
    intro locked
    obtain ⟨held, awaits⟩ := sound.own other bystander found locked
    cases did with
    | leaves _ => exact ⟨held, awaits⟩
    | acts alone _ =>
        rcases alone with inside | free
        · cases (sound.own id phase present inside).1.symm.trans held
          exact absurd rfl different
        · cases free.symm.trans held
  outside := fun _ event => event.elim

theorem reachable_consistent (reached : (system K).Reachable state) : Consistent state := by
  refine Tasks.sound_of_keeps consistent_keeps ?_ (reached.of_guard (fun _ _ => trivial))
  rintro first starts empty
  refine ⟨starts ▸ Kept.new, ?_⟩
  intro id held
  rw [starts] at held
  cases held

theorem Kept.installed {slot : Slot K} (kept : Kept slot) {service close : Nat} {key : K}
    (opened : .opened service key close ∈ slot.records)
    (live : closures slot.records service = 0) :
    ∃ entry, slot.entry = some entry ∧ entry.service = service := by
  have away := kept.closed service
  have early := kept.opened service key close opened
  unfold Slot.gone at away
  rw [live, decide_eq_true early, Bool.true_and] at away
  cases found : slot.entry with
  | none =>
      rw [found] at away
      cases away
  | some entry =>
      refine ⟨entry, rfl, ?_⟩
      rw [found, Option.any_some] at away
      by_cases same : entry.service = service
      · exact same
      · rw [beq_false_of_ne same] at away
        cases away

/-- What a slot is to its services, in a state of its tasks. -/
structure Accounted (state : Tasks (Slot K) (Phase K)) : Prop where
  alone : ∀ first second one other, state.tasks.lookup first = some one →
    state.tasks.lookup second = some other → one.locked = true → other.locked = true →
      first = second
  -- A service that was opened and not closed is the installed one.
  single : ∀ service key close, .opened service key close ∈ state.shared.records →
    closures state.shared.records service = 0 →
      ∃ entry, state.shared.entry = some entry ∧ entry.service = service
  once : ∀ service, closures state.shared.records service ≤ 1
  ownCloser : ∀ service close, .closing service close ∈ state.shared.records →
    ∃ key, .opened service key close ∈ state.shared.records
  operated : ∀ service asked, .operated service asked ∈ state.shared.records →
    ∃ key close, .opened service key close ∈ state.shared.records ∧ Meets key asked
  operating : ∀ id asked, state.tasks.lookup id = some (.operating asked) →
    ∃ current, state.shared.entry = some current ∧ Meets current.key asked ∧
      .opened current.service current.key current.close ∈ state.shared.records
  -- An error of `try_close_with` leaves the entry, and so does dropping it.
  stays : ∀ id choice, state.tasks.lookup id = some .tryClosing →
    (Tasks.next kind state (.advance id choice)).tasks.lookup id ≠ some (.returned true) →
      (Tasks.next kind state (.advance id choice)).shared.entry = state.shared.entry ∧
        state.shared.entry.isSome = true

theorem tryClosing_stays {id : Nat} {choice : Choice}
    (present : state.tasks.lookup id = some .tryClosing)
    (fails : (Tasks.next kind state (.advance id choice)).tasks.lookup id ≠
      some (.returned true)) :
    (Tasks.next kind state (.advance id choice)).shared.entry = state.shared.entry := by
  have went (after : Slot K) (stepped : Phase K)
      (taken : step id choice state.shared .tryClosing = some (after, stepped)) :
      Tasks.next kind state (.advance id choice) =
        { shared := after, tasks := state.tasks.insert id stepped } :=
    Tasks.next_advance kind present taken
  cases choice with
  | drop =>
      rw [went _ _ rfl]
      rfl
  | resume succeeds =>
      cases succeeds with
      | false =>
          rw [went _ _ rfl]
          rfl
      | true =>
          rw [went _ _ rfl] at fails
          dsimp only at fails
          rw [Table.lookup_insert_eq, if_pos rfl] at fails
          exact absurd rfl fails

/-- Over any interleaving of operations and closes, with any of them dropped at any await,
a slot accounts for every service. -/
theorem slot_accounted (state : Tasks (Slot K) (Phase K))
    (reached : (system K).Reachable state) : Accounted state := by
  obtain ⟨guarded, own⟩ := reachable_consistent reached
  exact
    { alone := by
        intro first second one other found present locked inside
        have held := (own first one found locked).1
        exact Option.some.inj (held.symm.trans (own second other present inside).1)
      single := fun service key close opened live => guarded.kept.installed opened live
      once := fun service => by
        rw [guarded.kept.closed service]
        exact Bool.toNat_le _
      ownCloser := guarded.kept.closing
      operated := guarded.kept.operated
      operating := by
        intro id asked found
        obtain ⟨_, current, installed, meets⟩ := own id _ found rfl
        exact ⟨current, installed, meets, (guarded.kept.present current installed).2⟩
      stays := fun id choice present fails =>
        ⟨tryClosing_stays present fails, (own id _ present rfl).2⟩ }

/-- A service is closed for another key, and the task is dropped while it waits for the closer. -/
def replacing : List (Tasks.Event (Call Nat) Choice Empty) :=
  [.start 0 (.withKey 7), .advance 0 (.resume true), .advance 0 (.resume true),
    .advance 0 (.resume true), .start 1 (.withKey 8), .advance 1 (.resume true),
    .advance 1 .drop, .start 2 .tryCloseWith, .advance 2 (.resume true)]

theorem replacing_accounted :
    Accounted (replacing.foldl (Tasks.next kind) ⟨Slot.new, ∅⟩) :=
  slot_accounted _ (.of_foldl ⟨rfl, rfl⟩ replacing)

end ServiceSlot

end TinyBus
