/-
Who waits for the slots in the table of pending calls.  A caller that runs takes
its slot with it, however its call ends; a future that is dropped leaves the slot
behind.
-/

import TinyBus.CallerSteps

namespace TinyBus

open TransitionSystem

namespace Caller

/-- Every slot in the table is that of a caller that still waits. -/
def Waited (state : State) : Prop :=
  ∀ serial slot, state.shared.pending.lookup serial = some slot →
    ∃ id caller, state.tasks.lookup id = some caller ∧ caller.phase.holds = some serial

/-- The future of a call is dropped while its slot is in the table. -/
def Leaks (state : State) (event : Event) : Prop :=
  ∃ id caller serial, event = .advance id .drop ∧ state.tasks.lookup id = some caller ∧
    caller.phase.serial = some serial ∧ (state.shared.pending.lookup serial).isSome = true

variable {state : State} {after : Link} {id : Nat} {caller stepped : Caller}
  {choice : CallerChoice}

theorem Stepped.holds (numbered : Numbered state)
    (moved : Stepped state.shared caller choice after stepped)
    (kept : choice = .drop → ∀ serial, caller.phase.serial = some serial →
      state.shared.pending.lookup serial = none) {serial : Nat}
    (held : caller.phase.holds = some serial) :
    stepped.phase.holds = some serial ∨ after.pending.lookup serial = none := by
  have answered : ∀ delivery, state.shared.mailbox.lookup serial = some delivery →
      state.shared.pending.lookup serial = none := by
    intro delivery given
    apply numbered.delivered
    rw [given]
    rfl
  cases moved with
  | draws first =>
      rw [first] at held
      cases held
  | rejects first =>
      rw [first] at held
      cases held
  | inserts locking =>
      rw [locking] at held
      cases held
  | hands handing writing =>
      rw [handing] at held
      exact .inl held
  | bounces handing gone =>
      rw [handing] at held
      exact .inl held
  | withdraws withdrawing =>
      rw [withdrawing] at held
      cases held
      exact .inr (AList.lookup_erase _ _)
  | continues awaiting answer rest =>
      rw [awaiting] at held
      cases held
      exact .inr (answered _ answer)
  | answers awaiting answer outcome =>
      rw [awaiting] at held
      cases held
      exact .inr (answered _ answer)
  | refuses awaiting refusal =>
      rw [awaiting] at held
      cases held
      exact .inr (answered _ refusal)
  | closes awaiting empty gone =>
      rw [awaiting] at held
      cases held
      exact .inr gone
  | expires awaiting =>
      rw [awaiting] at held
      exact .inl held
  | drops live => exact .inr (kept rfl serial (CallerPhase.serial_of_holds held))

theorem Waited.step (waited : Waited state) (numbered : Numbered state)
    (present : state.tasks.lookup id = some caller)
    (moved : Stepped state.shared caller choice after stepped)
    (kept : choice = .drop → ∀ serial, caller.phase.serial = some serial →
      state.shared.pending.lookup serial = none) :
    Waited { shared := after, tasks := state.tasks.insert id stepped } := by
  have mine : ∀ serial, stepped.phase.holds = some serial →
      ∃ other bystander, (state.tasks.insert id stepped).lookup other = some bystander ∧
        bystander.phase.holds = some serial :=
    fun serial held => ⟨id, stepped, AList.lookup_insert _, held⟩
  intro serial slot found
  dsimp only at found ⊢
  rcases moved.pending serial with same | gone | ⟨_, handing⟩
  · rw [same] at found
    obtain ⟨other, bystander, among, held⟩ := waited serial slot found
    by_cases own : other = id
    · rw [own, present] at among
      cases among
      rcases moved.holds numbered kept held with still | gone
      · exact mine serial still
      · rw [← same, gone] at found
        cases found
    · exact ⟨other, bystander, by rw [AList.lookup_insert_ne own, among], held⟩
  · rw [gone] at found
    cases found
  · exact mine serial (by rw [handing]; rfl)

theorem Waited.next (waited : Waited state) (numbered : Numbered state) {event : Event}
    (kept : ¬ Leaks state event) : Waited (Tasks.next kind state event) := by
  have moved := Tasks.next_moved kind state event
  generalize Tasks.next kind state event = later at moved
  cases moved with
  | still => exact waited
  | @started id message vacant =>
      intro serial slot found
      obtain ⟨other, caller, among, held⟩ := waited serial slot found
      have different : other ≠ id := by
        intro same
        rw [same, vacant] at among
        cases among
      exact ⟨other, caller, by rw [AList.lookup_insert_ne different, among], held⟩
  | @stepped id choice caller stepped shared present taken =>
      apply waited.step numbered present (step_stepped id taken)
      rintro rfl serial own
      by_contra held
      rw [← ne_eq, ← Option.isSome_iff_ne_none] at held
      exact kept ⟨id, caller, serial, rfl, present, own, held⟩
  | @around event =>
      intro serial slot found
      rcases (Link.apply_settles state.shared event).pending serial with same | gone
      · exact waited serial slot (same ▸ found)
      · have impossible : (none : Option PendingReply) = some slot := gone ▸ found
        cases impossible

theorem waited_of_reachable
    (reached : (system.restrict (fun state event => ¬ Leaks state event)).Reachable state) :
    Waited state := by
  refine reached.invariant_with (fun _ reached =>
    (numbered_of_reachable reached.of_restrict).common) ?_ ?_
  · rintro first ⟨starts, _⟩ serial slot found
    rw [starts] at found
    cases found
  · rintro before event later numbered ⟨kept, rfl⟩ waited
    exact waited.next numbered kept

theorem Leaks.not_waited (numbered : Numbered state) {event : Event}
    (leaks : Leaks state event) : ¬ Waited (Tasks.next kind state event) := by
  obtain ⟨id, caller, serial, rfl, present, own, held⟩ := leaks
  have dropped : Tasks.next kind state (.advance id .drop) =
      { state with tasks := state.tasks.insert id (caller.goTo .dropped) } :=
    Tasks.next_advance kind present
      (step_drop id state.shared (CallerPhase.isOver_of_serial own))
  obtain ⟨slot, found⟩ := Option.isSome_iff_exists.mp held
  intro waited
  rw [dropped] at waited
  obtain ⟨other, bystander, among, holds⟩ := waited serial slot found
  dsimp only at among
  rw [Table.lookup_insert_eq] at among
  split at among
  · cases among
    cases holds
  · rename_i different
    have same := numbered.distinct id other caller bystander serial present among own
      (CallerPhase.serial_of_holds holds)
    exact different same.symm

/-- In a run every slot is waited for at every moment, exactly when no future was
dropped with its slot in the table. -/
theorem slots_waited_iff {first last : State} {events : List Event}
    (starts : system.initial first) (run : system.Run first events last) :
    (∀ early late middle, events = early ++ late → system.Run first early middle →
        Waited middle) ↔
      ¬ system.Occurred first events Leaks := by
  constructor
  · rintro always ⟨early, event, late, before, split, toBefore, leaks⟩
    have numbered := (numbered_of_reachable ⟨first, early, starts, toBefore⟩).common
    apply leaks.not_waited numbered
    apply always (early ++ [event]) late
    · rw [split, List.append_assoc]
      rfl
    · exact .snoc toBefore rfl
  · rintro never early late middle rfl toMiddle
    have spared : ¬ system.Occurred first early (fun state event => ¬ ¬ Leaks state event) := by
      intro occurred
      apply never
      apply System.Occurred.append
      obtain ⟨before, event, after, state, split, reaches, leaks⟩ := occurred
      exact ⟨before, event, after, state, split, reaches, not_not.mp leaks⟩
    exact waited_of_reachable ⟨first, early, starts, toMiddle.guarded spared⟩

def reply : Message :=
  let returned := Message.methodReturn { question.header with serial := 1 } .null
  { returned with header := { returned.header with sender := some askedPeer } }

def answeredCall : List Event :=
  [.start 0 question, .advance 0 .run, .advance 0 .run, .advance 0 .run,
    .outside (.receive reply true), .advance 0 .run]

theorem answeredCall_iff :
    ∃ last, system.Run attached answeredCall last ∧ last.shared.pending.keys = [] ∧
      ((∀ early late middle, answeredCall = early ++ late →
        system.Run attached early middle → Waited middle) ↔
          ¬ system.Occurred attached answeredCall Leaks) := by
  have replayed : (replay (Tasks.next kind) (fun _ _ => true) attached answeredCall).map
      (fun state => state.shared.pending.keys) = some [] := by
    decide
  obtain ⟨last, reached, empty⟩ := Option.map_eq_some_iff.mp replayed
  have run := run_of_replay reached
  exact ⟨last, run, empty, slots_waited_iff ⟨rfl, rfl⟩ run⟩

def waitingCall : List Event := [.start 0 question, .advance 0 .run, .advance 0 .run]

/-- A future that is given up before its call is handed to the writer leaves the
slot in the table. -/
theorem abandonedCall_leaks :
    ¬ ∀ state : State, system.Reachable state → Waited state := by
  intro always
  have replayed : (replay (Tasks.next kind) (fun _ _ => true) attached waitingCall).map
      (fun state => ((state.tasks.lookup 0).map (fun caller => caller.phase.serial),
        (state.shared.pending.lookup 1).isSome)) = some (some (some 1), true) := by
    decide
  obtain ⟨before, reached, seen⟩ := Option.map_eq_some_iff.mp replayed
  rw [Prod.mk.injEq] at seen
  obtain ⟨caller, present, own⟩ := Option.map_eq_some_iff.mp seen.1
  have reachable : system.Reachable before := ⟨attached, waitingCall, ⟨rfl, rfl⟩,
    run_of_replay reached⟩
  have leaks : Leaks before (.advance 0 .drop) :=
    ⟨0, caller, 1, rfl, present, own, seen.2⟩
  exact leaks.not_waited (numbered_of_reachable reachable).common
    (always _ (reachable.step rfl))

end Caller

end TinyBus
