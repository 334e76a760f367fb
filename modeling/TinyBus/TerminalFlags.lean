import TinyBus.TransportActs

/-
The terminal flags of a transport under all their writers.  A terminal cause is
published by a load and a loop of compare-and-exchange, a fault of the module by
two operations on the flags, and a shutdown by one; the writers take their
accesses in any order, and an exchange may fail without a reason.
-/

namespace TinyBus

open TransitionSystem

namespace ModuleTransport

def NativeTerminal.LIVE : NativeTerminal := ⟨true, false, false, false⟩

/-- The new flags of `publish_terminal_flags`. -/
def NativeTerminal.commit (flags : NativeTerminal) (fault : Bool) : NativeTerminal :=
  { flags with live := false, stopIntent := true, fault := flags.fault || fault }

namespace Terminal

structure Context where
  faulted : Bool
  flags : NativeTerminal
  codes : List Int

inductive Access where
  | storeFaulted
  | load (fault : Bool)
  | compareExchange (fault : Bool) (old : NativeTerminal)
  | orFault
  | andLive
  | shutdown
  | orStopped
  deriving DecidableEq

abbrev Writer := List Access

inductive Write where
  | publishTerminalFlags (fault : Bool)
  | hostFault
  | stopSync

def writer : Write → Writer
  | .publishTerminalFlags fault => (if fault then [.storeFaulted] else []) ++ [.load fault]
  | .hostFault => [.storeFaulted, .orFault, .andLive]
  | .stopSync => [.shutdown]

inductive Turn where
  | proceed
  -- The weak exchange fails although the flags are as expected.
  | spurious
  | returned (code : Int)
  -- No module was published, and so there is no callback to call.
  | absent
  | panicked
  deriving DecidableEq

def access (context : Context) : Access → Turn → Option (Context × Writer)
  | .storeFaulted, .proceed => some ({ context with faulted := true }, [])
  | .load fault, .proceed => some (context, [.compareExchange fault context.flags])
  | .compareExchange fault old, .proceed =>
      if context.flags = old then some ({ context with flags := old.commit fault }, [])
      else some (context, [.compareExchange fault context.flags])
  | .compareExchange fault _, .spurious =>
      some (context, [.compareExchange fault context.flags])
  | .orFault, .proceed =>
      some ({ context with flags := { context.flags with stopIntent := true, fault := true } },
        [])
  | .andLive, .proceed =>
      some ({ context with flags := { context.flags with live := false } }, [])
  | .shutdown, .returned code =>
      some ({ context with codes := context.codes ++ [code] },
        if code = TB_OK then [.orStopped] else [])
  | .shutdown, .absent => some (context, [])
  | .shutdown, .panicked => some (context, [])
  | .orStopped, .proceed =>
      some ({ context with flags := { context.flags with physicallyStopped := true } }, [])
  | _, _ => none

def write (_ : Nat) (turn : Turn) (context : Context) : Writer → Option (Context × Writer)
  | [] => none
  | first :: rest =>
      (access context first turn).map (fun done => (done.1, done.2 ++ rest))

def kind : Tasks.Kind Context Writer Write Turn Empty where
  start := writer
  step := write
  outside := fun event _ => nomatch event

def system : System (Tasks Context Writer) (Tasks.Event Write Turn Empty) :=
  Tasks.system kind (fun context => context = ⟨false, .LIVE, []⟩)

/-! ### One access -/

inductive Accesses (context : Context) : Access → Turn → Context → Writer → Prop
  | stores : Accesses context .storeFaulted .proceed { context with faulted := true } []
  | loads {fault : Bool} :
      Accesses context (.load fault) .proceed context [.compareExchange fault context.flags]
  | exchanges {fault : Bool} :
      Accesses context (.compareExchange fault context.flags) .proceed
        { context with flags := context.flags.commit fault } []
  | retries {fault : Bool} {old : NativeTerminal} {turn : Turn}
      (failed : turn = .proceed → context.flags ≠ old) :
      Accesses context (.compareExchange fault old) turn context
        [.compareExchange fault context.flags]
  | faults :
      Accesses context .orFault .proceed
        { context with flags := { context.flags with stopIntent := true, fault := true } } []
  | leaves :
      Accesses context .andLive .proceed
        { context with flags := { context.flags with live := false } } []
  | returns {code : Int} :
      Accesses context .shutdown (.returned code)
        { context with codes := context.codes ++ [code] }
        (if code = TB_OK then [.orStopped] else [])
  | ends {turn : Turn} (without : ∀ code, turn ≠ .returned code) :
      Accesses context .shutdown turn context []
  | stops :
      Accesses context .orStopped .proceed
        { context with flags := { context.flags with physicallyStopped := true } } []

variable {context : Context} {first : Access} {more : Writer} {turn : Turn}
  {before after state : Tasks Context Writer} {event : Tasks.Event Write Turn Empty}
  {flags : NativeTerminal}

theorem access_accesses {after : Context} (done : access context first turn = some (after, more)) :
    Accesses context first turn after more := by
  cases first with
  | storeFaulted => cases turn <;> cases done; exact .stores
  | load fault => cases turn <;> cases done; exact .loads
  | compareExchange fault old =>
      cases turn with
      | proceed =>
          unfold access at done
          dsimp only at done
          split at done
          · rename_i same
            subst same
            cases done
            exact .exchanges
          · rename_i different
            cases done
            exact .retries (fun _ => different)
      | spurious =>
          cases done
          exact .retries nofun
      | returned => cases done
      | absent => cases done
      | panicked => cases done
  | orFault => cases turn <;> cases done; exact .faults
  | andLive => cases turn <;> cases done; exact .leaves
  | shutdown =>
      cases turn with
      | returned code => cases done; exact .returns
      | absent => cases done; exact .ends nofun
      | panicked => cases done; exact .ends nofun
      | proceed => cases done
      | spurious => cases done
  | orStopped => cases turn <;> cases done; exact .stops

theorem write_accesses (id : Nat) {after : Context} {task stepped : Writer}
    (taken : write id turn context task = some (after, stepped)) :
    ∃ first rest more, task = first :: rest ∧ stepped = more ++ rest ∧
      Accesses context first turn after more := by
  cases task with
  | nil => cases taken
  | cons first rest =>
      obtain ⟨⟨context', more⟩, done, same⟩ := Option.map_eq_some_iff.mp taken
      cases same
      exact ⟨first, rest, more, rfl, rfl, access_accesses done⟩

/-! ### Flags never go back -/

structure Later (before after : Context) : Prop where
  faulted : before.faulted = true → after.faulted = true
  live : before.flags.live = false → after.flags.live = false
  stopIntent : before.flags.stopIntent = true → after.flags.stopIntent = true
  fault : before.flags.fault = true → after.flags.fault = true
  physicallyStopped :
    before.flags.physicallyStopped = true → after.flags.physicallyStopped = true

theorem Later.refl (context : Context) : Later context context :=
  ⟨fun set => set, fun set => set, fun set => set, fun set => set, fun set => set⟩

theorem Later.trans {first middle last : Context} (early : Later first middle)
    (late : Later middle last) : Later first last :=
  ⟨fun set => late.faulted (early.faulted set), fun set => late.live (early.live set),
    fun set => late.stopIntent (early.stopIntent set), fun set => late.fault (early.fault set),
    fun set => late.physicallyStopped (early.physicallyStopped set)⟩

theorem Later.left {before after : Context} (later : Later before after)
    (left : before.flags ≠ .LIVE) : after.flags ≠ .LIVE := by
  intro live
  apply left
  obtain ⟨_, ⟨isLive, stop, fault, stopped⟩, _⟩ := before
  have same := later
  rcases same with ⟨_, liveStays, stopStays, faultStays, stoppedStays⟩
  rw [live] at liveStays stopStays faultStays stoppedStays
  unfold NativeTerminal.LIVE at *
  cases isLive <;> cases stop <;> cases fault <;> cases stopped <;> simp_all

theorem Accesses.later {after : Context} (accesses : Accesses context first turn after more) :
    Later context after := by
  cases accesses with
  | stores => exact ⟨fun _ => rfl, fun set => set, fun set => set, fun set => set, fun set => set⟩
  | loads => exact .refl context
  | exchanges =>
      refine ⟨fun set => set, fun _ => rfl, fun _ => rfl, ?_, fun set => set⟩
      intro set
      change (context.flags.fault || _) = true
      rw [set, Bool.true_or]
  | retries => exact .refl context
  | faults => exact ⟨fun set => set, fun set => set, fun _ => rfl, fun _ => rfl, fun set => set⟩
  | leaves => exact ⟨fun set => set, fun _ => rfl, fun set => set, fun set => set, fun set => set⟩
  | returns => exact ⟨fun set => set, fun set => set, fun set => set, fun set => set, fun set => set⟩
  | ends => exact .refl context
  | stops => exact ⟨fun set => set, fun set => set, fun set => set, fun set => set, fun _ => rfl⟩

theorem step_later (stepped : system.step before event after) :
    Later before.shared after.shared := by
  obtain rfl : after = Tasks.next kind before event := stepped
  have moved := Tasks.next_moved kind before event
  generalize Tasks.next kind before event = after at moved
  cases moved with
  | still => exact .refl _
  | started => exact .refl _
  | @stepped id _ _ _ _ present taken =>
      obtain ⟨_, _, _, _, _, accesses⟩ := write_accesses id taken
      exact accesses.later
  | around => rename_i event; exact nomatch event

theorem run_later {events : List (Tasks.Event Write Turn Empty)}
    (run : system.Run before events after) :
    Later before.shared after.shared := by
  induction run with
  | nil => exact .refl _
  | snoc _ stepped ih => exact ih.trans (step_later stepped)

/-! ### A module that stopped has confirmed it -/

/-- The bit is only set for a callback that returned success. -/
def Confirmed (state : Tasks Context Writer) : Prop :=
  (state.shared.flags.physicallyStopped = true → TB_OK ∈ state.shared.codes) ∧
    ∀ id task, state.tasks.lookup id = some task → .orStopped ∈ task →
      TB_OK ∈ state.shared.codes

private theorem writer_stopless (call : Write) : Access.orStopped ∉ writer call := by
  cases call with
  | publishTerminalFlags fault => cases fault <;> decide
  | hostFault => decide
  | stopSync => decide

private theorem Accesses.codes {after : Context} (accesses : Accesses context first turn after more)
    (confirmed : TB_OK ∈ context.codes) : TB_OK ∈ after.codes := by
  cases accesses with
  | returns => exact List.mem_append_left _ confirmed
  | _ => exact confirmed

private theorem Accesses.confirms {after : Context}
    (accesses : Accesses context first turn after more)
    (bit : context.flags.physicallyStopped = true → TB_OK ∈ context.codes)
    (stops : first = .orStopped → TB_OK ∈ context.codes) :
    (after.flags.physicallyStopped = true → TB_OK ∈ after.codes) ∧
      (.orStopped ∈ more → TB_OK ∈ after.codes) := by
  cases accesses with
  | @returns code =>
      refine ⟨fun set => List.mem_append_left _ (bit set), ?_⟩
      intro scheduled
      split at scheduled
      · rename_i ok
        rw [ok]
        exact List.mem_append_right _ (List.mem_singleton.mpr rfl)
      · cases scheduled
  | stops => exact ⟨fun _ => stops rfl, nofun⟩
  | stores => exact ⟨bit, nofun⟩
  | loads => exact ⟨bit, by simp⟩
  | exchanges => exact ⟨bit, nofun⟩
  | retries => exact ⟨bit, by simp⟩
  | faults => exact ⟨bit, nofun⟩
  | leaves => exact ⟨bit, nofun⟩
  | ends => exact ⟨bit, nofun⟩

theorem confirmed_step (stepped : system.step before event after)
    (confirmed : Confirmed before) : Confirmed after := by
  obtain rfl : after = Tasks.next kind before event := stepped
  have moved := Tasks.next_moved kind before event
  generalize Tasks.next kind before event = after at moved
  obtain ⟨bit, owed⟩ := confirmed
  cases moved with
  | still => exact ⟨bit, owed⟩
  | @started id call vacant =>
      refine ⟨bit, ?_⟩
      intro other task found scheduled
      dsimp only at found ⊢
      rw [Table.lookup_insert_eq] at found
      split at found
      · cases found
        exact absurd scheduled (writer_stopless call)
      · exact owed other task found scheduled
  | @stepped id turn task stepped context present taken =>
      obtain ⟨first, rest, more, rfl, rfl, accesses⟩ := write_accesses id taken
      have own := owed id _ present
      have confirms := accesses.confirms bit
        (fun same => own (same ▸ List.mem_cons_self))
      refine ⟨confirms.1, ?_⟩
      intro other task found scheduled
      dsimp only at found ⊢
      rw [Table.lookup_insert_eq] at found
      split at found
      · cases found
        rcases List.mem_append.mp scheduled with added | left
        · exact confirms.2 added
        · exact accesses.codes (own (List.mem_cons_of_mem _ left))
      · exact accesses.codes (owed other task found scheduled)
  | around => rename_i event; exact nomatch event

theorem reachable_confirmed (reached : system.Reachable state) :
    Confirmed state := by
  apply reached.invariant
  · rintro first ⟨fresh, empty⟩
    rw [Confirmed, fresh, empty]
    exact ⟨nofun, nofun⟩
  · exact fun _ _ _ stepped confirmed => confirmed_step stepped confirmed

/-! ### A fault that was stored gets its bit -/

/-- The accesses that still bring the bit of a fault. -/
def Access.faults : Access → Bool
  | .load fault => fault
  | .compareExchange fault _ => fault
  | .orFault => true
  | _ => false

def Access.free : Access → Bool
  | .shutdown => false
  | _ => true

def Owes (task : Writer) : Prop :=
  (∃ first ∈ task, first.faults = true) ∧ ∀ first ∈ task, first.free = true

def changes (flags : NativeTerminal) : Nat :=
  flags.live.toNat + (!flags.stopIntent).toNat + (!flags.fault).toNat +
    (!flags.physicallyStopped).toNat

def Access.cost (flags : NativeTerminal) : Access → Nat
  | .load _ => 2 * changes flags + 3
  | .compareExchange _ old =>
      if flags = old then 2 * changes flags + 1 else 2 * changes flags + 2
  | _ => 1

def cost (flags : NativeTerminal) (task : Writer) : Nat := (task.map (Access.cost flags)).sum

def Settles (flags later : NativeTerminal) : Prop :=
  later = flags ∨ changes later < changes flags

private theorem toNat_le {before after : Bool} (stays : after = true → before = true) :
    after.toNat ≤ before.toNat := by
  cases before with
  | true => exact Bool.toNat_le after
  | false => rw [eq_false_of_ne_true (fun set => Bool.false_ne_true (stays set))]

private theorem toNat_not_le {before after : Bool} (stays : before = true → after = true) :
    (!after).toNat ≤ (!before).toNat := by
  apply toNat_le
  intro unset
  cases before with
  | true => rw [stays rfl] at unset; exact unset
  | false => rfl

private theorem toNat_inj {one other : Bool} (same : one.toNat = other.toNat) :
    one = other := by
  revert one other
  decide

private theorem Settles.of_set {later : NativeTerminal}
    (live : later.live = true → flags.live = true)
    (stopIntent : flags.stopIntent = true → later.stopIntent = true)
    (fault : flags.fault = true → later.fault = true)
    (physicallyStopped : flags.physicallyStopped = true → later.physicallyStopped = true) :
    Settles flags later := by
  have liveLess := toNat_le live
  have stopLess := toNat_not_le stopIntent
  have faultLess := toNat_not_le fault
  have stoppedLess := toNat_not_le physicallyStopped
  by_cases fewer : changes later < changes flags
  · exact .inr fewer
  · left
    obtain ⟨isLive, stop, faulty, stopped⟩ := flags
    obtain ⟨isLive', stop', faulty', stopped'⟩ := later
    unfold changes at fewer
    dsimp only at *
    obtain rfl : isLive' = isLive := toNat_inj (by omega)
    obtain rfl : stop' = stop := Bool.not_inj (toNat_inj (by omega))
    obtain rfl : faulty' = faulty := Bool.not_inj (toNat_inj (by omega))
    obtain rfl : stopped' = stopped := Bool.not_inj (toNat_inj (by omega))
    rfl

theorem Accesses.settles {after : Context} (accesses : Accesses context first turn after more) :
    Settles context.flags after.flags := by
  have later := accesses.later
  refine .of_set ?_ later.stopIntent later.fault later.physicallyStopped
  intro live
  by_contra left
  rw [later.live (eq_false_of_ne_true left)] at live
  exact Bool.false_ne_true live

private theorem Access.cost_le {later : NativeTerminal} (settles : Settles flags later)
    (access : Access) : access.cost later ≤ access.cost flags := by
  rcases settles with rfl | fewer
  · exact Nat.le_refl _
  · cases access with
    | load fault =>
        simp only [Access.cost]
        omega
    | compareExchange fault old =>
        simp only [Access.cost]
        split <;> split <;> omega
    | _ => exact Nat.le_refl _

private theorem cost_le {later : NativeTerminal} (settles : Settles flags later)
    (task : Writer) : cost later task ≤ cost flags task := by
  induction task with
  | nil => exact Nat.le_refl _
  | cons first rest ih =>
      change first.cost later + cost later rest ≤ first.cost flags + cost flags rest
      exact Nat.add_le_add (first.cost_le settles) ih

private theorem cost_append (flags : NativeTerminal) (front back : Writer) :
    cost flags (front ++ back) = cost flags front + cost flags back := by
  unfold cost
  rw [List.map_append, List.sum_append]

private theorem Access.cost_pos (flags : NativeTerminal) (access : Access) :
    0 < access.cost flags := by
  cases access with
  | compareExchange fault old =>
      simp only [Access.cost]
      split <;> omega
  | _ => exact Nat.succ_pos _

private theorem cost_pos (flags : NativeTerminal) {task : Writer} (owes : Owes task) :
    0 < cost flags task := by
  cases task with
  | nil =>
      obtain ⟨⟨_, among, _⟩, _⟩ := owes
      cases among
  | cons first rest => exact Nat.lt_of_lt_of_le (first.cost_pos flags) (Nat.le_add_right _ _)

theorem Accesses.spends {after : Context} (accesses : Accesses context first turn after more)
    (free : first.free = true) :
    cost after.flags more + (if turn = .proceed then 1 else 0) ≤ first.cost context.flags := by
  cases accesses with
  | loads =>
      change (Access.cost _ _ + 0) + 1 ≤ 2 * changes context.flags + 3
      rw [Access.cost, if_pos rfl]
      omega
  | exchanges =>
      rw [if_pos rfl, Access.cost, if_pos rfl]
      exact Nat.le_add_left 1 _
  | @retries fault old turn failed =>
      change (Access.cost _ _ + 0) + _ ≤ _
      rw [Access.cost, if_pos rfl, Access.cost]
      by_cases going : turn = .proceed
      · rw [if_pos going, if_neg (failed going)]
      · rw [if_neg going]
        split <;> omega
  | returns => cases free
  | ends => cases free
  | stores => exact Nat.le_refl _
  | faults => exact Nat.le_refl _
  | leaves => exact Nat.le_refl _
  | stops => exact Nat.le_refl _

theorem Accesses.brings {after : Context} (accesses : Accesses context first turn after more)
    (faults : first.faults = true) :
    after.flags.fault = true ∨ ∃ next ∈ more, next.faults = true := by
  cases accesses with
  | loads => exact .inr ⟨_, List.mem_cons_self, faults⟩
  | exchanges =>
      refine .inl ?_
      cases faults
      exact Bool.or_true _
  | retries => exact .inr ⟨_, List.mem_cons_self, faults⟩
  | faults => exact .inl rfl
  | stores => cases faults
  | leaves => cases faults
  | returns => cases faults
  | ends => cases faults
  | stops => cases faults

theorem Accesses.stays_free {after : Context} (accesses : Accesses context first turn after more)
    (free : first.free = true) : ∀ next ∈ more, next.free = true := by
  cases accesses with
  | returns => cases free
  | ends => cases free
  | _ => simp [Access.free]

theorem owes_step {after : Context} {rest : Writer}
    (accesses : Accesses context first turn after more) (owes : Owes (first :: rest)) :
    after.flags.fault = true ∨ Owes (more ++ rest) := by
  obtain ⟨⟨brings, among, faults⟩, free⟩ := owes
  have waitless : ∀ next ∈ more ++ rest, next.free = true := by
    intro next among
    rcases List.mem_append.mp among with added | left
    · exact accesses.stays_free (free first List.mem_cons_self) next added
    · exact free next (List.mem_cons_of_mem _ left)
  rcases List.mem_cons.mp among with rfl | left
  · rcases accesses.brings faults with set | ⟨next, added, faults⟩
    · exact .inl set
    · exact .inr ⟨⟨next, List.mem_append_left _ added, faults⟩, waitless⟩
  · exact .inr ⟨⟨brings, List.mem_append_right _ left, faults⟩, waitless⟩

def Stores (task : Writer) : Prop :=
  ∀ first rest, task = first :: rest →
    .storeFaulted ∉ rest ∧ (first = .storeFaulted → Owes rest)

structure Accompanied (state : Tasks Context Writer) : Prop where
  stored : state.shared.faulted = true →
    state.shared.flags.fault = true ∨
      ∃ id task, state.tasks.lookup id = some task ∧ Owes task
  stores : ∀ id task, state.tasks.lookup id = some task → Stores task

private theorem writer_stores (call : Write) : Stores (writer call) := by
  rintro first rest same
  cases call with
  | publishTerminalFlags fault =>
      cases fault with
      | false =>
          cases same
          exact ⟨by decide, nofun⟩
      | true =>
          cases same
          exact ⟨by decide, fun _ => ⟨⟨.load true, by decide, rfl⟩, by decide⟩⟩
  | hostFault =>
      cases same
      exact ⟨by decide, fun _ => ⟨⟨.orFault, by decide, rfl⟩, by decide⟩⟩
  | stopSync =>
      cases same
      exact ⟨by decide, nofun⟩

private theorem Stores.of_storeless {task : Writer} (storeless : .storeFaulted ∉ task) :
    Stores task := by
  rintro first rest rfl
  rw [List.mem_cons, not_or] at storeless
  exact ⟨storeless.2, fun same => absurd same.symm storeless.1⟩

private theorem Accesses.storeless {after : Context}
    (accesses : Accesses context first turn after more) :
    Access.storeFaulted ∉ more := by
  cases accesses with
  | returns => split <;> decide
  | loads => simp
  | retries => simp
  | _ => exact List.not_mem_nil

private theorem Accesses.stored {after : Context}
    (accesses : Accesses context first turn after more)
    (faulted : after.faulted = true) : context.faulted = true ∨ first = .storeFaulted := by
  cases accesses with
  | stores => exact .inr rfl
  | _ => exact .inl faulted

theorem accompanied_step (stepped : system.step before event after)
    (accompanied : Accompanied before) : Accompanied after := by
  obtain rfl : after = Tasks.next kind before event := stepped
  have moved := Tasks.next_moved kind before event
  generalize Tasks.next kind before event = after at moved
  obtain ⟨stored, stores⟩ := accompanied
  cases moved with
  | still => exact ⟨stored, stores⟩
  | @started id call vacant =>
      refine ⟨?_, ?_⟩
      · intro faulted
        rcases stored faulted with set | ⟨other, task, found, owes⟩
        · exact .inl set
        · refine .inr ⟨other, task, ?_, owes⟩
          dsimp only
          rw [Table.lookup_insert_eq, if_neg]
          · exact found
          · rintro rfl
            rw [vacant] at found
            cases found
      · intro other task found
        dsimp only at found
        rw [Table.lookup_insert_eq] at found
        split at found
        · cases found
          exact writer_stores call
        · exact stores other task found
  | @stepped id turn task stepped context present taken =>
      obtain ⟨first, rest, more, rfl, rfl, accesses⟩ := write_accesses id taken
      have own := stores id _ present first rest rfl
      refine ⟨?_, ?_⟩
      · intro faulted
        rcases accesses.stored faulted with already | rfl
        · rcases stored already with set | ⟨other, task, found, owes⟩
          · exact .inl (accesses.later.fault set)
          · by_cases same : other = id
            · subst same
              obtain rfl := Option.some.inj (present.symm.trans found)
              rcases owes_step accesses owes with set | owes
              · exact .inl set
              · exact .inr ⟨other, _, AList.lookup_insert _, owes⟩
            · refine .inr ⟨other, task, ?_, owes⟩
              dsimp only
              rw [AList.lookup_insert_ne same]
              exact found
        · cases accesses
          exact .inr ⟨id, rest, AList.lookup_insert _, own.2 rfl⟩
      · intro other task found
        dsimp only at found
        rw [Table.lookup_insert_eq] at found
        split at found
        · cases found
          refine .of_storeless ?_
          rw [List.mem_append, not_or]
          exact ⟨accesses.storeless, own.1⟩
        · exact stores other task found
  | around => rename_i event; exact nomatch event

theorem reachable_accompanied (reached : system.Reachable state) : Accompanied state := by
  apply reached.invariant
  · rintro first ⟨fresh, empty⟩
    refine ⟨?_, ?_⟩
    · rw [fresh]
      exact nofun
    · rw [empty]
      exact nofun
  · exact fun _ _ _ stepped accompanied => accompanied_step stepped accompanied

def goes (id : Nat) : Tasks.Event Write Turn Empty → Bool
  | .advance other .proceed => other = id
  | _ => false

private theorem goes_of_ne {id : Nat}
    (other : event ≠ .advance id .proceed) : goes id event = false := by
  unfold goes
  split
  · rename_i taker
    exact decide_eq_false (fun same => other (same ▸ rfl))
  · rfl

/-- A writer that owes the bit has so many turns left, or the bit is set. -/
def Within (id bound : Nat) (state : Tasks Context Writer) : Prop :=
  state.shared.flags.fault = true ∨
    ∃ task, state.tasks.lookup id = some task ∧ Owes task ∧
      cost state.shared.flags task ≤ bound

private theorem access_free (free : first.free = true) :
    ∃ done, access context first .proceed = some done := by
  cases first with
  | shutdown => cases free
  | compareExchange fault old =>
      simp only [access]
      split <;> exact ⟨_, rfl⟩
  | _ => exact ⟨_, rfl⟩

private theorem within_access {after : Context} {rest : Writer} {bound : Nat}
    (accesses : Accesses context first turn after more) (owes : Owes (first :: rest))
    (left : cost context.flags (first :: rest) ≤ bound + if turn = .proceed then 1 else 0) :
    after.flags.fault = true ∨
      Owes (more ++ rest) ∧ cost after.flags (more ++ rest) ≤ bound := by
  rcases owes_step accesses owes with set | owing
  · exact .inl set
  · refine .inr ⟨owing, ?_⟩
    have spends := accesses.spends (owes.2 first List.mem_cons_self)
    have others := cost_le accesses.settles rest
    change first.cost context.flags + cost context.flags rest ≤ _ at left
    rw [cost_append]
    omega

theorem within_step {id bound : Nat} (stepped : system.step before event after)
    (within : Within id (bound + if goes id event then 1 else 0) before) :
    Within id bound after := by
  obtain rfl : after = Tasks.next kind before event := stepped
  rcases within with set | ⟨task, present, owes, left⟩
  · exact .inl ((step_later rfl).fault set)
  · cases task with
    | nil => obtain ⟨⟨_, among, _⟩, _⟩ := owes; cases among
    | cons first rest =>
        by_cases going : event = .advance id .proceed
        · -- Its own turn: the access can be made, and spends one of the turns left.
          subst going
          obtain ⟨⟨context, more⟩, done⟩ := access_free (owes.2 first List.mem_cons_self)
          have taken : kind.step id .proceed before.shared (first :: rest) =
              some (context, more ++ rest) := by
            change (access before.shared first .proceed).map _ = _
            rw [done]
            rfl
          rw [Tasks.next_advance kind present taken]
          rw [goes, decide_eq_true rfl] at left
          rcases within_access (access_accesses done) owes left with set | ⟨owing, fewer⟩
          · exact .inl set
          · exact .inr ⟨_, AList.lookup_insert _, owing, fewer⟩
        · have fits : cost before.shared.flags (first :: rest) ≤ bound := by
            rw [goes_of_ne going] at left
            exact left
          have moved := Tasks.next_moved kind before event
          generalize Tasks.next kind before event = after at moved
          cases moved with
          | still => exact .inr ⟨_, present, owes, fits⟩
          | @started other call vacant =>
              refine .inr ⟨_, ?_, owes, fits⟩
              dsimp only
              rw [AList.lookup_insert_ne, present]
              rintro rfl
              rw [vacant] at present
              cases present
          | @stepped other turn task stepped context found taken =>
              obtain ⟨head, tail, more, rfl, rfl, accesses⟩ := write_accesses other taken
              by_cases same : id = other
              · subst same
                cases present.symm.trans found
                have waited : turn ≠ .proceed := fun proceeds => going (by rw [proceeds])
                have leaves : cost before.shared.flags (first :: rest) ≤
                    bound + if turn = .proceed then 1 else 0 := by
                  rw [if_neg waited]
                  exact fits
                rcases within_access accesses owes leaves with set | ⟨owing, fewer⟩
                · exact .inl set
                · exact .inr ⟨_, AList.lookup_insert _, owing, fewer⟩
              · refine .inr ⟨_, ?_, owes, Nat.le_trans (cost_le accesses.settles _) fits⟩
                dsimp only
                rw [AList.lookup_insert_ne same, present]
          | around => rename_i event; exact nomatch event

theorem run_within {events : List (Tasks.Event Write Turn Empty)} {id bound : Nat}
    (run : system.Run before events after)
    (within : Within id (bound + events.countP (goes id)) before) : Within id bound after := by
  induction run generalizing bound with
  | nil => exact within
  | @snoc middle last events event _ stepped ih =>
      rw [List.countP_append, List.countP_singleton] at within
      exact within_step stepped (ih (by rwa [Nat.add_right_comm, Nat.add_assoc]))

theorem fault_accompanied (reached : system.Reachable state)
    (faulted : state.shared.faulted = true) :
    ∃ id bound, ∀ events after, system.Run state events after →
      bound ≤ events.countP (goes id) → after.shared.flags.fault = true := by
  rcases (reachable_accompanied reached).stored faulted with set | ⟨id, task, present, owes⟩
  · exact ⟨0, 0, fun _ _ run _ => (run_later run).fault set⟩
  · refine ⟨id, cost state.shared.flags task, ?_⟩
    intro events after run enough
    have within : Within id (0 + events.countP (goes id)) state :=
      .inr ⟨task, present, owes, by rwa [Nat.zero_add]⟩
    -- The run is not as long as the bound: the turns left would be none.
    rcases run_within run within with set | ⟨left, _, owing, spent⟩
    · exact set
    · exact absurd (cost_pos after.shared.flags owing) (Nat.not_lt.mpr spent)

end Terminal

end ModuleTransport

end TinyBus
