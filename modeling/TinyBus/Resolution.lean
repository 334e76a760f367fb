/-
The table that resolves each module once.  The first caller that asks for a module
is told to run the resolution and holds a sender; the others wait on the channel
of that claim.  A claim ends by what its runner reports, or by the loss of its
last sender, which the first waiter to see it records as a failure.
-/

import TinyBus.Library.Tasks

namespace TinyBus

open TransitionSystem

inductive Resolution where
  | ready
  | failed (reason : String)
  deriving DecidableEq

/-- A slot in flight holds a receiver of the channel of its claim. -/
inductive ResolutionSlot where
  | inFlight (channel : Nat)
  | done (resolution : Resolution)
  deriving DecidableEq

/-- The watch channel of a claim: the module, the caller told to run, what was
sent, and the senders that are left. -/
structure WatchChannel where
  id : String
  runner : Nat
  value : Option Resolution
  senders : Nat

/-- The slots, and the channels that the callers hold ends of. -/
structure ResolutionTable where
  slots : Table String ResolutionSlot
  channels : List WatchChannel

inductive ResolutionClaim where
  | run (channel : Nat)
  | wait (channel : Nat)
  | done (resolution : Resolution)

def abandonedResolution : Resolution :=
  .failed "module resolution was abandoned; restart the app to try again"

namespace ResolutionTable

def empty : ResolutionTable := { slots := ∅, channels := [] }

def update (table : ResolutionTable) (channel : Nat)
    (change : WatchChannel → WatchChannel) : ResolutionTable :=
  { table with channels := table.channels.modify channel change }

def settle (table : ResolutionTable) (id : String) (resolution : Resolution) :
    ResolutionTable :=
  { table with slots := table.slots.insert id (.done resolution) }

def claim (table : ResolutionTable) (caller : Nat) (id : String) : ResolutionClaim × ResolutionTable :=
  match table.slots.lookup id with
  | some (.done resolution) => (.done resolution, table)
  | some (.inFlight channel) => (.wait channel, table)
  | none =>
      (.run table.channels.length,
        { slots := table.slots.insert id (.inFlight table.channels.length)
          channels := table.channels ++ [⟨id, caller, none, 1⟩] })

/-- The slot is settled before the channel fires, under one lock. -/
def complete (table : ResolutionTable) (id : String) (resolution : Resolution)
    (channel : Nat) : ResolutionTable :=
  (table.settle id resolution).update channel
    (fun held => { held with value := some resolution })

def markFaulted (table : ResolutionTable) (id reason : String) : ResolutionTable :=
  match table.slots.lookup id with
  | some (.done .ready) => table.settle id (.failed reason)
  | _ => table

/-- A waiter that saw its channel close without a value records the failure,
where the slot still is that of its channel. -/
def abandon (table : ResolutionTable) (id : String) (channel : Nat) : ResolutionTable :=
  match table.slots.lookup id with
  | some (.inFlight current) =>
      if current = channel then table.settle id abandonedResolution else table
  | _ => table

end ResolutionTable

/-! ### Callers -/

/-- Where a caller is.  `abandoned` has seen its channel close and waits for the
lock of the table. -/
inductive WaitPhase where
  | claiming
  | waiting (channel : Nat)
  | abandoned (channel : Nat)
  | released (channel : Nat) (resolution : Resolution)
  | answered (resolution : Resolution)
  | stillLoading
  | dropped
  deriving DecidableEq

structure ResolutionCaller where
  id : String
  phase : WaitPhase

/-- What a caller does next; its bound may pass, and its future may be dropped,
wherever it waits. -/
inductive WaitChoice where
  | go
  | expire
  | drop

namespace ResolutionCaller

def goTo (resolver : ResolutionCaller) (phase : WaitPhase) : ResolutionCaller :=
  { resolver with phase := phase }

/-- One look of a waiter at its channel: a value is taken before the loss of the
senders is noticed. -/
def look (table : ResolutionTable) (resolver : ResolutionCaller) (channel : Nat) : Option ResolutionCaller :=
  match table.channels[channel]? with
  | none => none
  | some held =>
      match held.value with
      | some resolution => some (resolver.goTo (.released channel resolution))
      | none => if held.senders = 0 then some (resolver.goTo (.abandoned channel)) else none

def step (caller : Nat) (choice : WaitChoice) (table : ResolutionTable)
    (resolver : ResolutionCaller) : Option (ResolutionTable × ResolutionCaller) :=
  match resolver.phase, choice with
  | .claiming, .go =>
      match table.claim caller resolver.id with
      | (.done resolution, after) => some (after, resolver.goTo (.answered resolution))
      | (.wait channel, after) => some (after, resolver.goTo (.waiting channel))
      | (.run channel, after) => some (after, resolver.goTo (.waiting channel))
  | .waiting channel, .go =>
      (resolver.look table channel).map (fun looked => (table, looked))
  | .abandoned channel, .go =>
      some (table.abandon resolver.id channel,
        resolver.goTo (.released channel abandonedResolution))
  | .waiting _, .expire => some (table, resolver.goTo .stillLoading)
  | .waiting _, .drop => some (table, resolver.goTo .dropped)
  | _, _ => none

end ResolutionCaller

inductive ResolutionEvent where
  | clone (channel : Nat)
  | drop (channel : Nat)
  | complete (channel : Nat) (resolution : Resolution)
  | markFaulted (id reason : String)

namespace ResolutionTable

def outside (table : ResolutionTable) : ResolutionEvent → ResolutionTable
  | .clone channel =>
      table.update channel (fun held => { held with senders := held.senders + 1 })
  | .drop channel =>
      table.update channel (fun held => { held with senders := held.senders - 1 })
  | .complete channel resolution =>
      match table.channels[channel]? with
      | none => table
      | some held => table.complete held.id resolution channel
  | .markFaulted id reason => table.markFaulted id reason

abbrev State := Tasks ResolutionTable ResolutionCaller

abbrev Event := Tasks.Event String WaitChoice ResolutionEvent

def kind : Tasks.Kind ResolutionTable ResolutionCaller String WaitChoice ResolutionEvent where
  start := fun id => ⟨id, .claiming⟩
  step := ResolutionCaller.step
  outside := fun event state => state.shared.outside event

/-- A sender is used by who holds one, and the outcome of a claim is reported
once: `complete` takes the sender, and of the runner and the thread it hands a
clone to, one reports. -/
def Possible (state : State) : Event → Prop
  | .outside (.clone channel) =>
      ∃ held, state.shared.channels[channel]? = some held ∧ 0 < held.senders
  | .outside (.complete channel _) =>
      ∃ held, state.shared.channels[channel]? = some held ∧ 0 < held.senders ∧
        held.value = none
  | _ => True

def system : System State Event := (Tasks.system kind (· = empty)).restrict Possible

/-! ### What is claimed of it -/

/-- No module has two claims, so no two callers are told to run its resolution. -/
def SingleRunner (table : ResolutionTable) : Prop :=
  ∀ (first second : Nat) (one other : WatchChannel), table.channels[first]? = some one →
    table.channels[second]? = some other → one.id = other.id → first = second

/-- What a claim came to: what its runner sent, or a failure where every sender
was lost. -/
def outcome (held : WatchChannel) : Option Resolution :=
  match held.value with
  | some resolution => some resolution
  | none => if held.senders = 0 then some abandonedResolution else none

/-- The only ways in which a slot changes. -/
inductive SlotMove : Option ResolutionSlot → Option ResolutionSlot → Prop
  | still {slot : Option ResolutionSlot} : SlotMove slot slot
  | claimed {channel : Nat} : SlotMove none (some (.inFlight channel))
  | settled {channel : Nat} {resolution : Resolution} :
      SlotMove (some (.inFlight channel)) (some (.done resolution))
  | faulted {reason : String} :
      SlotMove (some (.done .ready)) (some (.done (.failed reason)))

/-- A released waiter has the outcome of its claim, which its module's slot holds
unless the module has faulted since. -/
def Answered (state : State) : Prop :=
  ∀ caller resolver channel resolution, state.tasks.lookup caller = some resolver →
    resolver.phase = .released channel resolution →
      ∃ held, state.shared.channels[channel]? = some held ∧ held.id = resolver.id ∧
        outcome held = some resolution ∧
        (state.shared.slots.lookup resolver.id = some (.done resolution) ∨
          resolution = .ready ∧
            ∃ reason, state.shared.slots.lookup resolver.id = some (.done (.failed reason)))

/-- A waiter is kept waiting only while a sender is left and has sent nothing. -/
def Unstuck (state : State) : Prop :=
  ∀ caller resolver channel, state.tasks.lookup caller = some resolver →
    resolver.phase = .waiting channel →
      (∃ held, state.shared.channels[channel]? = some held ∧ held.value = none ∧
        0 < held.senders) ∨
      (ResolutionCaller.step caller .go state.shared resolver).isSome

/-! ### Soundness of the table -/

def Fits (table : ResolutionTable) (channel : Nat) (held : WatchChannel) : Prop :=
  match held.value with
  | some resolution =>
      table.slots.lookup held.id = some (.done resolution) ∨
        resolution = .ready ∧ ∃ reason, table.slots.lookup held.id = some (.done (.failed reason))
  | none =>
      table.slots.lookup held.id = some (.inFlight channel) ∨
        held.senders = 0 ∧ table.slots.lookup held.id = some (.done abandonedResolution)

structure Sound (table : ResolutionTable) : Prop where
  fits : ∀ (channel : Nat) (held : WatchChannel), table.channels[channel]? = some held → Fits table channel held
  current : ∀ id channel, table.slots.lookup id = some (.inFlight channel) →
    ∃ held, table.channels[channel]? = some held ∧ held.id = id ∧ held.value = none
  single : SingleRunner table

/-- Every sender was lost without a value. -/
def Closed (held : WatchChannel) : Prop := held.value = none ∧ held.senders = 0

structure Forward (before after : ResolutionTable) : Prop where
  slots : ∀ id, SlotMove (before.slots.lookup id) (after.slots.lookup id)
  channels : ∀ (channel : Nat) (held : WatchChannel), before.channels[channel]? = some held →
    ∃ later, after.channels[channel]? = some later ∧ later.id = held.id ∧
      (∀ resolution, held.value = some resolution → later.value = some resolution) ∧
      (Closed held → Closed later)

theorem Forward.refl (table : ResolutionTable) : Forward table table where
  slots := fun _ => .still
  channels := fun _ held found => ⟨held, found, rfl, fun _ sent => sent, fun closed => closed⟩

theorem sound_empty : Sound empty where
  fits := by
    intro channel held found
    cases found
  current := by
    intro id channel found
    cases found
  single := by
    intro first second one other found
    cases found

variable {channel : Nat} {held : WatchChannel} {table : ResolutionTable} {resolution : Resolution}

theorem Sound.slot_present (sound : Sound table) (found : table.channels[channel]? = some held) :
    table.slots.lookup held.id ≠ none := by
  have fits := sound.fits channel held found
  unfold Fits at fits
  intro missing
  rw [missing] at fits
  split at fits
  · rcases fits with same | ⟨_, _, same⟩
    · cases same
    · cases same
  · rcases fits with same | ⟨_, same⟩
    · cases same
    · cases same

theorem claim_sound (sound : Sound table) (caller : Nat) (id : String) :
    Sound (table.claim caller id).2 ∧ Forward table (table.claim caller id).2 := by
  unfold claim
  split
  · exact ⟨sound, .refl table⟩
  · exact ⟨sound, .refl table⟩
  · rename_i vacant
    have older : ∀ {channel : Nat} {held : WatchChannel},
        table.channels[channel]? = some held →
          held.id ≠ id ∧ (table.channels ++ [⟨id, caller, none, 1⟩])[channel]? = some held := by
      intro channel held found
      refine ⟨?_, ?_⟩
      · intro same
        exact sound.slot_present found (same ▸ vacant)
      · rw [List.getElem?_append_left (List.getElem?_eq_some_iff.mp found).1]
        exact found
    have cases : ∀ {channel : Nat} {held : WatchChannel},
        (table.channels ++ [⟨id, caller, none, 1⟩])[channel]? = some held →
          table.channels[channel]? = some held ∨
            channel = table.channels.length ∧ held = ⟨id, caller, none, 1⟩ := by
      intro channel held found
      rw [List.getElem?_append] at found
      split at found
      · exact .inl found
      · rw [List.getElem?_singleton] at found
        split at found
        · cases found
          exact .inr ⟨by omega, rfl⟩
        · cases found
    refine ⟨⟨?_, ?_, ?_⟩, ⟨?_, ?_⟩⟩
    · intro channel held found
      rcases cases found with old | ⟨rfl, rfl⟩
      · have fits := sound.fits channel held old
        unfold Fits at fits ⊢
        dsimp only
        rw [AList.lookup_insert_ne (older old).1]
        exact fits
      · unfold Fits
        dsimp only
        rw [AList.lookup_insert]
        exact .inl rfl
    · intro other channel flying
      dsimp only at flying ⊢
      rw [Table.lookup_insert_eq] at flying
      split at flying
      · rename_i same
        cases flying
        exact ⟨_, List.getElem?_concat_length, same.symm, rfl⟩
      · obtain ⟨held, found, named, unsent⟩ := sound.current other channel flying
        exact ⟨held, (older found).2, named, unsent⟩
    · intro first second one other atFirst atSecond same
      rcases cases atFirst with old | ⟨rfl, rfl⟩ <;>
        rcases cases atSecond with earlier | ⟨rfl, rfl⟩
      · exact sound.single first second one other old earlier same
      · exact absurd same (older old).1
      · exact absurd same.symm (older earlier).1
      · rfl
    · intro other
      dsimp only
      rw [Table.lookup_insert_eq]
      split
      · rename_i same
        rw [same, vacant]
        exact .claimed
      · exact .still
    · intro channel held found
      exact ⟨held, (older found).2, rfl, fun _ sent => sent, fun closed => closed⟩

theorem getElem?_update {other : Nat} {change : WatchChannel → WatchChannel} {later : WatchChannel}
    (found : (table.update channel change).channels[other]? = some later) :
    ∃ held, table.channels[other]? = some held ∧
      later = if channel = other then change held else held := by
  unfold update at found
  dsimp only at found
  rw [List.getElem?_modify] at found
  obtain ⟨held, present, same⟩ := Option.map_eq_some_iff.mp found
  exact ⟨held, present, same.symm⟩

theorem update_getElem? (table : ResolutionTable) {other : Nat} (channel : Nat)
    (change : WatchChannel → WatchChannel) (found : table.channels[other]? = some held) :
    (table.update channel change).channels[other]? =
      some (if channel = other then change held else held) := by
  unfold update
  dsimp only
  rw [List.getElem?_modify, found]
  rfl

theorem senders_sound (sound : Sound table) {change : WatchChannel → WatchChannel}
    (named : ∀ held, (change held).id = held.id) (valued : ∀ held, (change held).value = held.value)
    (lost : ∀ held, table.channels[channel]? = some held → held.senders = 0 →
      (change held).senders = 0) :
    Sound (table.update channel change) ∧ Forward table (table.update channel change) := by
  have changed : ∀ {other : Nat} {held : WatchChannel}, table.channels[other]? = some held →
      ∃ later, later = (if channel = other then change held else held) ∧
        later.id = held.id ∧ later.value = held.value ∧
        (held.senders = 0 → later.senders = 0) := by
    intro other held found
    refine ⟨_, rfl, ?_⟩
    split
    · rename_i same
      exact ⟨named held, valued held, lost held (same ▸ found)⟩
    · exact ⟨rfl, rfl, fun none => none⟩
  refine ⟨⟨?_, ?_, ?_⟩, ⟨fun _ => .still, ?_⟩⟩
  · intro other later found
    obtain ⟨held, present, rfl⟩ := getElem?_update found
    obtain ⟨later, same, sameId, sameValue, sameLoss⟩ := changed present
    rw [← same]
    have fits := sound.fits other held present
    unfold Fits at fits ⊢
    rw [sameId, sameValue]
    change match held.value with
      | some resolution => table.slots.lookup held.id = some (.done resolution) ∨
          resolution = .ready ∧
            ∃ reason, table.slots.lookup held.id = some (.done (.failed reason))
      | none => table.slots.lookup held.id = some (.inFlight other) ∨
          later.senders = 0 ∧ table.slots.lookup held.id = some (.done abandonedResolution)
    split at fits
    · exact fits
    · exact fits.imp_right (fun settled => ⟨sameLoss settled.1, settled.2⟩)
  · intro id other flying
    obtain ⟨held, found, same, unsent⟩ := sound.current id other flying
    obtain ⟨later, _, sameId, sameValue, _⟩ := changed found
    exact ⟨_, update_getElem? table channel change found, by grind, by grind⟩
  · intro first second one other atFirst atSecond same
    obtain ⟨before, old, rfl⟩ := getElem?_update atFirst
    obtain ⟨earlier, older, rfl⟩ := getElem?_update atSecond
    exact sound.single first second before earlier old older (by grind)
  · intro other held found
    obtain ⟨later, same, sameId, sameValue, sameLoss⟩ := changed found
    refine ⟨later, ?_, sameId, ?_, ?_⟩
    · rw [same]
      exact update_getElem? table channel change found
    · intro resolution sent
      rw [sameValue]
      exact sent
    · rintro ⟨unsent, lost⟩
      exact ⟨sameValue.trans unsent, sameLoss lost⟩

theorem settle_sound (sound : Sound table) {id : String}
    (fits : ∀ channel held, table.channels[channel]? = some held → held.id = id →
      Fits (table.settle id resolution) channel held)
    (moves : SlotMove (table.slots.lookup id) (some (.done resolution))) :
    Sound (table.settle id resolution) ∧ Forward table (table.settle id resolution) := by
  have slots : ∀ other, (table.settle id resolution).slots.lookup other =
      if other = id then some (.done resolution) else table.slots.lookup other :=
    fun other => Table.lookup_insert_eq table.slots id other _
  refine ⟨⟨?_, ?_, sound.single⟩, ⟨?_, ?_⟩⟩
  · intro channel held found
    by_cases same : held.id = id
    · exact fits channel held found same
    · have before := sound.fits channel held found
      unfold Fits at before ⊢
      rw [slots, if_neg same]
      exact before
  · intro other channel flying
    rw [slots] at flying
    split at flying
    · cases flying
    · exact sound.current other channel flying
  · intro other
    rw [slots]
    split
    · rename_i same
      rw [same]
      exact moves
    · exact .still
  · exact fun _ held found => ⟨held, found, rfl, fun _ sent => sent, fun closed => closed⟩

theorem complete_sound (sound : Sound table) (found : table.channels[channel]? = some held)
    (left : 0 < held.senders) (unsent : held.value = none) (resolution : Resolution) :
    Sound (table.complete held.id resolution channel) ∧
      Forward table (table.complete held.id resolution channel) := by
  have flying : table.slots.lookup held.id = some (.inFlight channel) := by
    have fits := sound.fits channel held found
    unfold Fits at fits
    rw [unsent] at fits
    rcases fits with flying | ⟨lost, _⟩
    · exact flying
    · omega
  have slots : ∀ other, (table.complete held.id resolution channel).slots.lookup other =
      if other = held.id then some (.done resolution) else table.slots.lookup other :=
    fun other => Table.lookup_insert_eq table.slots held.id other _
  have changed : ∀ {other : Nat} {later : WatchChannel},
      (table.complete held.id resolution channel).channels[other]? = some later →
        other = channel ∧ later = { held with value := some resolution } ∨
          other ≠ channel ∧ table.channels[other]? = some later := by
    intro other later present
    obtain ⟨before, old, rfl⟩ := getElem?_update present
    change table.channels[other]? = some before at old
    split
    · rename_i same
      rw [← same, found] at old
      cases old
      exact .inl ⟨same.symm, rfl⟩
    · rename_i different
      exact .inr ⟨fun same => different same.symm, old⟩
  have kept : ∀ {other : Nat} {before : WatchChannel},
      table.channels[other]? = some before → other ≠ channel →
        (table.complete held.id resolution channel).channels[other]? = some before := by
    intro other before old different
    refine (update_getElem? (table.settle held.id resolution) channel _ old).trans ?_
    rw [if_neg (fun same => different same.symm)]
  have own : (table.complete held.id resolution channel).channels[channel]? =
      some { held with value := some resolution } := by
    refine (update_getElem? (table.settle held.id resolution) channel _ found).trans ?_
    rw [if_pos rfl]
  refine ⟨⟨?_, ?_, ?_⟩, ⟨?_, ?_⟩⟩
  · intro other later present
    rcases changed present with ⟨_, rfl⟩ | ⟨different, old⟩
    · unfold Fits
      dsimp only
      rw [slots, if_pos rfl]
      exact .inl rfl
    · have apart : later.id ≠ held.id :=
        fun same => different (sound.single other channel later held old found same)
      have fits := sound.fits other later old
      unfold Fits at fits ⊢
      rw [slots, if_neg apart]
      exact fits
  · intro id other flies
    rw [slots] at flies
    split at flies
    · cases flies
    · rename_i apart
      obtain ⟨before, old, named, none⟩ := sound.current id other flies
      refine ⟨before, kept old ?_, named, none⟩
      rintro rfl
      rw [found] at old
      cases old
      exact apart named.symm
  · intro first second one other atFirst atSecond same
    rcases changed atFirst with ⟨rfl, rfl⟩ | ⟨_, old⟩ <;>
      rcases changed atSecond with ⟨rfl, rfl⟩ | ⟨_, older⟩
    · rfl
    · exact sound.single _ second held other found older same
    · exact sound.single first _ one held old found same
    · exact sound.single first second one other old older same
  · intro other
    rw [slots]
    split
    · rename_i same
      rw [same, flying]
      exact .settled
    · exact .still
  · intro other before old
    by_cases same : other = channel
    · subst same
      rw [found] at old
      cases old
      refine ⟨_, own, rfl, ?_, ?_⟩
      · intro other sent
        rw [unsent] at sent
        cases sent
      · rintro ⟨_, lost⟩
        omega
    · exact ⟨before, kept old same, rfl, fun _ sent => sent, fun closed => closed⟩

theorem markFaulted_sound (sound : Sound table) (id reason : String) :
    Sound (table.markFaulted id reason) ∧ Forward table (table.markFaulted id reason) := by
  unfold markFaulted
  split
  · rename_i serving
    refine settle_sound sound ?_ (serving ▸ .faulted)
    intro channel held found same
    have fits := sound.fits channel held found
    have stored : (table.settle id (.failed reason)).slots.lookup held.id =
        some (.done (.failed reason)) := by
      rw [same]
      exact AList.lookup_insert table.slots
    unfold Fits at fits ⊢
    rw [same, serving] at fits
    split at fits
    · rcases fits with ready | ⟨_, _, failed⟩
      · cases ready
        exact .inr ⟨rfl, reason, stored⟩
      · cases failed
    · rcases fits with flying | ⟨_, lost⟩
      · cases flying
      · cases lost
  · exact ⟨sound, .refl table⟩

theorem abandon_sound (sound : Sound table) (found : table.channels[channel]? = some held)
    (unsent : held.value = none) (lost : held.senders = 0) :
    Sound (table.abandon held.id channel) ∧ Forward table (table.abandon held.id channel) ∧
      (table.abandon held.id channel).slots.lookup held.id =
        some (.done abandonedResolution) := by
  have fits := sound.fits channel held found
  unfold Fits at fits
  rw [unsent] at fits
  unfold abandon
  rcases fits with flying | ⟨_, settled⟩
  · rw [flying]
    dsimp only
    rw [if_pos rfl]
    have stored : (table.settle held.id abandonedResolution).slots.lookup held.id =
        some (.done abandonedResolution) := AList.lookup_insert table.slots
    have advanced : Sound (table.settle held.id abandonedResolution) ∧
        Forward table (table.settle held.id abandonedResolution) := by
      refine settle_sound sound ?_ (flying ▸ .settled)
      intro other later present same
      have one := sound.single other channel later held present found same
      rw [one, found] at present
      cases present
      unfold Fits
      rw [unsent]
      exact .inr ⟨lost, stored⟩
    exact ⟨advanced.1, advanced.2, stored⟩
  · rw [settled]
    exact ⟨sound, .refl table, settled⟩

theorem outside_sound {state : State} (sound : Sound state.shared) {event : ResolutionEvent}
    (possible : Possible state (.outside event)) :
    Sound (state.shared.outside event) ∧ Forward state.shared (state.shared.outside event) := by
  cases event with
  | clone channel =>
      obtain ⟨held, found, left⟩ := possible
      refine senders_sound sound (fun _ => rfl) (fun _ => rfl) ?_
      intro other present none
      rw [found] at present
      cases present
      omega
  | drop channel =>
      refine senders_sound sound (fun _ => rfl) (fun _ => rfl) ?_
      intro held _ none
      dsimp only
      omega
  | complete channel resolution =>
      obtain ⟨held, found, left, unsent⟩ := possible
      unfold outside
      dsimp only
      rw [found]
      exact complete_sound sound found left unsent resolution
  | markFaulted id reason => exact markFaulted_sound sound id reason

/-! ### Every run -/

def Seated (_caller : Nat) (table : ResolutionTable) (resolver : ResolutionCaller) : Prop :=
  match resolver.phase with
  | .waiting channel =>
      ∃ held, table.channels[channel]? = some held ∧ held.id = resolver.id
  | .abandoned channel =>
        ∃ held, table.channels[channel]? = some held ∧ held.id = resolver.id ∧ Closed held
  | .released channel resolution =>
      ∃ held, table.channels[channel]? = some held ∧ held.id = resolver.id ∧
        outcome held = some resolution ∧
        (table.slots.lookup resolver.id = some (.done resolution) ∨
          resolution = .ready ∧
            ∃ reason, table.slots.lookup resolver.id = some (.done (.failed reason)))
  | _ => True

theorem Closed.outcome (closed : Closed held) :
    outcome held = some abandonedResolution := by
  unfold ResolutionTable.outcome
  rw [closed.1]
  exact if_pos closed.2

theorem outcome_cases (came : outcome held = some resolution) :
    held.value = some resolution ∨ Closed held ∧ resolution = abandonedResolution := by
  unfold outcome at came
  split at came
  · rename_i sent
    cases came
    exact .inl sent
  · rename_i unsent
    split at came
    · rename_i lost
      cases came
      exact .inr ⟨⟨unsent, lost⟩, rfl⟩
    · cases came

theorem outcome_of_value (sent : held.value = some resolution) :
    outcome held = some resolution := by
  unfold outcome
  rw [sent]

theorem Seated.forward {caller : Nat} {before after : ResolutionTable} {resolver : ResolutionCaller}
    (forward : Forward before after) (seated : Seated caller before resolver) :
    Seated caller after resolver := by
  unfold Seated at seated ⊢
  split
  · rename_i channel phase
    rw [phase] at seated
    obtain ⟨held, found, named⟩ := seated
    obtain ⟨later, present, same, _⟩ := forward.channels channel held found
    exact ⟨later, present, same.trans named⟩
  · rename_i channel phase
    rw [phase] at seated
    obtain ⟨held, found, named, closed⟩ := seated
    obtain ⟨later, present, same, _, closes⟩ := forward.channels channel held found
    exact ⟨later, present, same.trans named, closes closed⟩
  · rename_i channel resolution phase
    rw [phase] at seated
    obtain ⟨held, found, named, came, slot⟩ := seated
    obtain ⟨later, present, same, sends, closes⟩ := forward.channels channel held found
    refine ⟨later, present, same.trans named, ?_, ?_⟩
    · rcases outcome_cases came with sent | ⟨closed, rfl⟩
      · exact outcome_of_value (sends resolution sent)
      · exact (closes closed).outcome
    · have moved := forward.slots resolver.id
      generalize after.slots.lookup resolver.id = slotAfter at moved ⊢
      rcases slot with settled | ⟨ready, reason, failed⟩
      · rw [settled] at moved
        cases moved with
        | still => exact .inl rfl
        | faulted => exact .inr ⟨rfl, _, rfl⟩
      · rw [failed] at moved
        cases moved with
        | still => exact .inr ⟨ready, reason, rfl⟩
  · trivial

theorem step_sound {after : ResolutionTable} {caller : Nat} {choice : WaitChoice}
    {resolver stepped : ResolutionCaller} (sound : Sound table)
    (seated : Seated caller table resolver)
    (taken : ResolutionCaller.step caller choice table resolver = some (after, stepped)) :
    Sound after ∧ Forward table after ∧ Seated caller after stepped := by
  unfold ResolutionCaller.step at taken
  split at taken
  · -- claiming: the slot is what the caller is told
    have kept := claim_sound sound caller resolver.id
    have told : ∀ channel, (table.claim caller resolver.id).1 = .wait channel ∨
        (table.claim caller resolver.id).1 = .run channel →
        Seated caller (table.claim caller resolver.id).2
          (resolver.goTo (.waiting channel)) := by
      intro channel answer
      unfold claim at answer ⊢
      split at answer
      · rcases answer with impossible | impossible
        · cases impossible
        · cases impossible
      · rename_i current flying
        rcases answer with same | impossible
        · cases same
          obtain ⟨held, found, named, _⟩ := sound.current resolver.id channel flying
          exact ⟨held, found, named⟩
        · cases impossible
      · rcases answer with impossible | same
        · cases impossible
        · cases same
          exact ⟨_, List.getElem?_concat_length, rfl⟩
    split at taken
    · rename_i answer
      cases taken
      rw [answer] at kept
      exact ⟨kept.1, kept.2, trivial⟩
    · rename_i answer
      cases taken
      rw [answer] at kept told
      exact ⟨kept.1, kept.2, told _ (.inl rfl)⟩
    · rename_i answer
      cases taken
      rw [answer] at kept told
      exact ⟨kept.1, kept.2, told _ (.inr rfl)⟩
  · rename_i channel phase
    unfold Seated at seated
    rw [phase] at seated
    obtain ⟨held, found, named⟩ := seated
    obtain ⟨looked, look, same⟩ := Option.map_eq_some_iff.mp taken
    cases same
    refine ⟨sound, .refl table, ?_⟩
    unfold ResolutionCaller.look at look
    rw [found] at look
    dsimp only at look
    split at look
    · rename_i resolution sent
      cases look
      have fits := sound.fits channel held found
      unfold Fits at fits
      rw [sent, named] at fits
      exact ⟨held, found, named, outcome_of_value sent, fits⟩
    · rename_i unsent
      split at look
      · rename_i lost
        cases look
        exact ⟨held, found, named, unsent, lost⟩
      · cases look
  · rename_i channel phase
    cases taken
    unfold Seated at seated
    rw [phase] at seated
    obtain ⟨held, found, named, closed⟩ := seated
    obtain ⟨kept, forward, settled⟩ := abandon_sound sound found closed.1 closed.2
    rw [named] at kept forward settled
    refine ⟨kept, forward, ?_⟩
    obtain ⟨later, present, same, _, closes⟩ := forward.channels channel held found
    exact ⟨later, present, same.trans named, (closes closed).outcome, .inl settled⟩
  · cases taken
    exact ⟨sound, .refl table, trivial⟩
  · cases taken
    exact ⟨sound, .refl table, trivial⟩
  · cases taken

theorem keeps : Tasks.Keeps kind (fun state => Sound state.shared) Seated Possible where
  start := fun _ _ _ held _ _ => ⟨held.common, trivial⟩
  step := by
    intro state id choice task shared stepped held _ present taken
    obtain ⟨sound, _, seated⟩ := step_sound held.common (held.own id task present) taken
    exact ⟨sound, seated⟩
  other := by
    intro state id choice task shared stepped other bystander held _ present taken _ found
    obtain ⟨_, forward, _⟩ := step_sound held.common (held.own id task present) taken
    exact (held.own other bystander found).forward forward
  outside := by
    intro state event held possible
    obtain ⟨sound, forward⟩ := outside_sound held.common possible
    exact ⟨sound, fun id task found => (held.own id task found).forward forward⟩

theorem reachable_sound {state : State} (reached : system.Reachable state) :
    Tasks.Sound (fun state => Sound state.shared) Seated state := by
  have begins : ∀ state : State, state.shared = empty → state.tasks = ∅ →
      Sound state.shared := by
    intro first initial _
    rw [initial]
    exact sound_empty
  exact Tasks.sound_of_keeps keeps begins reached

theorem next_forward {state : State} (held : Tasks.Sound (fun state => Sound state.shared)
    Seated state) {event : Event} (possible : Possible state event) :
    Forward state.shared (Tasks.next kind state event).shared := by
  have moved := Tasks.next_moved kind state event
  generalize Tasks.next kind state event = after at moved
  cases moved with
  | still => exact .refl _
  | started => exact .refl _
  | stepped present taken =>
      exact (step_sound held.common (held.own _ _ present) taken).2.1
  | around => exact (outside_sound held.common possible).2

/-- In every run one caller a module runs its resolution, a slot goes from nothing
through in flight to its outcome, and every released waiter has that outcome. -/
theorem single_flight (state : State) (reached : system.Reachable state) :
    SingleRunner state.shared ∧ Answered state ∧ Unstuck state ∧
      ∀ event after, system.step state event after →
        ∀ id, SlotMove (state.shared.slots.lookup id) (after.shared.slots.lookup id) := by
  have sound := reachable_sound reached
  refine ⟨sound.common.single, ?_, ?_, ?_⟩
  · intro caller resolver channel resolution found phase
    have seated := sound.own caller resolver found
    unfold Seated at seated
    rw [phase] at seated
    exact seated
  · intro caller resolver channel found phase
    have seated := sound.own caller resolver found
    unfold Seated at seated
    rw [phase] at seated
    obtain ⟨held, present, _⟩ := seated
    by_cases waits : held.value = none ∧ 0 < held.senders
    · exact .inl ⟨held, present, waits⟩
    · refine .inr ?_
      unfold ResolutionCaller.step ResolutionCaller.look
      rw [phase]
      dsimp only
      rw [present]
      cases sent : held.value with
      | some resolution => dsimp only; rw [sent]; rfl
      | none =>
          have lost : held.senders = 0 :=
            Nat.eq_zero_of_not_pos (fun left => waits ⟨sent, left⟩)
          dsimp only
          rw [sent]
          dsimp only
          rw [if_pos lost]
          rfl
  · rintro event after ⟨possible, rfl⟩ id
    exact (next_forward sound possible).slots id

/-! ### A claim reported by the thread it was handed to, then faulted -/

def admits (state : State) : Event → Bool
  | .outside (.clone channel) =>
      (state.shared.channels[channel]?).any (fun held => 0 < held.senders)
  | .outside (.complete channel _) =>
      (state.shared.channels[channel]?).any
        (fun held => 0 < held.senders && held.value.isNone)
  | _ => true

theorem possible_of_admits {state : State} {event : Event}
    (admitted : admits state event = true) : Possible state event := by
  unfold admits at admitted
  unfold Possible
  split at admitted
  · obtain ⟨held, found, left⟩ := (Option.any_eq_true _ _).mp admitted
    exact ⟨held, found, of_decide_eq_true left⟩
  · obtain ⟨held, found, both⟩ := (Option.any_eq_true _ _).mp admitted
    obtain ⟨left, unsent⟩ := Bool.and_eq_true_iff.mp both
    exact ⟨held, found, of_decide_eq_true left, Option.isNone_iff_eq_none.mp unsent⟩
  · trivial

def handedOff : List Event :=
  [.start 0 "memory", .start 1 "memory", .advance 0 .go, .advance 1 .go,
    .outside (.clone 0), .outside (.drop 0), .outside (.complete 0 .ready), .advance 0 .go,
    .outside (.markFaulted "memory" "refused"), .advance 1 .go]

theorem handedOff_single_flight :
    ∃ state : State, (state.tasks.lookup 1).map ResolutionCaller.phase = some (.released 0 .ready) ∧
      state.shared.slots.lookup "memory" = some (.done (.failed "refused")) ∧
      SingleRunner state.shared ∧ Answered state ∧ Unstuck state ∧
        ∀ event after, system.step state event after →
          ∀ id, SlotMove (state.shared.slots.lookup id) (after.shared.slots.lookup id) := by
  have replayed : (replay (Tasks.next kind) admits ⟨empty, ∅⟩ handedOff).map
      (fun state => ((state.tasks.lookup 1).map ResolutionCaller.phase,
        state.shared.slots.lookup "memory")) =
      some (some (.released 0 .ready), some (.done (.failed "refused"))) := by
    decide
  obtain ⟨state, reached, seen⟩ := Option.map_eq_some_iff.mp replayed
  rw [Prod.mk.injEq] at seen
  have run : system.Run ⟨empty, ∅⟩ handedOff state := by
    apply System.Run.of_replay _ reached
    intro before event admitted
    exact ⟨possible_of_admits admitted, rfl⟩
  exact ⟨state, seen.1, seen.2,
    single_flight state ⟨⟨empty, ∅⟩, handedOff, ⟨rfl, rfl⟩, run⟩⟩

end ResolutionTable

end TinyBus
