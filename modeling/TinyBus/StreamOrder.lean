/-
The order of a stream's chunks when its handlers run at once.  Whoever holds the
gate is the only one to count and to push; what is pushed has the numbers from
zero on, and a write that was counted but never pushed leaves a stream that
nothing is pushed to any more.
-/

import TinyBus.StreamSteps

namespace TinyBus

open TransitionSystem

namespace StreamTask

namespace Shared

def Dead (shared : Shared) : Prop :=
  shared.reader = .dropped ∨ shared.aborted = true

/-- As many writes were counted as were pushed. -/
def Quiet (shared : Shared) : Prop :=
  shared.nextSeq = shared.pushed.length ∨ shared.Dead

def Counted (shared : Shared) : Prop :=
  shared.nextSeq = shared.pushed.length + 1 ∨ shared.Dead

def Cleared (shared : Shared) : Prop :=
  shared.nextSeq = shared.pushed.length + 1 ∨ shared.reader = .dropped

/-- What the holder of the gate can rely on. -/
def Stage (shared : Shared) : Phase → Prop
  | .gated _ | .numbering _ => shared.Quiet
  | .measuring write | .counting write _ => write.seq = shared.nextSeq ∧ shared.Quiet
  | .storing write _ | .touching write | .checking write =>
      write.seq + 1 = shared.nextSeq ∧ shared.Counted
  | .polling write | .offering write =>
      write.seq + 1 = shared.nextSeq ∧ shared.Cleared
  | .running program _ => .dropGate ∈ program → shared.Quiet
  | _ => True

structure Ordered (shared : Shared) : Prop where
  numbers : shared.pushed.map (fun entry => entry.2.seq) = List.range shared.pushed.length
  channel : shared.reader ≠ .dropped →
    shared.delivered ++ shared.buffered = shared.pushed.map (fun entry => entry.2.chunk)
  quiet : shared.gate = none → shared.Quiet

structure Frame (before after : Shared) : Prop where
  nextSeq : after.nextSeq = before.nextSeq
  pushed : after.pushed = before.pushed
  aborted : before.aborted = true → after.aborted = true
  dropped : before.reader = .dropped → after.reader = .dropped
  channel : after.reader ≠ .dropped →
    after.delivered ++ after.buffered = before.delivered ++ before.buffered

namespace Frame

variable {before after : Shared}

theorem refl (shared : Shared) : Frame shared shared :=
  ⟨rfl, rfl, id, id, fun _ => rfl⟩

theorem dead (frame : Frame before after) (dead : before.Dead) : after.Dead := by
  rcases dead with dropped | aborted
  · exact .inl (frame.dropped dropped)
  · exact .inr (frame.aborted aborted)

theorem quiet (frame : Frame before after) (quiet : before.Quiet) : after.Quiet := by
  rcases quiet with equal | dead
  · left
    rw [frame.nextSeq, frame.pushed, equal]
  · exact .inr (frame.dead dead)

theorem counted (frame : Frame before after) (counted : before.Counted) :
    after.Counted := by
  rcases counted with equal | dead
  · left
    rw [frame.nextSeq, frame.pushed, equal]
  · exact .inr (frame.dead dead)

theorem cleared (frame : Frame before after) (cleared : before.Cleared) :
    after.Cleared := by
  rcases cleared with equal | dropped
  · left
    rw [frame.nextSeq, frame.pushed, equal]
  · exact .inr (frame.dropped dropped)

theorem stage (frame : Frame before after) {phase : Phase} (stage : before.Stage phase) :
    after.Stage phase := by
  cases phase with
  | gated _ => exact frame.quiet stage
  | numbering _ => exact frame.quiet stage
  | measuring _ => exact ⟨stage.1.trans frame.nextSeq.symm, frame.quiet stage.2⟩
  | counting _ _ => exact ⟨stage.1.trans frame.nextSeq.symm, frame.quiet stage.2⟩
  | storing _ _ => exact ⟨stage.1.trans frame.nextSeq.symm, frame.counted stage.2⟩
  | touching _ => exact ⟨stage.1.trans frame.nextSeq.symm, frame.counted stage.2⟩
  | checking _ => exact ⟨stage.1.trans frame.nextSeq.symm, frame.counted stage.2⟩
  | polling _ => exact ⟨stage.1.trans frame.nextSeq.symm, frame.cleared stage.2⟩
  | offering _ => exact ⟨stage.1.trans frame.nextSeq.symm, frame.cleared stage.2⟩
  | running _ _ => exact fun member => frame.quiet (stage member)
  | start => trivial
  | found => trivial
  | waiting _ => trivial
  | inspecting => trivial
  | tallying => trivial
  | taking => trivial
  | answered _ => trivial

theorem ordered (frame : Frame before after) (ordered : before.Ordered)
    (gate : after.gate = none → before.gate = none ∨ before.Quiet) : after.Ordered := by
  refine ⟨?_, ?_, ?_⟩
  · rw [frame.pushed]
    exact ordered.numbers
  · intro present
    rw [frame.channel present, frame.pushed]
    exact ordered.channel (fun dropped => present (frame.dropped dropped))
  · intro free
    rcases gate free with was | quiet
    · exact frame.quiet (ordered.quiet was)
    · exact frame.quiet quiet

end Frame

theorem act_frame {shared after : Shared} {self : Nat} {action : Action}
    {more : List Action} (done : shared.act self action = some (after, more)) :
    Frame shared after ∧ (after.gate = if action = .dropGate then none else shared.gate) ∧
      (more = [] ∨ more = [.raise]) := by
  cases action with
  | remove =>
      simp only [act] at done
      split at done
      · cases done
        exact ⟨⟨rfl, rfl, id, id, fun _ => rfl⟩, rfl, .inl rfl⟩
      · cases done
  | complete totalLen =>
      simp only [act] at done
      split at done
      · cases done
        exact ⟨⟨rfl, rfl, id, id, fun _ => rfl⟩, rfl, .inl rfl⟩
      · cases done
        exact ⟨Frame.refl _, rfl, .inl rfl⟩
  | fail reason =>
      simp only [act] at done
      split at done
      · cases done
        exact ⟨⟨rfl, rfl, id, id, fun _ => rfl⟩, rfl, .inr rfl⟩
      · cases done
        exact ⟨Frame.refl _, rfl, .inl rfl⟩
  | raise =>
      cases done
      exact ⟨⟨rfl, rfl, fun _ => rfl, id, fun _ => rfl⟩, rfl, .inl rfl⟩
  | touch =>
      cases done
      exact ⟨⟨rfl, rfl, id, id, fun _ => rfl⟩, rfl, .inl rfl⟩
  | sealed =>
      cases done
      exact ⟨⟨rfl, rfl, id, id, fun _ => rfl⟩, rfl, .inl rfl⟩
  | dropReader =>
      simp only [act] at done
      split at done
      · cases done
        exact ⟨⟨rfl, rfl, id, fun _ => rfl, fun present => absurd rfl present⟩, rfl, .inl rfl⟩
      · cases done
        exact ⟨Frame.refl _, rfl, .inl rfl⟩
  | forget =>
      simp only [act] at done
      split at done
      · cases done
        exact ⟨Frame.refl _, rfl, .inl rfl⟩
      · cases done
        exact ⟨⟨rfl, rfl, id, id, fun _ => rfl⟩, rfl, .inl rfl⟩
  | unlock =>
      cases done
      exact ⟨⟨rfl, rfl, id, id, fun _ => rfl⟩, rfl, .inl rfl⟩
  | dropGate =>
      cases done
      exact ⟨⟨rfl, rfl, id, id, fun _ => rfl⟩, rfl, .inl rfl⟩
  | dropWriter =>
      cases done
      exact ⟨Frame.refl _, rfl, .inl rfl⟩

end Shared

/-! ### Steps of a task that does not hold the gate -/

theorem enter_frame (shared : Shared) (self : Nat) (handler : Handler) :
    Shared.Frame shared (shared.enter self handler).1 ∧
      (shared.enter self handler).1.gate = shared.gate := by
  cases handler with
  | write sender seq data => exact ⟨Shared.Frame.refl _, rfl⟩
  | close sender totalLen => exact ⟨Shared.Frame.refl _, rfl⟩
  | abort sender =>
      unfold Shared.enter
      dsimp only
      split
      · exact ⟨⟨rfl, rfl, id, id, fun _ => rfl⟩, rfl⟩
      · exact ⟨Shared.Frame.refl _, rfl⟩
  | openStream => exact ⟨⟨rfl, rfl, id, id, fun _ => rfl⟩, rfl⟩
  | takeReader =>
      unfold Shared.enter
      dsimp only
      split
      · split
        · exact ⟨Shared.Frame.refl _, rfl⟩
        · exact ⟨⟨rfl, rfl, id, id, fun _ => rfl⟩, rfl⟩
      · exact ⟨Shared.Frame.refl _, rfl⟩

variable {choice : Bool} {shared : Shared} {stepped task : Task} {handler : Handler}
  {state : Tasks Shared Task}

theorem step_of_free {self : Nat} {after : Shared} (free : task.phase.holdsGate = false)
    (taken : step self choice shared task = some (after, stepped)) :
    Shared.Frame shared after ∧ (after.gate = shared.gate ∨ shared.gate = none) := by
  obtain ⟨handler, phase⟩ := task
  obtain ⟨later, rfl, moved⟩ := step_stepped taken
  clear taken
  dsimp only at free moved
  cases moved with
  | enters =>
      have entered := enter_frame shared self handler
      exact ⟨entered.1, .inl entered.2⟩
  | accepts _ => exact ⟨Shared.Frame.refl _, .inl rfl⟩
  | closes _ => exact ⟨Shared.Frame.refl _, .inl rfl⟩
  | locks open' => exact ⟨⟨rfl, rfl, id, id, fun _ => rfl⟩, .inr open'⟩
  | yields looks _ => exact ⟨Shared.Frame.refl _, .inl rfl⟩
  | reaps => exact ⟨Shared.Frame.refl _, .inl rfl⟩
  | spares => exact ⟨Shared.Frame.refl _, .inl rfl⟩
  | evicts => exact ⟨Shared.Frame.refl _, .inl rfl⟩
  | keeps => exact ⟨Shared.Frame.refl _, .inl rfl⟩
  | claims unclaimed =>
      refine ⟨⟨rfl, rfl, id, ?_, fun _ => rfl⟩, .inl rfl⟩
      intro dropped
      rw [unclaimed] at dropped
      cases dropped
  | contends => exact ⟨Shared.Frame.refl _, .inl rfl⟩
  | acts done =>
      obtain ⟨frame, gate, _⟩ := Shared.act_frame done
      refine ⟨frame, .inl ?_⟩
      rw [gate, if_neg]
      intro same
      subst same
      simp [Phase.holdsGate] at free
  | answers => exact ⟨Shared.Frame.refl _, .inl rfl⟩
  | _ => cases free

/-! ### What a task is about -/

def Handler.Sends (handler : Handler) (write : PendingWrite) : Prop :=
  ∃ sender data, handler = .write sender write.seq data ∧
    Base64.decode data = .ok write.chunk

def Acknowledges (self : Nat) (shared : Shared) (handler : Handler)
    (answer : Except Error Value) : Prop :=
  ∀ sender seq data value, handler = .write sender seq data → answer = .ok value →
    ∃ write, (self, write) ∈ shared.pushed

def Phase.Fits (self : Nat) (shared : Shared) (handler : Handler) : Phase → Prop
  | .start | .found => True
  | .inspecting | .tallying => handler = .openStream
  | .taking => handler = .takeReader
  | .running program answer =>
      program.count .dropGate ≤ 1 ∧ Acknowledges self shared handler answer
  | .answered answer => Acknowledges self shared handler answer
  | .waiting write | .gated write | .numbering write | .measuring write
  | .counting write _ | .storing write _ | .touching write | .checking write
  | .polling write | .offering write => handler.Sends write

structure InTurn (id : Nat) (shared : Shared) (task : Task) : Prop where
  gate : task.phase.holdsGate = true → shared.gate = some id
  stage : shared.Stage task.phase
  fits : task.phase.Fits id shared task.handler

theorem acknowledges_error (self : Nat) (shared : Shared) (handler : Handler)
    (error : Error) : Acknowledges self shared handler (.error error) := by
  intro _ _ _ _ _ impossible
  cases impossible

theorem acknowledges_of_silent {self : Nat}
    (silent : ∀ sender seq data, handler ≠ .write sender seq data)
    (answer : Except Error Value) : Acknowledges self shared handler answer := by
  intro sender seq data _ wrote _
  exact absurd wrote (silent sender seq data)

theorem acknowledges_of_open {self : Nat} (opens : handler = .openStream)
    (answer : Except Error Value) :
    Acknowledges self shared handler answer := by
  apply acknowledges_of_silent
  intro _ _ _ wrote
  rw [opens] at wrote
  cases wrote

theorem Acknowledges.grown {self : Nat} {before after : Shared} {answer : Except Error Value}
    (told : Acknowledges self before handler answer)
    (grown : ∀ entry ∈ before.pushed, entry ∈ after.pushed) :
    Acknowledges self after handler answer := by
  intro sender seq data value wrote good
  obtain ⟨write, member⟩ := told sender seq data value wrote good
  exact ⟨write, grown _ member⟩

theorem Phase.Fits.grown {self : Nat} {before after : Shared} {phase : Phase}
    (fits : phase.Fits self before handler)
    (grown : ∀ entry ∈ before.pushed, entry ∈ after.pushed) :
    phase.Fits self after handler := by
  cases phase with
  | running program answer => exact ⟨fits.1, fits.2.grown grown⟩
  | answered answer => exact Acknowledges.grown fits grown
  | _ => exact fits

theorem Stage_of_free {phase : Phase} (free : phase.holdsGate = false) :
    shared.Stage phase := by
  cases phase with
  | running program answer =>
      intro member
      have held : program.contains .dropGate = true := List.contains_iff_mem.mpr member
      have lacks : program.contains .dropGate = false := free
      rw [held] at lacks
      cases lacks
  | start => trivial
  | found => trivial
  | waiting write => trivial
  | inspecting => trivial
  | tallying => trivial
  | taking => trivial
  | answered answer => trivial
  | gated write => cases free
  | numbering write => cases free
  | measuring write => cases free
  | counting write received => cases free
  | storing write received => cases free
  | touching write => cases free
  | checking write => cases free
  | polling write => cases free
  | offering write => cases free

theorem InTurn.of_free {self : Nat} {phase : Phase} (free : phase.holdsGate = false)
    (fits : phase.Fits self shared handler) :
    InTurn self shared ⟨handler, phase⟩ := by
  refine ⟨?_, Stage_of_free free, fits⟩
  intro held
  dsimp only at held
  rw [free] at held
  cases held

theorem InTurn.frame {self : Nat} {before after : Shared} (inTurn : InTurn self before task)
    (frame : Shared.Frame before after)
    (gate : before.gate = some self → after.gate = some self) : InTurn self after task := by
  refine ⟨fun held => gate (inTurn.gate held), frame.stage inTurn.stage, ?_⟩
  apply inTurn.fits.grown
  intro entry member
  rw [frame.pushed]
  exact member

/-! ### Phases that follow -/

theorem enter_fits (shared after : Shared) (self : Nat) (handler : Handler) :
    ((shared.enter self handler).2.holdsGate = false) ∧
      (shared.enter self handler).2.Fits self after handler := by
  cases handler with
  | write sender seq data =>
      unfold Shared.enter
      dsimp only
      split
      · exact ⟨rfl, trivial⟩
      · exact ⟨rfl, acknowledges_error _ _ _ _⟩
  | close sender totalLen =>
      unfold Shared.enter
      dsimp only
      split
      · exact ⟨rfl, trivial⟩
      · exact ⟨rfl, acknowledges_error _ _ _ _⟩
  | abort sender =>
      unfold Shared.enter
      dsimp only
      split
      · refine ⟨rfl, by decide, acknowledges_of_silent ?_ _⟩
        intro _ _ _ impossible
        cases impossible
      · exact ⟨rfl, acknowledges_error _ _ _ _⟩
  | openStream => exact ⟨rfl, rfl⟩
  | takeReader =>
      unfold Shared.enter
      dsimp only
      split
      · exact ⟨rfl, rfl⟩
      · exact ⟨rfl, acknowledges_error _ _ _ _⟩

theorem accept_fits (shared after : Shared) (self : Nat) (sender : Option BusName)
    (seq : Nat) (data : String) :
    (shared.accept seq data).holdsGate = false ∧
      (shared.accept seq data).Fits self after (.write sender seq data) := by
  unfold Shared.accept
  split
  · exact ⟨rfl, acknowledges_error _ _ _ _⟩
  · rename_i chunk decoded
    split
    · exact ⟨rfl, by decide, acknowledges_error _ _ _ _⟩
    · exact ⟨rfl, sender, data, rfl, decoded⟩

theorem closing_fits (shared after : Shared) (self : Nat) (sender : Option BusName)
    (totalLen : Nat) :
    (shared.closing totalLen).holdsGate = false ∧
      (shared.closing totalLen).Fits self after (.close sender totalLen) := by
  have silent : ∀ sender' seq data,
      (Handler.close sender totalLen) ≠ .write sender' seq data := by
    intro _ _ _ impossible
    cases impossible
  unfold Shared.closing
  split
  · exact ⟨rfl, by decide, acknowledges_of_silent silent _⟩
  · exact ⟨rfl, by simp, acknowledges_of_silent silent _⟩

theorem refuse_inTurn {self : Nat} (held : shared.gate = some self) (quiet : shared.Quiet)
    (reason : String) (error : Error) : InTurn self shared ⟨handler, refuse reason error⟩ := by
  refine ⟨fun _ => held, fun _ => quiet, ?_, acknowledges_error _ _ _ _⟩
  simp [kill]

theorem yield_inTurn {self : Nat} (held : shared.gate = some self)
    (aborted : shared.aborted = true) :
    InTurn self shared ⟨handler, yield⟩ :=
  ⟨fun _ => held, fun _ => .inr (.inr aborted), by decide, acknowledges_error _ _ _ _⟩

/-! ### One step of a task -/

theorem kept_ordered {before after : Shared} (ordered : before.Ordered)
    (frame : Shared.Frame before after) (gate : after.gate = before.gate) : after.Ordered :=
  frame.ordered ordered (fun free => .inl (gate.symm.trans free))

theorem ordered_push {self : Nat} {write : PendingWrite} (ordered : shared.Ordered)
    (present : shared.reader ≠ .dropped) (gate : shared.gate = some self)
    (turn : write.seq + 1 = shared.nextSeq) (cleared : shared.Cleared) {after : Shared}
    (nextSeq : after.nextSeq = shared.nextSeq) (gate' : after.gate = shared.gate)
    (delivered : after.delivered = shared.delivered)
    (buffered : after.buffered = shared.buffered ++ [write.chunk])
    (pushed : after.pushed = shared.pushed ++ [(self, write)]) :
    after.Ordered ∧ after.Quiet := by
  have counted : shared.nextSeq = shared.pushed.length + 1 :=
    cleared.resolve_right present
  have number : write.seq = shared.pushed.length := by
    omega
  refine ⟨⟨?_, ?_, ?_⟩, ?_⟩
  · rw [pushed, List.map_append, List.length_append, ordered.numbers]
    simp [List.range_succ, number]
  · intro _
    rw [delivered, buffered, pushed, List.map_append, ← List.append_assoc,
      ordered.channel present]
    rfl
  · intro free
    rw [gate', gate] at free
    cases free
  · left
    rw [nextSeq, pushed, List.length_append, counted]
    rfl

theorem running_inTurn {self : Nat} {after : Shared} {action : Action} {rest more : List Action}
    {answer : Except Error Value} (ordered : shared.Ordered)
    (inTurn : InTurn self shared ⟨handler, .running (action :: rest) answer⟩)
    (done : shared.act self action = some (after, more)) :
    after.Ordered ∧ InTurn self after ⟨handler, .running (more ++ rest) answer⟩ := by
  obtain ⟨gate, stage, once, told⟩ := inTurn
  dsimp only at gate stage once
  obtain ⟨frame, gate', added⟩ := Shared.act_frame done
  have told' := told.grown (fun entry member => by
    rw [frame.pushed]
    exact member)
  have counts : (more ++ rest).count .dropGate = rest.count .dropGate := by
    rcases added with rfl | rfl
    · rfl
    · rfl
  rw [List.count_cons] at once
  by_cases leaves : action = .dropGate
  · subst leaves
    have left : rest.count .dropGate = 0 := by
      simp at once
      exact once
    have free : (more ++ rest).contains .dropGate = false := by
      rw [← counts, List.count_eq_zero] at left
      exact Bool.eq_false_iff.mpr (fun held => left (List.contains_iff_mem.mp held))
    have quiet := stage List.mem_cons_self
    refine ⟨frame.ordered ordered (fun _ => .inr quiet), .of_free free ⟨?_, told'⟩⟩
    rw [counts, left]
    exact Nat.zero_le 1
  · rw [if_neg leaves] at gate'
    have still : (more ++ rest).contains .dropGate = true →
        (action :: rest).contains .dropGate = true := by
      intro member
      have member' := List.contains_iff_mem.mp member
      rw [List.contains_iff_mem]
      rcases added with rfl | rfl
      · exact List.mem_cons_of_mem _ member'
      · rcases List.mem_append.mp member' with raised | later
        · cases List.mem_singleton.mp raised
        · exact List.mem_cons_of_mem _ later
    refine ⟨kept_ordered ordered frame gate', ?_, ?_, ?_, told'⟩
    · intro holds
      rw [gate']
      exact gate (still holds)
    · intro member
      exact frame.quiet (stage (List.contains_iff_mem.mp
        (still (List.contains_iff_mem.mpr member))))
    · rw [counts]
      omega

theorem step_inTurn {self : Nat} {after : Shared} (ordered : shared.Ordered)
    (inTurn : InTurn self shared task)
    (taken : step self choice shared task = some (after, stepped)) :
    after.Ordered ∧ InTurn self after stepped := by
  obtain ⟨handler, phase⟩ := task
  obtain ⟨later, rfl, moved⟩ := step_stepped taken
  clear taken
  obtain ⟨gate, stage, fits⟩ := inTurn
  dsimp only at gate stage fits moved
  cases moved with
  | enters =>
      obtain ⟨frame, same⟩ := enter_frame shared self handler
      obtain ⟨free, enters⟩ := enter_fits shared (shared.enter self handler).1 self handler
      exact ⟨kept_ordered ordered frame same, .of_free free enters⟩
  | @accepts sender seq data writes =>
      subst writes
      obtain ⟨free, accepts⟩ := accept_fits shared shared self sender seq data
      exact ⟨ordered, .of_free free accepts⟩
  | @closes sender totalLen ends =>
      subst ends
      obtain ⟨free, closes⟩ := closing_fits shared shared self sender totalLen
      exact ⟨ordered, .of_free free closes⟩
  | locks free =>
      have frame : Shared.Frame shared { shared with gate := some self } :=
        ⟨rfl, rfl, id, id, fun _ => rfl⟩
      refine ⟨frame.ordered ordered (fun _ => .inl free), fun _ => rfl, ?_, fits⟩
      exact frame.quiet (ordered.quiet free)
  | clones _ => exact ⟨ordered, fun _ => gate rfl, stage, fits⟩
  | lapses =>
      exact ⟨ordered, fun _ => gate rfl, fun _ => stage, by decide,
        acknowledges_error _ _ _ _⟩
  | disorders => exact ⟨ordered, refuse_inTurn (gate rfl) stage _ _⟩
  | follows number => exact ⟨ordered, fun _ => gate rfl, ⟨number, stage⟩, fits⟩
  | exceeds => exact ⟨ordered, refuse_inTurn (gate rfl) stage.2 _ _⟩
  | measures => exact ⟨ordered, fun _ => gate rfl, stage, fits⟩
  | counts =>
      have held := gate rfl
      have counted : ({ shared with nextSeq := shared.nextSeq + 1 } : Shared).Counted := by
        rcases stage.2 with equal | dead
        · exact .inl (congrArg (· + 1) equal)
        · exact .inr dead
      refine ⟨⟨ordered.numbers, ordered.channel, ?_⟩, fun _ => held,
        ⟨congrArg (· + 1) stage.1, counted⟩, fits⟩
      intro free
      dsimp only at free
      rw [held] at free
      cases free
  | @stores write received =>
      have frame : Shared.Frame shared { shared with received := received } :=
        ⟨rfl, rfl, id, id, fun _ => rfl⟩
      exact ⟨kept_ordered ordered frame rfl, fun _ => gate rfl,
        ⟨stage.1, frame.counted stage.2⟩, fits⟩
  | touches =>
      have frame : Shared.Frame shared { shared with lastActivity := shared.now } :=
        ⟨rfl, rfl, id, id, fun _ => rfl⟩
      exact ⟨kept_ordered ordered frame rfl, fun _ => gate rfl,
        ⟨stage.1, frame.counted stage.2⟩, fits⟩
  | checks calm =>
      refine ⟨ordered, fun _ => gate rfl, ⟨stage.1, ?_⟩, fits⟩
      rcases stage.2 with equal | dropped | aborted
      · exact .inl equal
      · exact .inr dropped
      · rw [calm] at aborted
        cases aborted
  | polls _ => exact ⟨ordered, fun _ => gate rfl, stage, fits⟩
  | yields looks raised =>
      rcases looks with rfl | rfl
      · exact ⟨ordered, yield_inTurn (gate rfl) raised⟩
      · exact ⟨ordered, yield_inTurn (gate rfl) raised⟩
  | misses dropped => exact ⟨ordered, refuse_inTurn (gate rfl) (.inr (.inl dropped)) _ _⟩
  | @pushes write present =>
      have held := gate rfl
      obtain ⟨ordered', quiet⟩ := @ordered_push shared self write ordered present held
        stage.1 stage.2 { shared with
          buffered := shared.buffered ++ [write.chunk]
          pushed := shared.pushed ++ [(self, write)] } rfl rfl rfl rfl rfl
      refine ⟨ordered', fun _ => held, fun _ => quiet, by decide, ?_⟩
      intro _ _ _ _ _ _
      exact ⟨write, List.mem_append_right _ (List.mem_singleton_self _)⟩
  | stalls => exact ⟨ordered, fun _ => gate rfl, stage, fits⟩
  | reaps => exact ⟨ordered, .of_free rfl ⟨by decide, acknowledges_of_open fits _⟩⟩
  | spares => exact ⟨ordered, .of_free rfl fits⟩
  | evicts => exact ⟨ordered, .of_free rfl ⟨by decide, acknowledges_of_open fits _⟩⟩
  | keeps => exact ⟨ordered, .of_free rfl ⟨by decide, acknowledges_of_open fits _⟩⟩
  | claims unclaimed =>
      have silent : ∀ sender seq data, handler ≠ .write sender seq data := by
        intro _ _ _ wrote
        cases fits.symm.trans wrote
      have frame : Shared.Frame shared { shared with reader := .claimed } := by
        refine ⟨rfl, rfl, id, ?_, fun _ => rfl⟩
        intro dropped
        rw [unclaimed] at dropped
        cases dropped
      exact ⟨kept_ordered ordered frame rfl, .of_free rfl (acknowledges_of_silent silent _)⟩
  | contends => exact ⟨ordered, .of_free rfl (acknowledges_error _ _ _ _)⟩
  | acts done => exact running_inTurn ordered ⟨gate, stage, fits⟩ done
  | answers => exact ⟨ordered, .of_free rfl fits.2⟩

/-! ### What a step counts and pushes -/

structure Effect (id : Nat) (shared after : Shared) (task : Task) : Prop where
  counts : after.nextSeq = shared.nextSeq ∨
    ∃ write received, task.phase = .counting write received ∧
      after.nextSeq = shared.nextSeq + 1
  pushes : after.pushed = shared.pushed ∨
    ∃ write, task.phase = .offering write ∧
      after.pushed = shared.pushed ++ [(id, write)]

theorem Effect.of_frame {self : Nat} {after : Shared}
    (frame : Shared.Frame shared after) : Effect self shared after task :=
  ⟨.inl frame.nextSeq, .inl frame.pushed⟩

theorem step_effect {self : Nat} {after : Shared}
    (taken : step self choice shared task = some (after, stepped)) :
    Effect self shared after task := by
  cases free : task.phase.holdsGate with
  | false => exact .of_frame (step_of_free free taken).1
  | true =>
      obtain ⟨handler, phase⟩ := task
      obtain ⟨later, rfl, moved⟩ := step_stepped taken
      clear taken
      dsimp only at free moved
      cases moved with
      | @counts write received => exact ⟨.inr ⟨write, received, rfl, rfl⟩, .inl rfl⟩
      | stores => exact ⟨.inl rfl, .inl rfl⟩
      | touches => exact ⟨.inl rfl, .inl rfl⟩
      | @pushes write _ => exact ⟨.inl rfl, .inr ⟨write, rfl, rfl⟩⟩
      | acts done => exact .of_frame (Shared.act_frame done).1
      | locks _ => cases free
      | claims _ => cases free
      | enters => cases free
      | _ => exact .of_frame (Shared.Frame.refl _)

theorem step_handler {self : Nat} {after : Shared}
    (taken : step self choice shared task = some (after, stepped)) :
    stepped.handler = task.handler := by
  obtain ⟨later, rfl, _⟩ := step_stepped taken
  rfl

theorem outside_frame (event : Outside) (state : Tasks Shared Task) :
    Shared.Frame state.shared (outside event state) ∧
      (outside event state).gate = state.shared.gate := by
  cases event with
  | receive =>
      unfold outside
      dsimp only
      split
      · split
        · rename_i chunk rest buffered
          refine ⟨⟨rfl, rfl, id, id, ?_⟩, rfl⟩
          intro _
          rw [buffered]
          simp
        · exact ⟨⟨rfl, rfl, id, id, fun _ => rfl⟩, rfl⟩
      · exact ⟨Shared.Frame.refl _, rfl⟩
  | conclude =>
      unfold outside
      dsimp only
      split
      · exact ⟨⟨rfl, rfl, id, id, fun _ => rfl⟩, rfl⟩
      · exact ⟨Shared.Frame.refl _, rfl⟩
  | dropReader =>
      unfold outside
      dsimp only
      split
      · exact ⟨⟨rfl, rfl, id, fun _ => rfl, fun present => absurd rfl present⟩, rfl⟩
      · exact ⟨Shared.Frame.refl _, rfl⟩
  | setLimits limits => exact ⟨⟨rfl, rfl, id, id, fun _ => rfl⟩, rfl⟩
  | elapse duration => exact ⟨⟨rfl, rfl, id, id, fun _ => rfl⟩, rfl⟩

/-! ### Who holds the gate -/

theorem step_gate {self : Nat} {after : Shared}
    (taken : step self choice shared task = some (after, stepped)) {holder : Nat}
    (held : after.gate = some holder) (other : holder ≠ self) :
    shared.gate = some holder := by
  obtain ⟨handler, phase⟩ := task
  obtain ⟨later, rfl, moved⟩ := step_stepped taken
  clear taken
  dsimp only at moved
  cases moved with
  | enters => rw [← (enter_frame shared self handler).2, held]
  | locks _ => exact absurd (Option.some.inj held).symm other
  | acts done =>
      have gate := (Shared.act_frame done).2.1
      rw [held] at gate
      split at gate
      · cases gate
      · exact gate.symm
  | _ => exact held

theorem step_holds {self : Nat} {after : Shared}
    (taken : step self choice shared task = some (after, stepped)) (held : after.gate = some self)
    (holds : shared.gate = some self → task.phase.holdsGate = true) :
    stepped.phase.holdsGate = true := by
  obtain ⟨handler, phase⟩ := task
  obtain ⟨later, rfl, moved⟩ := step_stepped taken
  clear taken
  dsimp only at moved holds ⊢
  cases moved with
  | enters =>
      rw [(enter_frame shared self handler).2] at held
      cases holds held
  | accepts _ => cases holds held
  | closes _ => cases holds held
  | reaps => cases holds held
  | spares => cases holds held
  | evicts => cases holds held
  | keeps => cases holds held
  | claims _ => cases holds held
  | contends => cases holds held
  | acts done =>
      have gate := (Shared.act_frame done).2.1
      rw [held] at gate
      split at gate
      · cases gate
      · rename_i stays
        have member := List.contains_iff_mem.mp (holds gate.symm)
        apply List.contains_iff_mem.mpr
        rcases List.mem_cons.mp member with same | later
        · exact absurd same.symm stays
        · exact List.mem_append_right _ later
  | answers => cases holds held
  | _ => rfl

/-! ### Runs -/

def Recorded (state : Tasks Shared Task) : Prop :=
  ∀ id write, (id, write) ∈ state.shared.pushed →
    ∃ task, state.tasks.lookup id = some task ∧ task.handler.Sends write

def Held (state : Tasks Shared Task) : Prop :=
  ∀ id, state.shared.gate = some id →
    ∃ task, state.tasks.lookup id = some task ∧ task.phase.holdsGate = true

structure Arranged (state : Tasks Shared Task) : Prop where
  ordered : state.shared.Ordered
  recorded : Recorded state
  held : Held state

theorem lookup_start {id other : Nat} {started : Task} (vacant : state.tasks.lookup id = none)
    (found : state.tasks.lookup other = some task) :
    (state.tasks.insert id started).lookup other = some task := by
  rw [Table.lookup_insert_eq, if_neg, found]
  intro same
  rw [same, vacant] at found
  cases found

theorem lookup_step {id other : Nat} {found : Task} (present : state.tasks.lookup id = some task)
    (taken : step id choice state.shared task = some (shared, stepped))
    (lookup : state.tasks.lookup other = some found) :
    ∃ next, (state.tasks.insert id stepped).lookup other = some next ∧
      next.handler = found.handler := by
  rw [Table.lookup_insert_eq]
  split
  · rename_i same
    rw [same, present, Option.some.injEq] at lookup
    subst lookup
    exact ⟨stepped, rfl, step_handler taken⟩
  · exact ⟨found, lookup, rfl⟩

theorem step_arranged {id : Nat} (sound : Tasks.Sound Arranged InTurn state)
    (found : state.tasks.lookup id = some task)
    (taken : step id choice state.shared task = some (shared, stepped)) :
    Arranged { shared := shared, tasks := state.tasks.insert id stepped } := by
  obtain ⟨⟨ordered, recorded, holds⟩, own⟩ := sound
  have inTurn := own id task found
  refine ⟨(step_inTurn ordered inTurn taken).1, ?_, ?_⟩
  · intro other write member
    dsimp only at member ⊢
    have past : (other, write) ∈ state.shared.pushed → ∃ task',
        (state.tasks.insert id stepped).lookup other = some task' ∧
          task'.handler.Sends write := by
      intro member'
      obtain ⟨task', found', sends⟩ := recorded other write member'
      obtain ⟨next, lookup, same⟩ := lookup_step found taken found'
      exact ⟨next, lookup, same ▸ sends⟩
    rcases (step_effect taken).pushes with same | ⟨write', offering, grown⟩
    · rw [same] at member
      exact past member
    · rw [grown] at member
      rcases List.mem_append.mp member with member' | new
      · exact past member'
      · cases List.mem_singleton.mp new
        have fits := inTurn.fits
        rw [offering] at fits
        refine ⟨stepped, AList.lookup_insert _, ?_⟩
        rw [step_handler taken]
        exact fits
  · intro holder held
    dsimp only at held ⊢
    rw [Table.lookup_insert_eq]
    split
    · rename_i same
      subst same
      refine ⟨stepped, rfl, step_holds taken held ?_⟩
      intro before
      obtain ⟨task', found', holding⟩ := holds _ before
      rw [found, Option.some.injEq] at found'
      rw [found']
      exact holding
    · rename_i other
      exact holds holder (step_gate taken held other)

theorem inTurn_keeps : Tasks.Keeps kind Arranged InTurn (fun _ _ => True) := by
  constructor
  · intro state id handler sound _ vacant
    refine ⟨⟨sound.common.ordered, ?_, ?_⟩, .of_free rfl trivial⟩
    · intro other write member
      obtain ⟨task, found, sends⟩ := sound.common.recorded other write member
      exact ⟨task, lookup_start vacant found, sends⟩
    · intro holder held
      obtain ⟨task, found, holds⟩ := sound.common.held holder held
      exact ⟨task, lookup_start vacant found, holds⟩
  · intro state id choice task shared stepped sound _ found taken
    exact ⟨step_arranged sound found taken,
      (step_inTurn sound.common.ordered (sound.own id task found) taken).2⟩
  · intro state id choice task shared stepped other bystander sound _ found taken
      different found'
    have inTurn := sound.own other bystander found'
    cases holds : task.phase.holdsGate with
    | false =>
        obtain ⟨frame, gate⟩ := step_of_free holds taken
        apply inTurn.frame frame
        intro held
        rcases gate with same | free
        · exact same.trans held
        · rw [held] at free
          cases free
    | true =>
        have held := (sound.own id task found).gate holds
        have free : bystander.phase.holdsGate = false := by
          cases holds' : bystander.phase.holdsGate with
          | false => rfl
          | true =>
              have held' := inTurn.gate holds'
              rw [held, Option.some.injEq] at held'
              exact absurd held'.symm different
        apply InTurn.of_free free
        apply inTurn.fits.grown
        intro entry member
        rcases (step_effect taken).pushes with same | ⟨write, _, grown⟩
        · rw [same]
          exact member
        · rw [grown]
          exact List.mem_append_left _ member
  · intro state event sound _
    obtain ⟨frame, gate⟩ := outside_frame event state
    refine ⟨⟨kept_ordered sound.common.ordered frame gate, ?_, ?_⟩, ?_⟩
    · intro id write member
      rw [show (kind.outside event state).pushed = state.shared.pushed from frame.pushed]
        at member
      exact sound.common.recorded id write member
    · intro id held
      exact sound.common.held id (gate.symm.trans held)
    · intro id task found
      exact (sound.own id task found).frame frame (fun held => gate.trans held)

theorem fresh_arranged (begins : Fresh state.shared) (_ : state.tasks = ∅) : Arranged state := by
  obtain ⟨key, sender, descriptor, limits, now, fresh⟩ := begins
  refine ⟨?_, ?_, ?_⟩
  · rw [fresh]
    exact ⟨rfl, fun _ => rfl, fun _ => .inl rfl⟩
  · intro id write member
    rw [fresh] at member
    cases member
  · intro id held
    rw [fresh] at held
    cases held

theorem sound_of_reachable (reached : system.Reachable state) :
    Tasks.Sound Arranged InTurn state :=
  Tasks.sound_of_keeps inTurn_keeps (fun _ => fresh_arranged)
    (reached.of_guard (fun _ _ => trivial))

/-- What was put into the channel is the chunks of the writes from number zero on,
each once; and the writes that were acknowledged are among them. -/
structure InOrder (state : Tasks Shared Task) : Prop where
  numbers : state.shared.pushed.map (fun entry => entry.2.seq) =
    List.range state.shared.pushed.length
  channel : state.shared.reader ≠ .dropped →
    state.shared.delivered ++ state.shared.buffered =
      state.shared.pushed.map (fun entry => entry.2.chunk)
  written : ∀ id write, (id, write) ∈ state.shared.pushed →
    ∃ task sender data, state.tasks.lookup id = some task ∧
      task.handler = .write sender write.seq data ∧ Base64.decode data = .ok write.chunk
  acknowledged : ∀ id task sender seq data value, state.tasks.lookup id = some task →
    task.handler = .write sender seq data → task.phase = .answered (.ok value) →
      ∃ write, (id, write) ∈ state.shared.pushed ∧ write.seq = seq ∧
        Base64.decode data = .ok write.chunk

/-- Only a write with the expected number advances that number, and only the write
with the next number puts a chunk into the channel. -/
structure TakesExpected (state after : Tasks Shared Task) (event : Event) : Prop where
  expected : after.shared.nextSeq = state.shared.nextSeq ∨
    ∃ id choice task sender data, event = .advance id choice ∧
      state.tasks.lookup id = some task ∧
        task.handler = .write sender state.shared.nextSeq data ∧
          after.shared.nextSeq = state.shared.nextSeq + 1
  pushed : after.shared.pushed = state.shared.pushed ∨
    ∃ id choice task sender data write, event = .advance id choice ∧
      state.tasks.lookup id = some task ∧
        task.handler = .write sender state.shared.pushed.length data ∧
          Base64.decode data = .ok write.chunk ∧
            after.shared.pushed = state.shared.pushed ++ [(id, write)]

theorem next_takesExpected (sound : Tasks.Sound Arranged InTurn state) (event : Event) :
    TakesExpected state (Tasks.next kind state event) event := by
  cases event with
  | start id handler =>
      unfold Tasks.next
      dsimp only
      split <;> exact ⟨.inl rfl, .inl rfl⟩
  | outside event =>
      have frame := (outside_frame event state).1
      exact ⟨.inl frame.nextSeq, .inl frame.pushed⟩
  | advance id choice =>
      have numbers : (Tasks.next kind state (.advance id choice)).shared.Ordered :=
        (sound.next inTurn_keeps trivial).common.ordered
      unfold Tasks.next at numbers ⊢
      dsimp only at numbers ⊢
      split
      · exact ⟨.inl rfl, .inl rfl⟩
      · rename_i task found
        rw [found] at numbers
        dsimp only at numbers
        split
        · exact ⟨.inl rfl, .inl rfl⟩
        · rename_i shared stepped taken
          rw [taken] at numbers
          obtain ⟨counts, pushes⟩ := step_effect taken
          obtain ⟨_, stage, fits⟩ := sound.own id task found
          constructor
          · rcases counts with same | ⟨write, received, counting, grown⟩
            · exact .inl same
            · rw [counting] at stage fits
              obtain ⟨sender, data, wrote, _⟩ := fits
              rw [stage.1] at wrote
              exact .inr ⟨id, choice, task, sender, data, rfl, found, wrote, grown⟩
          · rcases pushes with same | ⟨write, offering, grown⟩
            · exact .inl same
            · rw [offering] at fits
              obtain ⟨sender, data, wrote, decoded⟩ := fits
              have number : write.seq = state.shared.pushed.length := by
                have ranged := numbers.numbers
                dsimp only at ranged
                rw [grown, List.map_append, List.length_append] at ranged
                simp only [List.map_cons, List.map_nil, List.length_cons, List.length_nil,
                  List.range_succ, Nat.zero_add] at ranged
                exact List.cons_eq_cons.mp (List.append_inj_right' ranged rfl) |>.1
              rw [number] at wrote
              exact .inr ⟨id, choice, task, sender, data, write, rfl, found, wrote, decoded,
                grown⟩

theorem inOrder_of_sound (sound : Tasks.Sound Arranged InTurn state) : InOrder state := by
  refine ⟨sound.common.ordered.numbers, sound.common.ordered.channel, ?_, ?_⟩
  · intro id write member
    obtain ⟨task, found, sender, data, wrote, decoded⟩ := sound.common.recorded id write member
    exact ⟨task, sender, data, found, wrote, decoded⟩
  · intro id task sender seq data value found wrote answered
    have told := (sound.own id task found).fits
    rw [answered] at told
    obtain ⟨write, member⟩ := told sender seq data value wrote rfl
    obtain ⟨task', found', sender', data', wrote', decoded⟩ := sound.common.recorded id write member
    rw [found, Option.some.injEq] at found'
    subst found'
    rw [wrote] at wrote'
    cases wrote'
    exact ⟨write, member, rfl, decoded⟩

/-- However the handlers of a stream interleave, its chunks are in order. -/
theorem inOrder_of_reachable {state : Tasks Shared Task} (reached : system.Reachable state) :
    InOrder state ∧ ∀ event, TakesExpected state (Tasks.next kind state event) event := by
  have sound := sound_of_reachable reached
  exact ⟨inOrder_of_sound sound, next_takesExpected sound⟩

/-! ### Two writes -/

/-- A stream that a peer without a name opened. -/
def opened : Tasks Shared Task :=
  { shared := fresh "s1" none ⟨none, none⟩ .default 0, tasks := ∅ }

theorem reachable_of_replay {events : List Event}
    (replayed : replay (Tasks.next kind) (fun _ _ => true) opened events = some state) :
    system.Reachable state :=
  ⟨opened, events, ⟨⟨_, _, _, _, _, rfl⟩, rfl⟩,
    System.Run.of_replay (fun _ _ _ => rfl) replayed⟩

def steps (id count : Nat) : List Event :=
  List.replicate count (.advance id false)

def twoWrites : List Event :=
  [.start 0 (.write none 0 "TWFu"), .start 1 (.write none 1 "TQ==")] ++ steps 0 5 ++
    steps 1 5 ++ steps 0 11 ++ steps 1 14

theorem twoWrites_inOrder :
    ∃ state, InOrder state ∧
      state.shared.pushed.map (fun entry => entry.2.chunk) = [[77, 97, 110], [77]] := by
  have replayed : (replay (Tasks.next kind) (fun _ _ => true) opened twoWrites).map
      (fun state => state.shared.pushed.map (fun entry => entry.2.chunk)) =
        some [[77, 97, 110], [77]] := by
    decide
  obtain ⟨state, reached, chunks⟩ := Option.map_eq_some_iff.mp replayed
  exact ⟨state, (inOrder_of_reachable (reachable_of_replay reached)).1, chunks⟩

end StreamTask

end TinyBus
