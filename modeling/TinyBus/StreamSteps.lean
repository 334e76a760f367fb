/-
What a step of a stream's task does, phase by phase.  Every invariant of the tasks
is carried through a step by a look at these cases.
-/

import TinyBus.StreamTasks

namespace TinyBus

namespace StreamTask

/-- The inversion of a step: from which phase to which, and what happens to the
stream. -/
inductive Stepped (self : Nat) (shared : Shared) (handler : Handler) :
    Phase → Shared → Phase → Prop
  | enters :
      Stepped self shared handler .start (shared.enter self handler).1
        (shared.enter self handler).2
  | accepts {sender : Option BusName} {seq : Nat} {data : String}
      (writes : handler = .write sender seq data) :
      Stepped self shared handler .found shared (shared.accept seq data)
  | closes {sender : Option BusName} {totalLen : Nat}
      (ends : handler = .close sender totalLen) :
      Stepped self shared handler .found shared (shared.closing totalLen)
  | locks {write : PendingWrite} (free : shared.gate = none) :
      Stepped self shared handler (.waiting write) { shared with gate := some self }
        (.gated write)
  | clones {write : PendingWrite} (writing : shared.writing = true) :
      Stepped self shared handler (.gated write) shared (.numbering write)
  | lapses {write : PendingWrite} {error : Error} :
      Stepped self shared handler (.gated write) shared (.running [.dropGate] (.error error))
  | disorders {write : PendingWrite} {reason : String} {error : Error} :
      Stepped self shared handler (.numbering write) shared (refuse reason error)
  | follows {write : PendingWrite} (number : write.seq = shared.nextSeq) :
      Stepped self shared handler (.numbering write) shared (.measuring write)
  | exceeds {write : PendingWrite} {reason : String} {error : Error} :
      Stepped self shared handler (.measuring write) shared (refuse reason error)
  | measures {write : PendingWrite} :
      Stepped self shared handler (.measuring write) shared
        (.counting write (shared.received + write.chunk.length))
  | counts {write : PendingWrite} {received : Nat} :
      Stepped self shared handler (.counting write received)
        { shared with nextSeq := shared.nextSeq + 1 } (.storing write received)
  | stores {write : PendingWrite} {received : Nat} :
      Stepped self shared handler (.storing write received)
        { shared with received := received } (.touching write)
  | touches {write : PendingWrite} :
      Stepped self shared handler (.touching write)
        { shared with lastActivity := shared.now } (.checking write)
  | checks {write : PendingWrite} (calm : shared.aborted = false) :
      Stepped self shared handler (.checking write) shared (.polling write)
  | polls {write : PendingWrite} (calm : shared.aborted = false) :
      Stepped self shared handler (.polling write) shared (.offering write)
  | yields {write : PendingWrite} {phase : Phase}
      (looks : phase = .checking write ∨ phase = .polling write)
      (raised : shared.aborted = true) : Stepped self shared handler phase shared yield
  | misses {write : PendingWrite} {reason : String} {error : Error}
      (dropped : shared.reader = .dropped) :
      Stepped self shared handler (.offering write) shared (refuse reason error)
  | pushes {write : PendingWrite} (present : shared.reader ≠ .dropped) :
      Stepped self shared handler (.offering write)
        { shared with
          buffered := shared.buffered ++ [write.chunk]
          pushed := shared.pushed ++ [(self, write)] }
        (.running [.dropGate, .touch, .dropWriter] (.ok .null))
  | stalls {write : PendingWrite} :
      Stepped self shared handler (.offering write) shared (.polling write)
  | reaps : Stepped self shared handler .inspecting shared (.running reap (.ok .null))
  | spares : Stepped self shared handler .inspecting shared .tallying
  | evicts : Stepped self shared handler .tallying shared (.running evict (.ok .null))
  | keeps : Stepped self shared handler .tallying shared (.running [.unlock] (.ok .null))
  | claims (unclaimed : shared.reader = .unclaimed) :
      Stepped self shared handler .taking { shared with reader := .claimed }
        (.answered (.ok .null))
  | contends {error : Error} :
      Stepped self shared handler .taking shared (.answered (.error error))
  | acts {action : Action} {rest more : List Action} {answer : Except Error Value}
      {after : Shared} (done : shared.act self action = some (after, more)) :
      Stepped self shared handler (.running (action :: rest) answer) after
        (.running (more ++ rest) answer)
  | answers {answer : Except Error Value} :
      Stepped self shared handler (.running [] answer) shared (.answered answer)

theorem offer_stepped (self : Nat) (shared : Shared) (handler : Handler)
    (write : PendingWrite) :
    Stepped self shared handler (.offering write) (shared.offer self write).1
      (shared.offer self write).2 := by
  unfold Shared.offer
  split
  · rename_i dropped
    exact .misses dropped
  · rename_i present
    split
    · exact .pushes present
    · exact .stalls

theorem step_stepped {self : Nat} {choice : Bool} {shared after : Shared}
    {task stepped : Task} (taken : step self choice shared task = some (after, stepped)) :
    ∃ phase, stepped = ⟨task.handler, phase⟩ ∧
      Stepped self shared task.handler task.phase after phase := by
  obtain ⟨handler, phase⟩ := task
  cases phase with
  | start =>
      simp only [step] at taken
      split at taken
      · cases taken
        exact ⟨_, rfl, .enters⟩
      · cases taken
  | found =>
      cases handler with
      | write sender seq data =>
          cases taken
          exact ⟨_, rfl, .accepts rfl⟩
      | close sender totalLen =>
          cases taken
          exact ⟨_, rfl, .closes rfl⟩
      | abort sender => cases taken
      | openStream => cases taken
      | takeReader => cases taken
  | waiting write =>
      simp only [step] at taken
      split at taken
      · rename_i free
        cases taken
        exact ⟨_, rfl, .locks free⟩
      · cases taken
  | gated write =>
      simp only [step] at taken
      split at taken
      · rename_i writing
        cases taken
        exact ⟨_, rfl, .clones writing⟩
      · cases taken
        exact ⟨_, rfl, .lapses⟩
  | numbering write =>
      simp only [step] at taken
      split at taken
      · cases taken
        exact ⟨_, rfl, .disorders⟩
      · rename_i number
        cases taken
        exact ⟨_, rfl, .follows (Decidable.not_not.mp number)⟩
  | measuring write =>
      simp only [step] at taken
      split at taken
      · cases taken
        exact ⟨_, rfl, .exceeds⟩
      · cases taken
        exact ⟨_, rfl, .measures⟩
  | counting write received =>
      cases taken
      exact ⟨_, rfl, .counts⟩
  | storing write received =>
      cases taken
      exact ⟨_, rfl, .stores⟩
  | touching write =>
      cases taken
      exact ⟨_, rfl, .touches⟩
  | checking write =>
      cases taken
      refine ⟨_, rfl, ?_⟩
      cases flag : shared.aborted with
      | true => exact .yields (.inl rfl) flag
      | false => exact .checks flag
  | polling write =>
      cases taken
      refine ⟨_, rfl, ?_⟩
      cases flag : shared.aborted with
      | true => exact .yields (.inr rfl) flag
      | false => exact .polls flag
  | offering write =>
      cases taken
      exact ⟨_, rfl, offer_stepped self shared handler write⟩
  | inspecting =>
      cases taken
      refine ⟨_, rfl, ?_⟩
      dsimp only
      split
      · exact .reaps
      · exact .spares
  | tallying =>
      cases taken
      refine ⟨_, rfl, ?_⟩
      dsimp only
      split
      · exact .evicts
      · exact .keeps
  | taking =>
      simp only [step] at taken
      split at taken
      · rename_i unclaimed
        cases taken
        exact ⟨_, rfl, .claims unclaimed⟩
      · cases taken
        exact ⟨_, rfl, .contends⟩
  | running program answer =>
      cases program with
      | nil =>
          cases taken
          exact ⟨_, rfl, .answers⟩
      | cons action rest =>
          simp only [step] at taken
          obtain ⟨⟨changed, more⟩, done, built⟩ := Option.bind_eq_some_iff.mp taken
          cases built
          exact ⟨_, rfl, .acts done⟩
  | answered answer => cases taken

end StreamTask

end TinyBus
