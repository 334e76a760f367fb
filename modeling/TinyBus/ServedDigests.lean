import TinyBus.RememberedDigests

/-
What is served from the memory of digests.  A request reads the identity of its file first,
and answers later; in between the file may be changed, so the answer is that of some moment
of the request, and the present one where the file still has its identity.
-/

namespace TinyBus

namespace RememberedHash

variable {sha256Hex : List UInt8 → String} {ticks : Ticks} {world : World} {past : List World}

variable {name : TaskId}

theorem Moves.task {after : World} (moves : Moves sha256Hex ticks world after) {task : Task}
    (found : world.tasks.lookup name = some task) :
    ∃ later, after.tasks.lookup name = some later ∧ later.file = task.file := by
  cases moves with
  | disturbed disturbs => exact ⟨task, disturbs.tasks ▸ found, rfl⟩
  | @requested other id file absent _ same =>
      subst same
      have different : name ≠ other := by
        rintro rfl
        rw [absent] at found
        cases found
      exact ⟨task, (AList.lookup_insert_ne different).trans found, rfl⟩
  | @turned other turned phase entry present _ same =>
      subst same
      dsimp only
      rw [Table.lookup_insert_eq]
      split
      · rename_i same
        subst same
        cases present.symm.trans found
        exact ⟨_, rfl, rfl⟩
      · exact ⟨task, found, rfl⟩

theorem Moves.phase {after : World} (moves : Moves sha256Hex ticks world after) {task later : Task}
    (found : world.tasks.lookup name = some task) (lookup : after.tasks.lookup name = some later) :
    later = task ∨ ∃ entry, Turns sha256Hex world task later.phase entry := by
  cases moves with
  | disturbed disturbs =>
      rw [disturbs.tasks, found] at lookup
      exact .inl (Option.some.inj lookup).symm
  | @requested other id file absent _ same =>
      subst same
      dsimp only at lookup
      rw [Table.lookup_insert_eq] at lookup
      split at lookup
      · rename_i same
        subst same
        cases absent.symm.trans found
      · exact .inl (Option.some.inj (lookup.symm.trans found))
  | @turned other turned phase entry present turns same =>
      subst same
      dsimp only at lookup
      rw [Table.lookup_insert_eq] at lookup
      split at lookup
      · rename_i same
        subst same
        cases present.symm.trans found
        cases lookup
        exact .inr ⟨entry, turns⟩
      · exact .inl (Option.some.inj (lookup.symm.trans found))

theorem History.task (history : History sha256Hex ticks (world :: past)) {start : World}
    {newer older : List World} (since : world :: past = newer ++ start :: older) {task : Task}
    (found : start.tasks.lookup name = some task) :
    ∃ later, world.tasks.lookup name = some later ∧ later.file = task.file := by
  induction newer generalizing world past with
  | nil =>
      cases since
      exact ⟨task, found, rfl⟩
  | cons newest newer ih =>
      obtain ⟨rfl, rest⟩ := List.cons.inj since
      cases past with
      | nil => exact absurd rest (by simp)
      | cons earlier past =>
          obtain ⟨history, moves⟩ := history.tail
          obtain ⟨middle, lookup, same⟩ := ih history rest
          obtain ⟨later, there, kept⟩ := moves.task lookup
          exact ⟨later, there, kept.trans same⟩

theorem History.moment (history : History sha256Hex ticks (world :: past)) {id : FileId}
    {start : World} {newer older : List World} (since : world :: past = newer ++ start :: older)
    (begun : start.tasks.lookup name = some ⟨id, .opened⟩) {task : Task}
    (found : world.tasks.lookup name = some task) (holds : task.phase.holds = true)
    {before : Identity} (measured : task.phase.before = some before) {other : FileId} {file : File}
    (seen : Seen (world :: past) other before file) (known : identity file = before) :
    ∃ moment ∈ newer ++ [start], moment.files.lookup id = some file := by
  induction newer generalizing world past task with
  | nil =>
      cases since
      cases begun.symm.trans found
      cases measured
  | cons newest newer ih =>
      obtain ⟨rfl, rest⟩ := List.cons.inj since
      have own : task.file = id := by
        obtain ⟨later, lookup, same⟩ := history.task since begun
        cases lookup.symm.trans found
        exact same
      obtain ⟨moment, among, lookup, quiet⟩ := seen
      rcases List.mem_cons.mp among with rfl | old
      · -- The file of the request is there, and no other one has its device and inode.
        obtain ⟨held, there, kept⟩ := history.attended name task found holds
        obtain ⟨device, inode⟩ := kept before measured
        have same : other = task.file := history.distinct other task.file file held lookup there
          ((congrArg Identity.dev known).trans device.symm)
          ((congrArg Identity.ino known).trans inode.symm)
        exact ⟨moment, List.mem_cons_self, own ▸ same ▸ lookup⟩
      · cases past with
        | nil => cases old
        | cons earlier past =>
            obtain ⟨tail, moves⟩ := history.tail
            obtain ⟨middle, was, same⟩ := tail.task rest begun
            have earlierSeen : Seen (earlier :: past) other before file :=
              ⟨moment, old, lookup, quiet⟩
            have goesOn : middle.phase.holds = true → middle.phase.before = some before →
                ∃ moment ∈ world :: newer ++ [start], moment.files.lookup id = some file := by
              intro open' read
              obtain ⟨moment, since, has⟩ := ih tail rest was open' read earlierSeen
              exact ⟨moment, List.mem_cons_of_mem _ since, has⟩
            rcases moves.phase was found with rfl | ⟨entry, turns⟩
            · exact goesOn holds measured
            · rcases turns.before measured with read | ⟨now, has, identified⟩
              · exact goesOn turns.holds read
              · -- The identity was read in the world before.
                have before' := tail.same_file old quiet has (congrArg Identity.ctime identified)
                obtain ⟨_, then'⟩ := tail.of_mem old
                have twin : other = middle.file := then'.distinct other middle.file file now lookup
                  before' (congrArg Identity.dev (known.trans identified.symm))
                  (congrArg Identity.ino (known.trans identified.symm))
                subst twin
                cases lookup.symm.trans before'
                have last : earlier ∈ newer ++ [start] := by
                  cases newer with
                  | nil => exact (List.cons.inj rest).1 ▸ List.mem_singleton_self _
                  | cons first newer => exact (List.cons.inj rest).1 ▸ List.mem_cons_self
                have mine : middle.file = id := same
                exact ⟨earlier, List.mem_cons_of_mem _ last, mine ▸ has⟩

/-- In one step a request is answered with a digest from the memory. -/
structure Serves (world after : World) (name : TaskId) (id : FileId) (digest : String) :
    Prop where
  pending : world.tasks.lookup name ≠ some ⟨id, .answered digest true⟩
  answered : after.tasks.lookup name = some ⟨id, .answered digest true⟩

/-- In one step a digest comes into the memory. -/
structure Remembers (world after : World) (before : Identity) (digest : String) : Prop where
  unknown : world.memory.lookup before ≠ some digest
  known : after.memory.lookup before = some digest

theorem Moves.serves {after : World} (moves : Moves sha256Hex ticks world after) {id : FileId}
    {digest : String} (serves : Serves world after name id digest) :
    ∃ before, world.tasks.lookup name = some ⟨id, .judged before true⟩ ∧
      world.memory.lookup before = some digest ∧ after.files = world.files := by
  have answered := serves.answered
  cases moves with
  | disturbed disturbs =>
      rw [disturbs.tasks] at answered
      exact absurd answered serves.pending
  | requested absent _ same =>
      subst same
      dsimp only at answered
      rw [Table.lookup_insert_eq] at answered
      split at answered
      · cases answered
      · exact absurd answered serves.pending
  | @turned other task phase entry present turns same =>
      subst same
      dsimp only at answered
      rw [Table.lookup_insert_eq] at answered
      split at answered
      · rename_i same
        subst same
        cases answered
        cases turns with
        | @served before _ was known =>
            refine ⟨before, was ▸ present, ?_, rfl⟩
            unfold World.known at known
            split at known
            · cases known
            · exact known
      · exact absurd answered serves.pending

theorem Moves.remembers {after : World} (moves : Moves sha256Hex ticks world after)
    {before : Identity} {digest : String} (remembers : Remembers world after before digest) :
    ∃ name id reads, world.tasks.lookup name = some ⟨id, .unchanged before reads⟩ ∧
      digest = sha256Hex (bytesOf reads) := by
  have known := remembers.known
  cases moves with
  | disturbed disturbs =>
      rw [disturbs.memory] at known
      exact absurd known remembers.unknown
  | requested _ _ same =>
      subst same
      exact absurd known remembers.unknown
  | @turned name task phase entry present turns same =>
      subst same
      cases turns with
      | @remembers identity reads was =>
          dsimp only [World.remember] at known
          rw [Table.lookup_insert_eq] at known
          split at known
          · rename_i same
            subst same
            cases known
            exact ⟨name, task.file, reads, was ▸ present, rfl⟩
          · exact absurd known remembers.unknown
      | _ => exact absurd known remembers.unknown

/-- The worlds that some events lead through, where each of them can happen. -/
def replay (sha256Hex : List UInt8 → String) (ticks : Ticks) :
    List World → List Event → Option (List World)
  | worlds, [] => some worlds
  | [], _ :: _ => none
  | world :: past, event :: rest =>
      (step sha256Hex ticks world event).bind (fun after =>
        replay sha256Hex ticks (after :: world :: past) rest)

theorem replay_history {worlds later : List World} {events : List Event}
    (history : History sha256Hex ticks worlds)
    (replayed : replay sha256Hex ticks worlds events = some later) :
    History sha256Hex ticks later := by
  induction events generalizing worlds with
  | nil =>
      cases worlds <;> cases replayed <;> exact history
  | cons event rest ih =>
      cases worlds with
      | nil => cases replayed
      | cons world past =>
          obtain ⟨after, stepped, replayed⟩ := Option.bind_eq_some_iff.mp replayed
          exact ih (.next history stepped) replayed

/-- Status-change times in whole seconds. -/
def wholeSeconds : Ticks where
  down _ now := now / NANOS_PER_SEC * NANOS_PER_SEC
  le _ now := by
    unfold NANOS_PER_SEC
    omega
  within _ now := by
    unfold NANOS_PER_SEC
    omega

/-- A digest that is not too hard to compute. -/
def spelledOut (bytes : List UInt8) : String :=
  String.ofList (bytes.map (fun byte => Char.ofNat byte.toNat))

def askedTwice : List Event :=
  [.happens (.create 0 8 1031 [65] ⟨0, 0⟩), .happens (.passes (10 * NANOS_PER_SEC)),
    .request 0 0, .turn 0 .measure, .turn 0 .judge, .turn 0 .lookUp, .turn 0 (.read 1),
    .turn 0 (.read 1), .turn 0 (.compare true), .turn 0 .remember,
    .request 1 0, .turn 1 .measure, .turn 1 .judge]

def served : List World :=
  (replay spelledOut wholeSeconds [World.initial 0] (askedTwice ++ [.turn 1 .lookUp])).getD []

def rewritten : List World :=
  (replay spelledOut wholeSeconds [World.initial 0]
    (askedTwice ++ [.happens (.write 0 0 [66] ⟨10, 0⟩), .turn 1 .lookUp])).getD []

end RememberedHash

open RememberedHash

/-- A digest that is served from the memory is that of the bytes of the file at a moment of
the request, and of those it holds now if it still has the identity that the request read.
A digest that is remembered is that of a whole file, every read of which was made while the
file had the identity. -/
theorem remembered_digests_vouched (sha256Hex : List UInt8 → String) (ticks : Ticks)
    (world after : World) (past : List World)
    (history : History sha256Hex ticks (after :: world :: past)) :
    (∀ name id digest, Serves world after name id digest →
      ∃ before, world.tasks.lookup name = some ⟨id, .judged before true⟩ ∧
        (∀ file, after.files.lookup id = some file → identity file = before →
          digest = sha256Hex file.content) ∧
        ∀ newer start older, world :: past = newer ++ start :: older →
          start.tasks.lookup name = some ⟨id, .opened⟩ →
            ∃ moment ∈ newer ++ [start], ∃ file, moment.files.lookup id = some file ∧
              digest = sha256Hex file.content) ∧
      ∀ before digest, Remembers world after before digest →
        ∃ name id reads file, world.tasks.lookup name = some ⟨id, .unchanged before reads⟩ ∧
          digest = sha256Hex (bytesOf reads) ∧
            Confirmed (world :: past) id before reads file := by
  obtain ⟨history, moves⟩ := history.tail
  constructor
  · intro name id digest serves
    obtain ⟨before, judged, known, same⟩ := moves.serves serves
    obtain ⟨other, file, seen, identified, rfl⟩ := history.sound.memory before digest known
    refine ⟨before, judged, ?_, ?_⟩
    · intro now found has
      rw [same] at found
      obtain ⟨moment, among, lookup, quiet⟩ := seen
      have then' := history.same_file among quiet found (congrArg Identity.ctime has)
      obtain ⟨_, earlier⟩ := history.of_mem among
      have twin := earlier.distinct other id file now lookup then'
        (congrArg Identity.dev (identified.trans has.symm))
        (congrArg Identity.ino (identified.trans has.symm))
      subst twin
      cases lookup.symm.trans then'
      rfl
    · intro newer start older since begun
      obtain ⟨moment, among, lookup⟩ :=
        history.moment since begun judged rfl rfl seen identified
      exact ⟨moment, among, file, lookup, rfl⟩
  · intro before digest remembers
    obtain ⟨name, id, reads, found, same⟩ := moves.remembers remembers
    obtain ⟨file, confirmed⟩ := history.sound.phases name _ found
    exact ⟨name, id, reads, file, found, same, confirmed⟩

private theorem replayed_history (events : List Event)
    (can : (replay spelledOut wholeSeconds [World.initial 0] events).isSome = true) :
    History spelledOut wholeSeconds
      ((replay spelledOut wholeSeconds [World.initial 0] events).getD []) := by
  obtain ⟨worlds, replayed⟩ := Option.isSome_iff_exists.mp can
  rw [replayed]
  exact replay_history (.start 0) replayed

private theorem two_worlds {worlds : List World} (several : 2 ≤ worlds.length) :
    ∃ after world past, worlds = after :: world :: past := by
  match worlds, several with
  | after :: world :: past, _ => exact ⟨after, world, past, rfl⟩

private def lastStep (worlds : List World) (name : TaskId) (id : FileId) :
    Option Task × Option Task × Option (List UInt8) :=
  match worlds with
  | after :: world :: _ =>
      (world.tasks.lookup name, after.tasks.lookup name,
        (after.files.lookup id).map File.content)
  | _ => (none, none, none)

theorem served_vouched : ∃ after world past, served = after :: world :: past ∧
    ∃ before, world.tasks.lookup 1 = some ⟨0, .judged before true⟩ ∧
      ∀ file, after.files.lookup 0 = some file → identity file = before →
        "A" = spelledOut file.content := by
  obtain ⟨after, world, past, whole⟩ := @two_worlds served (by decide +kernel)
  have history := replayed_history (askedTwice ++ [.turn 1 .lookUp]) (by decide +kernel)
  change History spelledOut wholeSeconds served at history
  have last : (lastStep served 1 0).2.1 = some ⟨0, .answered "A" true⟩ := by decide +kernel
  have was : (lastStep served 1 0).1 ≠ some ⟨0, .answered "A" true⟩ := by decide +kernel
  rw [whole] at history last was
  obtain ⟨before, judged, present, _⟩ :=
    (remembered_digests_vouched spelledOut wholeSeconds world after past history).1 1 0 "A"
      ⟨was, last⟩
  exact ⟨after, world, past, whole, before, judged, present⟩

/-- A request may be answered with the digest of bytes that the file no longer holds. -/
theorem rewritten_served_stale : ∃ after world past digest file,
    History spelledOut wholeSeconds (after :: world :: past) ∧
      Serves world after 1 0 digest ∧ after.files.lookup 0 = some file ∧
        digest ≠ spelledOut file.content := by
  obtain ⟨after, world, past, whole⟩ := @two_worlds rewritten (by decide +kernel)
  have history := replayed_history
    (askedTwice ++ [.happens (.write 0 0 [66] ⟨10, 0⟩), .turn 1 .lookUp]) (by decide +kernel)
  change History spelledOut wholeSeconds rewritten at history
  have last : (lastStep rewritten 1 0).2.1 = some ⟨0, .answered "A" true⟩ := by decide +kernel
  have was : (lastStep rewritten 1 0).1 ≠ some ⟨0, .answered "A" true⟩ := by decide +kernel
  have holds : (lastStep rewritten 1 0).2.2 = some [66] := by decide +kernel
  rw [whole] at history last was holds
  obtain ⟨file, found, content⟩ := Option.map_eq_some_iff.mp holds
  refine ⟨after, world, past, "A", file, history, ⟨was, last⟩, found, ?_⟩
  rw [content]
  decide

end TinyBus
