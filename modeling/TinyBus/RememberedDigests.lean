import TinyBus.RememberedHash

/-
What the remembered digests are worth.  From two seconds after the status-change time of a
file on, whatever is done to it gives it another one, for good; so all that was seen of it
with the old one, from then on, was the same file.
-/

namespace TinyBus

namespace RememberedHash

variable {sha256Hex : List UInt8 → String} {ticks : Ticks}

/-! ### Late changes show -/

/-- The time from which on a change gives another status-change time. -/
def Quiet (before : Identity) (now : Int) : Prop :=
  (before.ctime.sec + 2) * NANOS_PER_SEC ≤ now

theorem Quiet.later {before : Identity} {now then' : Int} (quiet : Quiet before now)
    (later : now ≤ then') : Quiet before then' :=
  Int.le_trans quiet later

theorem quiet_of_quietFor {before : Identity} {now : Int}
    (quiet : quietFor before REMEMBER_AFTER now = true) : Quiet before now := by
  unfold quietFor REMEMBER_AFTER NANOS_PER_SEC at quiet
  rw [Bool.and_eq_true, decide_eq_true_eq] at quiet
  unfold Quiet NANOS_PER_SEC
  have newest : before.ctime.sec ≤ max before.mtime.sec before.ctime.sec := Int.le_max_right _ _
  have late := quiet.2
  omega

theorem Quiet.moves {before : Identity} {now : Int} (quiet : Quiet before now) (device : Nat) :
    before.ctime ≠ .ofNanos (ticks.down device now) := by
  intro same
  have seconds : before.ctime.sec = ticks.down device now / NANOS_PER_SEC :=
    congrArg Stamp.sec same
  have within := ticks.within device now
  unfold Quiet at quiet
  unfold NANOS_PER_SEC at quiet seconds within
  omega

def Distinct (files : Table FileId File) : Prop :=
  ∀ id other file twin, files.lookup id = some file → files.lookup other = some twin →
    file.dev = twin.dev → file.ino = twin.ino → id = other

variable {id : FileId} {after : World} {file : File} {phase : Phase} {reads : List Reading}
  {task : Task} {entry : Option (Identity × String)} {worlds : List World}

theorem held_iff {world : World} :
    world.held id = true ↔
      ∃ name task, world.tasks.lookup name = some task ∧ task.file = id ∧
        task.phase.holds = true := by
  unfold World.held
  rw [List.any_eq_true]
  constructor
  · rintro ⟨⟨name, task⟩, among, both⟩
    rw [Bool.and_eq_true, decide_eq_true_eq] at both
    exact ⟨name, task, Table.mem_pairs_iff_lookup.mp among, both⟩
  · rintro ⟨name, task, found, both⟩
    exact ⟨(name, task), Table.mem_pairs_iff_lookup.mpr found, by simpa using both⟩

structure Disturbs (ticks : Ticks) (world after : World) : Prop where
  tasks : after.tasks = world.tasks
  memory : after.memory = world.memory
  later : world.now ≤ after.now
  stamped : ∀ id file, after.files.lookup id = some file →
    world.files.lookup id = some file ∨ file.ctime = .ofNanos (ticks.down file.dev world.now)
  kept : ∀ id file, world.held id = true → world.files.lookup id = some file →
    ∃ same, after.files.lookup id = some same ∧ same.dev = file.dev ∧ same.ino = file.ino
  distinct : Distinct world.files → Distinct after.files

private theorem change_disturbs {world : World} {content : List UInt8 → List UInt8} {mtime : Stamp}
    (changed : world.change ticks id content mtime = some after) :
    Disturbs ticks world after := by
  obtain ⟨file, found, rfl⟩ := Option.map_eq_some_iff.mp changed
  refine ⟨rfl, rfl, Int.le_refl _, ?_, ?_, ?_⟩
  · intro other now lookup
    dsimp only at lookup
    rw [Table.lookup_insert_eq] at lookup
    split at lookup
    · cases lookup
      exact .inr rfl
    · exact .inl lookup
  · intro other kept _ lookup
    dsimp only
    by_cases same : other = id
    · subst same
      rw [found] at lookup
      cases lookup
      exact ⟨_, AList.lookup_insert _, rfl, rfl⟩
    · exact ⟨kept, (AList.lookup_insert_ne same).trans lookup, rfl, rfl⟩
  · intro distinct
    -- The changed file stands for the one it was.
    have was : ∀ other now, (world.files.insert id
        { file with
          content := content file.content
          mtime := mtime
          ctime := Stamp.ofNanos (ticks.down file.dev world.now) }).lookup other = some now →
        ∃ old, world.files.lookup other = some old ∧ old.dev = now.dev ∧ old.ino = now.ino := by
      intro other now lookup
      rw [Table.lookup_insert_eq] at lookup
      split at lookup
      · rename_i same
        cases lookup
        exact ⟨file, same ▸ found, rfl, rfl⟩
      · exact ⟨now, lookup, rfl, rfl⟩
    intro one two left right first second device inode
    obtain ⟨before, held, dev, ino⟩ := was one left first
    obtain ⟨twin, other, dev', ino'⟩ := was two right second
    exact distinct one two before twin held other (dev.trans (device.trans dev'.symm))
      (ino.trans (inode.trans ino'.symm))

private theorem create_disturbs {world : World} {dev ino : Nat} {content : List UInt8}
    {mtime : Stamp} (absent : world.files.lookup id = none) (free : world.free dev ino = true) :
    Disturbs ticks world { world with
      files := world.files.insert id
        ⟨dev, ino, content, mtime, .ofNanos (ticks.down dev world.now)⟩ } := by
  refine ⟨rfl, rfl, Int.le_refl _, ?_, ?_, ?_⟩
  · intro other file lookup
    dsimp only at lookup
    rw [Table.lookup_insert_eq] at lookup
    split at lookup
    · cases lookup
      exact .inr rfl
    · exact .inl lookup
  · intro other file _ lookup
    have different : other ≠ id := by
      rintro rfl
      rw [absent] at lookup
      cases lookup
    exact ⟨file, (AList.lookup_insert_ne different).trans lookup, rfl, rfl⟩
  · intro distinct one two left right first second device inode
    dsimp only at first second
    rw [Table.lookup_insert_eq] at first second
    have apart : ∀ other file, world.files.lookup other = some file → file.dev = dev →
        file.ino ≠ ino := by
      intro other file lookup device
      have clear := List.all_eq_true.mp free _ (Table.mem_pairs_iff_lookup.mpr lookup)
      simpa [device] using clear
    split at first
    · rename_i here
      split at second
      · rename_i there
        exact here.trans there.symm
      · cases first
        exact absurd inode.symm (apart two right second device.symm)
    · split at second
      · cases second
        exact absurd inode (apart one left first device)
      · exact distinct one two left right first second device inode

theorem disturb_disturbs {world : World} {happening : Happening}
    (disturbed : disturb ticks world happening = some after) : Disturbs ticks world after := by
  cases happening with
  | passes now =>
      rw [disturb] at disturbed
      split at disturbed
      · rename_i later
        cases disturbed
        exact ⟨rfl, rfl, later, fun _ _ => .inl, fun _ file _ found => ⟨file, found, rfl, rfl⟩, id⟩
      · cases disturbed
  | create id dev ino content mtime =>
      rw [disturb] at disturbed
      split at disturbed
      · rename_i both
        rw [Bool.and_eq_true, Option.isNone_iff_eq_none] at both
        cases disturbed
        exact create_disturbs both.1 both.2
      · cases disturbed
  | write id offset bytes mtime =>
      rw [disturb] at disturbed
      exact change_disturbs disturbed
  | truncate id length mtime =>
      rw [disturb] at disturbed
      exact change_disturbs disturbed
  | setTimes id mtime =>
      rw [disturb] at disturbed
      exact change_disturbs disturbed
  | remove id =>
      rw [disturb] at disturbed
      split at disturbed
      · cases disturbed
      · rename_i loose
        cases disturbed
        refine ⟨rfl, rfl, Int.le_refl _, ?_, ?_, ?_⟩
        · intro other file lookup
          dsimp only at lookup
          rw [Table.lookup_erase_eq] at lookup
          split at lookup
          · cases lookup
          · exact .inl lookup
        · intro other file held lookup
          have different : other ≠ id := by
            rintro rfl
            exact loose held
          exact ⟨file, (AList.lookup_erase_ne different).trans lookup, rfl, rfl⟩
        · intro distinct one two left right first second
          dsimp only at first second
          rw [Table.lookup_erase_eq] at first second
          split at first
          · cases first
          · split at second
            · cases second
            · exact distinct one two left right first second
  | poison =>
      cases disturbed
      exact ⟨rfl, rfl, Int.le_refl _, fun _ _ => .inl,
        fun _ file _ found => ⟨file, found, rfl, rfl⟩, id⟩

/-! ### What a turn can do -/

inductive Turns (sha256Hex : List UInt8 → String) (world : World) (task : Task) :
    Phase → Option (Identity × String) → Prop
  | measured {file : File} (was : task.phase = .opened)
      (found : world.files.lookup task.file = some file) :
      Turns sha256Hex world task (.measured (identity file)) none
  | judged {before : Identity} (was : task.phase = .measured before) :
      Turns sha256Hex world task
        (.judged before (quietFor before REMEMBER_AFTER world.now)) none
  | served {before : Identity} {digest : String} (was : task.phase = .judged before true)
      (known : world.known before = some digest) :
      Turns sha256Hex world task (.answered digest true) none
  | begins {before : Identity} {eligible : Bool} (was : task.phase = .judged before eligible) :
      Turns sha256Hex world task (.hashing before eligible []) none
  | reads {before : Identity} {eligible : Bool} {reads : List Reading} {file : File}
      {bytes : List UInt8} (was : task.phase = .hashing before eligible reads)
      (found : world.files.lookup task.file = some file)
      (next : bytes <+: file.content.drop (bytesOf reads).length) :
      Turns sha256Hex world task (.hashing before eligible (reads ++ [⟨file, bytes⟩])) none
  | ends {before : Identity} {eligible : Bool} {reads : List Reading} {file : File}
      (was : task.phase = .hashing before eligible reads)
      (found : world.files.lookup task.file = some file)
      (whole : file.content.drop (bytesOf reads).length = []) :
      Turns sha256Hex world task (.hashed before eligible (reads ++ [⟨file, []⟩])) none
  | compared {before : Identity} {reads : List Reading} {file : File}
      (was : task.phase = .hashed before true reads)
      (found : world.files.lookup task.file = some file) (same : identity file = before) :
      Turns sha256Hex world task (.unchanged before reads) none
  | differs {before : Identity} {eligible : Bool} {reads : List Reading}
      (was : task.phase = .hashed before eligible reads) :
      Turns sha256Hex world task (.answered (sha256Hex (bytesOf reads)) false) none
  | remembers {before : Identity} {reads : List Reading}
      (was : task.phase = .unchanged before reads) :
      Turns sha256Hex world task (.answered (sha256Hex (bytesOf reads)) false)
        (some (before, sha256Hex (bytesOf reads)))
  | forgets {before : Identity} {reads : List Reading}
      (was : task.phase = .unchanged before reads) :
      Turns sha256Hex world task (.answered (sha256Hex (bytesOf reads)) false) none
  | fails (was : task.phase.holds = true) : Turns sha256Hex world task .failed none

private theorem readChunk_turns {world : World} {before : Identity} {eligible : Bool} {count : Nat}
    (was : task.phase = .hashing before eligible reads)
    (found : world.files.lookup task.file = some file)
    (taken : readChunk before eligible reads file count = some phase) :
    Turns sha256Hex world task phase none := by
  unfold readChunk at taken
  dsimp only at taken
  split at taken
  · rename_i whole
    cases taken
    exact .ends was found whole
  · split at taken
    · cases taken
      exact .reads was found (List.take_prefix _ _)
    · cases taken

theorem takeTurn_turns {world : World} {turn : Turn}
    (taken : takeTurn sha256Hex world task turn = some (phase, entry)) :
    Turns sha256Hex world task phase entry := by
  unfold takeTurn at taken
  split at taken
  · rename_i was
    obtain ⟨file, found, same⟩ := Option.map_eq_some_iff.mp taken
    cases same
    exact .measured was found
  · rename_i was
    cases taken
    exact .judged was
  · rename_i before eligible was
    split at taken
    · rename_i digest known
      cases taken
      cases eligible with
      | false => cases known
      | true => exact .served was known
    · cases taken
      exact .begins was
  · rename_i was
    obtain ⟨file, found, read⟩ := Option.bind_eq_some_iff.mp taken
    obtain ⟨next, chunk, same⟩ := Option.map_eq_some_iff.mp read
    cases same
    exact readChunk_turns was found chunk
  · rename_i before eligible reads readable was
    split at taken
    · rename_i all
      cases taken
      rw [Bool.and_eq_true, Bool.and_eq_true, Option.any_eq_true] at all
      obtain ⟨⟨rfl, _⟩, file, found, same⟩ := all
      exact .compared was found (of_decide_eq_true same)
    · cases taken
      exact .differs was
  · rename_i was
    dsimp only at taken
    split at taken
    · cases taken
      exact .forgets was
    · cases taken
      exact .remembers was
  · rename_i was
    cases taken
    exact .fails (by rw [was]; rfl)
  · rename_i was
    cases taken
    exact .fails (by rw [was]; rfl)
  · cases taken

inductive Moves (sha256Hex : List UInt8 → String) (ticks : Ticks) (world after : World) : Prop
  | disturbed (disturbs : Disturbs ticks world after)
  | requested {name : TaskId} {id : FileId} {file : File}
      (absent : world.tasks.lookup name = none) (found : world.files.lookup id = some file)
      (same : after = { world with tasks := world.tasks.insert name ⟨id, .opened⟩ })
  | turned {name : TaskId} {task : Task} {phase : Phase} {entry : Option (Identity × String)}
      (found : world.tasks.lookup name = some task)
      (turns : Turns sha256Hex world task phase entry)
      (same : after =
        { world with
          memory := world.remember entry
          tasks := world.tasks.insert name { task with phase := phase } })

theorem step_moves {world : World} {event : Event}
    (stepped : step sha256Hex ticks world event = some after) :
    Moves sha256Hex ticks world after := by
  cases event with
  | happens happening => exact .disturbed (disturb_disturbs stepped)
  | request name id =>
      rw [step] at stepped
      split at stepped
      · rename_i both
        rw [Bool.and_eq_true, Option.isSome_iff_exists, Option.isNone_iff_eq_none] at both
        obtain ⟨absent, file, found⟩ := both
        cases stepped
        exact .requested absent found rfl
      · cases stepped
  | turn name turn =>
      rw [step] at stepped
      obtain ⟨task, found, moved⟩ := Option.bind_eq_some_iff.mp stepped
      obtain ⟨⟨phase, entry⟩, taken, rfl⟩ := Option.map_eq_some_iff.mp moved
      exact .turned found (takeTurn_turns taken) rfl

/-! ### Files over a history -/

theorem Moves.later {world : World} (moves : Moves sha256Hex ticks world after) :
    world.now ≤ after.now := by
  cases moves with
  | disturbed disturbs => exact disturbs.later
  | requested _ _ same => exact same ▸ Int.le_refl _
  | turned _ _ same => exact same ▸ Int.le_refl _

theorem Moves.stamped {world : World} (moves : Moves sha256Hex ticks world after)
    (found : after.files.lookup id = some file) :
    world.files.lookup id = some file ∨
      file.ctime = .ofNanos (ticks.down file.dev world.now) := by
  cases moves with
  | disturbed disturbs => exact disturbs.stamped id file found
  | requested _ _ same =>
      subst same
      exact .inl found
  | turned _ _ same =>
      subst same
      exact .inl found

theorem Moves.distinct {world : World} (moves : Moves sha256Hex ticks world after)
    (distinct : Distinct world.files) : Distinct after.files := by
  cases moves with
  | disturbed disturbs => exact disturbs.distinct distinct
  | requested _ _ same => exact same ▸ distinct
  | turned _ _ same => exact same ▸ distinct

variable {world : World} {past : List World}

theorem History.distinct (history : History sha256Hex ticks (world :: past)) :
    Distinct world.files := by
  generalize whole : world :: past = worlds at history
  induction history generalizing world past with
  | start now =>
      cases whole
      intro id other file twin found
      rw [World.initial, Table.lookup_empty] at found
      cases found
  | next _ stepped ih =>
      cases whole
      exact (step_moves stepped).distinct (ih rfl)

theorem History.tail (history : History sha256Hex ticks (after :: world :: past)) :
    History sha256Hex ticks (world :: past) ∧ Moves sha256Hex ticks world after := by
  cases history with
  | next earlier stepped => exact ⟨earlier, step_moves stepped⟩

theorem History.of_mem (history : History sha256Hex ticks (world :: past)) {other : World}
    (among : other ∈ world :: past) :
    ∃ before, History sha256Hex ticks (other :: before) := by
  induction past generalizing world with
  | nil => exact ⟨[], List.mem_singleton.mp among ▸ history⟩
  | cons earlier past ih =>
      rcases List.mem_cons.mp among with rfl | old
      · exact ⟨_, history⟩
      · exact ih history.tail.1 old

theorem History.now_le (history : History sha256Hex ticks (world :: past)) {other : World}
    (among : other ∈ world :: past) : other.now ≤ world.now := by
  induction past generalizing world with
  | nil => exact List.mem_singleton.mp among ▸ Int.le_refl _
  | cons earlier past ih =>
      rcases List.mem_cons.mp among with rfl | old
      · exact Int.le_refl _
      · exact Int.le_trans (ih history.tail.1 old) history.tail.2.later

theorem History.same_file (history : History sha256Hex ticks (world :: past)) {other : World}
    (among : other ∈ world :: past) {before : Identity} (quiet : Quiet before other.now)
    (found : world.files.lookup id = some file)
    (stamp : file.ctime = before.ctime) : other.files.lookup id = some file := by
  induction past generalizing world with
  | nil => exact List.mem_singleton.mp among ▸ found
  | cons earlier past ih =>
      rcases List.mem_cons.mp among with rfl | old
      · exact found
      · obtain ⟨history, moves⟩ := history.tail
        rcases moves.stamped found with kept | moved
        · exact ih history old kept
        · have late := quiet.later (history.now_le old)
          exact absurd (stamp.symm.trans moved) (late.moves file.dev)

/-! ### Requests over a history -/

theorem Turns.holds (turns : Turns sha256Hex world task phase entry) : task.phase.holds = true := by
  cases turns with
  | fails was => exact was
  | _ was => rw [was]; rfl

theorem Turns.before (turns : Turns sha256Hex world task phase entry) {before : Identity}
    (measured : phase.before = some before) :
    task.phase.before = some before ∨
      ∃ file, world.files.lookup task.file = some file ∧ identity file = before := by
  cases turns with
  | measured was found =>
      cases measured
      exact .inr ⟨_, found, rfl⟩
  | judged was => exact .inl (by rw [was]; exact measured)
  | begins was => exact .inl (by rw [was]; exact measured)
  | reads was => exact .inl (by rw [was]; exact measured)
  | ends was => exact .inl (by rw [was]; exact measured)
  | compared was => exact .inl (by rw [was]; exact measured)
  | _ => cases measured

def Attended (world : World) : Prop :=
  ∀ name task, world.tasks.lookup name = some task → task.phase.holds = true →
    ∃ file, world.files.lookup task.file = some file ∧
      ∀ before, task.phase.before = some before → file.dev = before.dev ∧ file.ino = before.ino

theorem Moves.attended {world : World} (moves : Moves sha256Hex ticks world after)
    (attended : Attended world) : Attended after := by
  intro name task found holds
  cases moves with
  | disturbed disturbs =>
      rw [disturbs.tasks] at found
      obtain ⟨file, there, measured⟩ := attended name task found holds
      obtain ⟨same, kept, device, inode⟩ :=
        disturbs.kept _ file (held_iff.mpr ⟨name, task, found, rfl, holds⟩) there
      refine ⟨same, kept, fun before read => ?_⟩
      exact ⟨device.trans (measured before read).1, inode.trans (measured before read).2⟩
  | requested _ there same =>
      subst same
      dsimp only at found ⊢
      rw [Table.lookup_insert_eq] at found
      split at found
      · cases found
        exact ⟨_, there, nofun⟩
      · exact attended name task found holds
  | turned present turns same =>
      subst same
      dsimp only at found ⊢
      rw [Table.lookup_insert_eq] at found
      split at found
      · cases found
        obtain ⟨file, there, measured⟩ := attended _ _ present turns.holds
        refine ⟨file, there, fun before read => ?_⟩
        rcases turns.before read with old | ⟨now, lookup, rfl⟩
        · exact measured before old
        · cases there.symm.trans lookup
          exact ⟨rfl, rfl⟩
      · exact attended name task found holds

theorem History.attended (history : History sha256Hex ticks (world :: past)) :
    Attended world := by
  generalize whole : world :: past = worlds at history
  induction history generalizing world past with
  | start now =>
      cases whole
      intro name task found
      rw [World.initial, Table.lookup_empty] at found
      cases found
  | next _ stepped ih =>
      cases whole
      exact (step_moves stepped).attended (ih rfl)

/-! ### What was read -/

def Seen (worlds : List World) (id : FileId) (before : Identity) (file : File) : Prop :=
  ∃ world ∈ worlds, world.files.lookup id = some file ∧ Quiet before world.now

def Fits (reads : List Reading) : Prop :=
  ∀ content, (∀ read ∈ reads, read.file.content = content) → bytesOf reads <+: content

def Whole (reads : List Reading) : Prop :=
  ∀ content, (∀ read ∈ reads, read.file.content = content) → bytesOf reads = content

/-- The reads were all of one file, with the identity that it has been given, and gave all
of its content. -/
structure Confirmed (worlds : List World) (id : FileId) (before : Identity)
    (reads : List Reading) (file : File) : Prop where
  seen : Seen worlds id before file
  known : identity file = before
  each : ∀ read ∈ reads, read.file = file
  whole : bytesOf reads = file.content

def PhaseSound (worlds : List World) (now : Int) (id : FileId) : Phase → Prop
  | .judged before eligible => eligible = true → Quiet before now
  | .hashing before eligible reads => Fits reads ∧
      (eligible = true → Quiet before now ∧ ∀ read ∈ reads, Seen worlds id before read.file)
  | .hashed before eligible reads => Whole reads ∧
      (eligible = true → Quiet before now ∧ ∀ read ∈ reads, Seen worlds id before read.file)
  | .unchanged before reads => ∃ file, Confirmed worlds id before reads file
  | _ => True

theorem bytesOf_append (reads : List Reading) (read : Reading) :
    bytesOf (reads ++ [read]) = bytesOf reads ++ read.bytes := by
  unfold bytesOf
  rw [List.map_append, List.flatten_append, List.map_singleton, List.flatten_singleton]

theorem Fits.append (fits : Fits reads) {bytes : List UInt8}
    (next : bytes <+: file.content.drop (bytesOf reads).length) :
    Fits (reads ++ [⟨file, bytes⟩]) := by
  intro content every
  have here : file.content = content := every ⟨file, bytes⟩ (by simp)
  obtain ⟨rest, begins⟩ := fits content fun read among => every read (List.mem_append_left _ among)
  rw [here, ← begins, List.drop_left] at next
  rw [bytesOf_append, ← begins]
  exact (List.prefix_append_right_inj _).mpr next

theorem Fits.ends (fits : Fits reads) (whole : file.content.drop (bytesOf reads).length = []) :
    Whole (reads ++ [⟨file, []⟩]) := by
  intro content every
  have here : file.content = content := every ⟨file, []⟩ (by simp)
  obtain ⟨rest, begins⟩ := fits content fun read among => every read (List.mem_append_left _ among)
  rw [here, ← begins, List.drop_left] at whole
  rw [bytesOf_append, List.append_nil, ← begins, whole, List.append_nil]

theorem Seen.mono {before : Identity} (seen : Seen worlds id before file)
    (after : World) : Seen (after :: worlds) id before file := by
  obtain ⟨world, among, facts⟩ := seen
  exact ⟨world, List.mem_cons_of_mem _ among, facts⟩

theorem Confirmed.mono {before : Identity} (confirmed : Confirmed worlds id before reads file)
    (after : World) : Confirmed (after :: worlds) id before reads file :=
  ⟨confirmed.seen.mono after, confirmed.known, confirmed.each, confirmed.whole⟩

theorem PhaseSound.mono {now later : Int} (sound : PhaseSound worlds now id phase) (after : World)
    (passes : now ≤ later) :
    PhaseSound (after :: worlds) later id phase := by
  cases phase with
  | judged before eligible => exact fun may => (sound may).later passes
  | hashing before eligible reads =>
      exact ⟨sound.1, fun may => ⟨(sound.2 may).1.later passes,
        fun read among => ((sound.2 may).2 read among).mono after⟩⟩
  | hashed before eligible reads =>
      exact ⟨sound.1, fun may => ⟨(sound.2 may).1.later passes,
        fun read among => ((sound.2 may).2 read among).mono after⟩⟩
  | unchanged before reads =>
      obtain ⟨file, confirmed⟩ := sound
      exact ⟨file, confirmed.mono after⟩
  | _ => trivial

theorem History.confirms (history : History sha256Hex ticks (world :: past)) {before : Identity}
    (whole : Whole reads) (quiet : Quiet before world.now)
    (seen : ∀ read ∈ reads, Seen (world :: past) id before read.file)
    (found : world.files.lookup id = some file) (known : identity file = before) :
    Confirmed (world :: past) id before reads file := by
  have each : ∀ read ∈ reads, read.file = file := by
    intro read among
    obtain ⟨other, there, lookup, then'⟩ := seen read among
    have same := history.same_file there then' found (congrArg Identity.ctime known)
    exact Option.some.inj (lookup.symm.trans same)
  refine ⟨⟨world, List.mem_cons_self, found, quiet⟩, known, each, whole _ ?_⟩
  exact fun read among => congrArg File.content (each read among)

theorem Turns.sound (turns : Turns sha256Hex world task phase entry)
    (history : History sha256Hex ticks (world :: past))
    (sound : PhaseSound (world :: past) world.now task.file task.phase) :
    PhaseSound (world :: past) world.now task.file phase := by
  cases turns with
  | judged was => exact fun may => quiet_of_quietFor may
  | begins was =>
      rw [was] at sound
      exact ⟨fun _ _ => List.nil_prefix, fun may => ⟨sound may, nofun⟩⟩
  | reads was found next =>
      rw [was] at sound
      refine ⟨sound.1.append next, fun may => ⟨(sound.2 may).1, ?_⟩⟩
      intro read among
      rcases List.mem_append.mp among with old | new
      · exact (sound.2 may).2 read old
      · cases List.mem_singleton.mp new
        exact ⟨world, List.mem_cons_self, found, (sound.2 may).1⟩
  | ends was found whole =>
      rw [was] at sound
      refine ⟨sound.1.ends whole, fun may => ⟨(sound.2 may).1, ?_⟩⟩
      intro read among
      rcases List.mem_append.mp among with old | new
      · exact (sound.2 may).2 read old
      · cases List.mem_singleton.mp new
        exact ⟨world, List.mem_cons_self, found, (sound.2 may).1⟩
  | compared was found same =>
      rw [was] at sound
      obtain ⟨quiet, seen⟩ := sound.2 rfl
      exact ⟨_, history.confirms sound.1 quiet seen found same⟩
  | _ => trivial

/-! ### What is remembered -/

def Vouched (sha256Hex : List UInt8 → String) (worlds : List World) (before : Identity)
    (digest : String) : Prop :=
  ∃ id file, Seen worlds id before file ∧ identity file = before ∧
    digest = sha256Hex file.content

structure Sound (sha256Hex : List UInt8 → String) (world : World) (worlds : List World) :
    Prop where
  phases : ∀ name task, world.tasks.lookup name = some task →
    PhaseSound worlds world.now task.file task.phase
  memory : ∀ before digest, world.memory.lookup before = some digest →
    Vouched sha256Hex worlds before digest

theorem Vouched.mono {before : Identity} {digest : String}
    (vouched : Vouched sha256Hex worlds before digest) (after : World) :
    Vouched sha256Hex (after :: worlds) before digest := by
  obtain ⟨id, file, seen, facts⟩ := vouched
  exact ⟨id, file, seen.mono after, facts⟩

theorem Turns.vouched {before : Identity} {digest : String}
    (turns : Turns sha256Hex world task phase (some (before, digest)))
    (sound : PhaseSound worlds world.now task.file task.phase) :
    Vouched sha256Hex worlds before digest := by
  cases turns with
  | remembers was =>
      rw [was] at sound
      obtain ⟨file, confirmed⟩ := sound
      exact ⟨task.file, file, confirmed.seen, confirmed.known,
        congrArg sha256Hex confirmed.whole⟩

theorem Moves.sound (moves : Moves sha256Hex ticks world after)
    (history : History sha256Hex ticks (world :: past))
    (sound : Sound sha256Hex world (world :: past)) :
    Sound sha256Hex after (after :: world :: past) := by
  have later := moves.later
  cases moves with
  | disturbed disturbs =>
      refine ⟨?_, ?_⟩
      · intro name task found
        rw [disturbs.tasks] at found
        exact (sound.phases name task found).mono after later
      · intro before digest known
        rw [disturbs.memory] at known
        exact (sound.memory before digest known).mono after
  | requested _ _ same =>
      subst same
      refine ⟨?_, fun before digest known => (sound.memory before digest known).mono _⟩
      intro name task found
      dsimp only at found
      rw [Table.lookup_insert_eq] at found
      split at found
      · cases found
        trivial
      · exact (sound.phases name task found).mono _ later
  | @turned turning turned phase entry present turns same =>
      subst same
      have was := sound.phases _ _ present
      refine ⟨?_, ?_⟩
      · intro name task found
        dsimp only at found
        rw [Table.lookup_insert_eq] at found
        split at found
        · cases found
          exact (turns.sound history was).mono _ later
        · exact (sound.phases name task found).mono _ later
      · intro before digest known
        cases entry with
        | none => exact (sound.memory before digest known).mono _
        | some entry =>
            dsimp only [World.remember] at known
            rw [Table.lookup_insert_eq] at known
            split at known
            · rename_i same
              cases known
              exact same ▸ (turns.vouched was).mono _
            · exact (sound.memory before digest known).mono _

theorem History.sound (history : History sha256Hex ticks (world :: past)) :
    Sound sha256Hex world (world :: past) := by
  generalize whole : world :: past = worlds at history
  induction history generalizing world past with
  | start now =>
      cases whole
      refine ⟨?_, ?_⟩
      · intro name task found
        rw [World.initial, Table.lookup_empty] at found
        cases found
      · intro before digest known
        rw [World.initial, Table.lookup_empty] at known
        cases known
  | next earlier stepped ih =>
      cases whole
      exact (step_moves stepped).sound earlier (ih rfl)

end RememberedHash

end TinyBus
