import TinyBus.Library.Decoders

/-
A reader of one compressed entry, which ends where the decoder reports the end of its stream
and nowhere else.  The bytes of the entry come in reads of any size, and go out into buffers
of any size; the decoder is that of a library.
-/

namespace TinyBus

namespace StrictDeflate

/-- What the underlying reader answers; a read of no bytes is the end, for the moment. -/
inductive InputRead where
  | bytes (chunk : List UInt8)
  | error (detail : String)

inductive IoError where
  | input (detail : String)
  | invalidData (text : String)
  deriving DecidableEq

/-- All the bytes that some reads give. -/
def bytesOf (reads : List InputRead) : List UInt8 :=
  (reads.map (fun read =>
    match read with
    | .bytes chunk => chunk
    | .error _ => [])).flatten

abbrev Inflater := StreamDecoder UInt8 UInt8

/-- The reads to come, the decoder with its count, and the buffer with what it holds. -/
structure Reader (inflater : Inflater) where
  input : List InputRead
  decoder : inflater.State
  totalIn : Nat
  buffer : List UInt8
  position : Nat
  expectedInput : Nat
  ended : Bool

variable {inflater : Inflater}

def new (input : List InputRead) (expectedInput : Nat) : Reader inflater :=
  { input := input
    decoder := inflater.fresh
    totalIn := 0
    buffer := []
    position := 0
    expectedInput := expectedInput
    ended := false }

def INVALID : String := "invalid DEFLATE stream"
def INCOMPLETE : String := "DEFLATE stream did not consume its complete entry"
def TRUNCATED : String := "truncated DEFLATE stream"

def refill (reader : Reader inflater) : Reader inflater × Option String :=
  if reader.position = reader.buffer.length then
    match reader.input with
    | [] => ({ reader with buffer := [], position := 0 }, none)
    | .bytes chunk :: rest =>
        ({ reader with input := rest, buffer := chunk, position := 0 }, none)
    | .error detail :: rest => ({ reader with input := rest }, some detail)
  else (reader, none)

def Reader.rest (reader : Reader inflater) : List UInt8 := reader.buffer.drop reader.position

abbrev Answer := Except IoError (List UInt8)

/-- What follows a call of the decoder: an answer, or another turn. -/
def settle (reader : Reader inflater) (called : Decoded inflater.State UInt8) :
    Reader inflater × Option Answer :=
  let eof := reader.buffer.isEmpty
  let next := { reader with
    decoder := called.state
    totalIn := reader.totalIn + called.consumed
    position := reader.position + called.consumed }
  if called.ended then
    if next.totalIn ≠ next.expectedInput then
      (next, some (.error (.invalidData INCOMPLETE)))
    else ({ next with ended := true }, some (.ok called.produced))
  else if called.produced ≠ [] then (next, some (.ok called.produced))
  else if eof || (called.consumed = 0 && next.position < next.buffer.length) then
    (next, some (.error (.invalidData TRUNCATED)))
  else (next, none)

def turn (room : Nat) (reader : Reader inflater) : Reader inflater × Option Answer :=
  match refill reader with
  | (reader, some detail) => (reader, some (.error (.input detail)))
  | (reader, none) =>
      match inflater.decode reader.decoder reader.rest room reader.buffer.isEmpty with
      | none => (reader, some (.error (.invalidData INVALID)))
      | some called => settle reader called

def loop (room : Nat) : Nat → Reader inflater → Option (Reader inflater × Answer)
  | 0, _ => none
  | turns + 1, reader =>
      match turn room reader with
      | (next, some answer) => some (next, answer)
      | (next, none) => loop room turns next

def Reader.remaining (reader : Reader inflater) : Nat :=
  reader.rest.length + (bytesOf reader.input).length

def read (room : Nat) (reader : Reader inflater) : Option (Reader inflater × Answer) :=
  if room = 0 || reader.ended then some (reader, .ok [])
  else loop room (reader.remaining + 1) reader

/-- How reading an entry stands. -/
inductive Verdict where
  | reading
  | clean
  | failed (error : IoError)
  | spins
  deriving DecidableEq

structure Session (inflater : Inflater) where
  reader : Reader inflater
  yielded : List UInt8
  verdict : Verdict

def start (input : List InputRead) (expectedInput : Nat) : Session inflater :=
  ⟨new input expectedInput, [], .reading⟩

/-- One read into a buffer, by somebody who stops at the end and at an error. -/
def Session.next (session : Session inflater) (room : Nat) : Session inflater :=
  match session.verdict with
  | .reading =>
      match read room session.reader with
      | none => { session with verdict := .spins }
      | some (reader, .ok []) => { session with reader := reader, verdict := .clean }
      | some (reader, .ok bytes) =>
          { session with reader := reader, yielded := session.yielded ++ bytes }
      | some (reader, .error error) =>
          { session with reader := reader, verdict := .failed error }
  | _ => session

def Session.run (session : Session inflater) (rooms : List Nat) : Session inflater :=
  rooms.foldl Session.next session

variable {decoded : List UInt8 → List UInt8} {script : List InputRead} {expected : Nat}

/-- The decoder has consumed the beginning of what was read, and given all it has produced. -/
structure Live (script : List InputRead) (expected : Nat) (reader : Reader inflater)
    (taken given : List UInt8) : Prop where
  fed : inflater.Fed reader.decoder taken given
  read : ∃ early, script = early ++ reader.input ∧ taken ++ reader.rest = bytesOf early
  counted : reader.totalIn = taken.length
  within : reader.position ≤ reader.buffer.length
  wanted : reader.expectedInput = expected
  opened : reader.ended = false

/-- The decoder has reported the end, after as many bytes as were expected. -/
structure Closed (script : List InputRead) (expected : Nat) (reader : Reader inflater)
    (given : List UInt8) : Prop where
  ended : reader.ended = true
  ends : ∃ taken, inflater.Ends taken given ∧ taken <+: bytesOf script ∧ taken.length = expected

/-- Why reading an entry may fail. -/
inductive Justified (inflater : Inflater) (script : List InputRead) (expected : Nat) :
    IoError → Prop
  | input {detail : String} (answered : .error detail ∈ script) :
      Justified inflater script expected (.input detail)
  | invalid {state : inflater.State} {taken given input : List UInt8} {room : Nat} {finish : Bool}
      (fed : inflater.Fed state taken given) (here : taken ++ input <+: bytesOf script)
      (refused : inflater.decode state input room finish = none) :
      Justified inflater script expected (.invalidData INVALID)
  | trailing {taken given : List UInt8} (ends : inflater.Ends taken given)
      (here : taken <+: bytesOf script) (other : taken.length ≠ expected) :
      Justified inflater script expected (.invalidData INCOMPLETE)
  -- All that was read has been consumed, and the next read gave nothing.
  | truncated {state : inflater.State} {taken given : List UInt8} {early later : List InputRead}
      (fed : inflater.Fed state taken given) (parts : script = early ++ later)
      (all : taken = bytesOf early) (empty : later = [] ∨ ∃ more, later = .bytes [] :: more) :
      Justified inflater script expected (.invalidData TRUNCATED)

theorem bytesOf_append (early late : List InputRead) :
    bytesOf (early ++ late) = bytesOf early ++ bytesOf late := by
  unfold bytesOf
  rw [List.map_append, List.flatten_append]

variable {given taken : List UInt8} {reader : Reader inflater} {room : Nat}
  {session : Session inflater}

theorem Live.beginning (live : Live script expected reader taken given) :
    taken ++ reader.rest <+: bytesOf script := by
  obtain ⟨early, parts, all⟩ := live.read
  rw [all, parts, bytesOf_append]
  exact List.prefix_append _ _

def Exhausted (script : List InputRead) (taken : List UInt8) : Prop :=
  ∃ early later, script = early ++ later ∧ taken = bytesOf early ∧
    (later = [] ∨ ∃ more, later = .bytes [] :: more)

structure Refilled (script : List InputRead) (expected : Nat) (reader next : Reader inflater)
    (taken given : List UInt8) : Prop where
  live : Live script expected next taken given
  same : next.remaining = reader.remaining
  empty : next.rest = [] → next.buffer = [] ∧ Exhausted script taken

theorem refill_live {next : Reader inflater} (live : Live script expected reader taken given)
    (refilled : refill reader = (next, none)) :
    Refilled script expected reader next taken given := by
  unfold refill at refilled
  split at refilled
  · rename_i used
    have nothing : reader.rest = [] := List.drop_eq_nil_of_le (Nat.le_of_eq used.symm)
    obtain ⟨early, parts, all⟩ := live.read
    rw [nothing, List.append_nil] at all
    split at refilled
    · rename_i spent
      cases refilled
      rw [spent, List.append_nil] at parts
      refine ⟨⟨live.fed, ⟨early, ?_, ?_⟩, live.counted, Nat.le_refl _, live.wanted,
        live.opened⟩, ?_, fun _ => ⟨rfl, early, [], ?_, all, .inl rfl⟩⟩
      · rw [spent, List.append_nil]
        exact parts
      · exact (List.append_nil _).trans all
      · unfold Reader.remaining
        rw [nothing]
        rfl
      · rw [List.append_nil]
        exact parts
    · rename_i chunk rest comes
      cases refilled
      rw [comes] at parts
      refine ⟨⟨live.fed, ⟨early ++ [.bytes chunk], ?_, ?_⟩, live.counted, Nat.zero_le _,
        live.wanted, live.opened⟩, ?_, ?_⟩
      · rw [parts, List.append_assoc]
        rfl
      · rw [bytesOf_append, ← all]
        exact congrArg (taken ++ ·) (List.append_nil chunk).symm
      · unfold Reader.remaining
        rw [nothing, comes]
        exact (@List.length_append _ chunk (bytesOf rest)).symm.trans (Nat.zero_add _).symm
      · intro empty
        have none : chunk = [] := empty
        refine ⟨none, early, .bytes chunk :: rest, parts, all, .inr ⟨rest, ?_⟩⟩
        rw [none]
    · cases refilled
  · rename_i unused
    cases refilled
    refine ⟨live, rfl, fun empty => ?_⟩
    have past := List.drop_eq_nil_iff.mp empty
    exact absurd (Nat.le_antisymm live.within past) unused

theorem refill_error {next : Reader inflater} {detail : String}
    (live : Live script expected reader taken given)
    (refilled : refill reader = (next, some detail)) : .error detail ∈ script := by
  obtain ⟨early, parts, _⟩ := live.read
  unfold refill at refilled
  split at refilled
  · split at refilled
    · cases refilled
    · cases refilled
    · rename_i answered
      cases refilled
      rw [parts, answered]
      exact List.mem_append_right _ List.mem_cons_self
  · cases refilled

/-- What an answer of a read means, after some bytes were given. -/
inductive Answers (script : List InputRead) (expected : Nat) (given : List UInt8)
    (next : Reader inflater) : Answer → Prop
  | gives {taken bytes : List UInt8} (some : bytes ≠ [])
      (live : Live script expected next taken (given ++ bytes)) :
      Answers script expected given next (.ok bytes)
  | closes {bytes : List UInt8} (closed : Closed script expected next (given ++ bytes)) :
      Answers script expected given next (.ok bytes)
  | fails {error : IoError} (justified : Justified inflater script expected error) :
      Answers script expected given next (.error error)

structure GoesOn (script : List InputRead) (expected : Nat) (reader next : Reader inflater)
    (given : List UInt8) : Prop where
  live : ∃ taken, Live script expected next taken given
  less : next.remaining < reader.remaining

theorem Live.called {finish : Bool} {called : Decoded inflater.State UInt8}
    (lawful : inflater.Lawful decoded) (live : Live script expected reader taken given)
    (decodes : inflater.decode reader.decoder reader.rest room finish = some called)
    (goesOn : called.ended = false) :
    Live script expected
      { reader with
        decoder := called.state
        totalIn := reader.totalIn + called.consumed
        position := reader.position + called.consumed }
      (taken ++ reader.rest.take called.consumed) (given ++ called.produced) := by
  have consumes := lawful.consumes decodes
  have length : reader.rest.length = reader.buffer.length - reader.position := List.length_drop
  obtain ⟨early, parts, all⟩ := live.read
  refine ⟨.call live.fed decodes goesOn, ⟨early, parts, ?_⟩, ?_, ?_, live.wanted, live.opened⟩
  · rw [← all, List.append_assoc]
    refine congrArg (taken ++ ·) ?_
    unfold Reader.rest
    rw [← List.drop_drop]
    exact List.take_append_drop _ _
  · rw [List.length_append, List.length_take, Nat.min_eq_left consumes]
    exact congrArg (· + called.consumed) live.counted
  · have within := live.within
    change reader.position + called.consumed ≤ reader.buffer.length
    omega

theorem settle_answers {before next : Reader inflater} {called : Decoded inflater.State UInt8}
    {answer : Option Answer} (lawful : inflater.Lawful decoded) (some' : 0 < room)
    (refilled : Refilled script expected before reader taken given)
    (decodes : inflater.decode reader.decoder reader.rest room reader.buffer.isEmpty = some called)
    (settled : settle reader called = (next, answer)) :
    (answer = none ∧ GoesOn script expected before next given) ∨
      ∃ result, answer = some result ∧ Answers script expected given next result := by
  have live := refilled.live
  have consumes := lawful.consumes decodes
  unfold settle at settled
  dsimp only at settled
  split at settled
  · rename_i ended
    have ends : inflater.Ends (taken ++ reader.rest.take called.consumed)
        (given ++ called.produced) :=
      ⟨_, taken, given, reader.rest, room, _, called, live.fed, decodes, ended, rfl, rfl⟩
    have here : taken ++ reader.rest.take called.consumed <+: bytesOf script :=
      ((List.prefix_append_right_inj taken).mpr (List.take_prefix _ _)).trans live.beginning
    have count : (taken ++ reader.rest.take called.consumed).length =
        reader.totalIn + called.consumed := by
      rw [List.length_append, List.length_take, Nat.min_eq_left consumes, live.counted]
    split at settled
    · rename_i other
      cases settled
      refine .inr ⟨_, rfl, .fails (.trailing ends here ?_)⟩
      rw [count, ← live.wanted]
      exact other
    · rename_i exact'
      cases settled
      refine .inr ⟨_, rfl, .closes ⟨rfl, _, ends, here, ?_⟩⟩
      rw [count, ← live.wanted]
      exact Decidable.not_not.mp exact'
  · rename_i goesOn
    have after := live.called lawful decodes (eq_false_of_ne_true goesOn)
    split at settled
    · rename_i produced
      cases settled
      exact .inr ⟨_, rfl, .gives produced after⟩
    · rename_i nothing
      have produced := Decidable.not_not.mp nothing
      split at settled
      · rename_i stuck
        cases settled
        refine .inr ⟨_, rfl, .fails ?_⟩
        rw [Bool.or_eq_true, Bool.and_eq_true, List.isEmpty_iff, decide_eq_true_eq,
          decide_eq_true_eq] at stuck
        have eof : reader.rest = [] := by
          rcases stuck with empty | ⟨idle, more⟩
          · unfold Reader.rest
            rw [empty, List.drop_nil]
          · -- A decoder with input and room does something.
            refine Decidable.byContradiction fun some => ?_
            rcases lawful.progress decodes some some' (eq_false_of_ne_true goesOn) with
              consumed | given
            · exact consumed idle
            · exact given produced
        obtain ⟨_, early, later, parts, all, gave⟩ := refilled.empty eof
        exact .truncated live.fed parts all gave
      · rename_i moves
        cases settled
        rw [Bool.or_eq_true, not_or, Bool.and_eq_true, not_and, List.isEmpty_iff,
          decide_eq_true_eq, decide_eq_true_eq] at moves
        rw [produced, List.append_nil] at after
        refine .inl ⟨rfl, ⟨_, after⟩, ?_⟩
        have some : reader.rest ≠ [] := fun empty => moves.1 (refilled.empty empty).1
        have length : reader.rest.length = reader.buffer.length - reader.position :=
          List.length_drop
        have more := List.length_pos_iff.mpr some
        have consumed : called.consumed ≠ 0 := by
          intro idle
          have past := moves.2 idle
          omega
        rw [← refilled.same]
        unfold Reader.remaining
        change (reader.buffer.drop (reader.position + called.consumed)).length +
          (bytesOf reader.input).length < reader.rest.length + (bytesOf reader.input).length
        rw [List.length_drop]
        omega

theorem turn_answers {next : Reader inflater} {answer : Option Answer}
    (lawful : inflater.Lawful decoded) (some' : 0 < room)
    (live : Live script expected reader taken given) (turned : turn room reader = (next, answer)) :
    (answer = none ∧ GoesOn script expected reader next given) ∨
      ∃ result, answer = some result ∧ Answers script expected given next result := by
  unfold turn at turned
  split at turned
  · rename_i refilled
    cases turned
    exact .inr ⟨_, rfl, .fails (.input (refill_error live refilled))⟩
  · rename_i filled refilled
    have ready := refill_live live refilled
    split at turned
    · rename_i refused
      cases turned
      exact .inr ⟨_, rfl, .fails (.invalid ready.live.fed ready.live.beginning refused)⟩
    · rename_i called decodes
      exact settle_answers lawful some' ready decodes turned

theorem loop_answers {turns : Nat} (lawful : inflater.Lawful decoded) (some' : 0 < room)
    (live : Live script expected reader taken given) (enough : reader.remaining < turns) :
    ∃ next answer, loop room turns reader = some (next, answer) ∧
      Answers script expected given next answer := by
  induction turns generalizing reader taken with
  | zero => exact absurd enough (Nat.not_lt_zero _)
  | succ turns ih =>
      cases turned : turn room reader with
      | mk next answer =>
          rw [loop, turned]
          rcases turn_answers lawful some' live turned with ⟨rfl, goesOn⟩ | ⟨result, rfl, answers⟩
          · obtain ⟨later, stays⟩ := goesOn.live
            have less := goesOn.less
            exact ih stays (by omega)
          · exact ⟨next, result, rfl, answers⟩

def Between (script : List InputRead) (expected : Nat) (reader : Reader inflater)
    (given : List UInt8) : Prop :=
  (∃ taken, Live script expected reader taken given) ∨ Closed script expected reader given

theorem read_answers (lawful : inflater.Lawful decoded) (some' : 0 < room)
    (between : Between script expected reader given) :
    ∃ next answer, read room reader = some (next, answer) ∧
      Answers script expected given next answer := by
  unfold read
  rcases between with ⟨taken, live⟩ | closed
  · rw [if_neg (by simp [live.opened, Nat.ne_of_gt some'])]
    exact loop_answers lawful some' live (Nat.lt_succ_self _)
  · rw [if_pos (by simp [closed.ended])]
    refine ⟨reader, .ok [], rfl, .closes ?_⟩
    rw [List.append_nil]
    exact closed

theorem start_live (script : List InputRead) (expected : Nat) :
    Live script expected (new script expected : Reader inflater) [] [] where
  fed := .fresh
  read := ⟨[], rfl, rfl⟩
  counted := rfl
  within := Nat.le_refl _
  wanted := rfl
  opened := rfl

theorem Between.yields (lawful : inflater.Lawful decoded)
    (between : Between script expected reader given) :
    given <+: decoded (bytesOf script) := by
  rcases between with ⟨taken, live⟩ | closed
  · exact (lawful.fed live.fed).trans
      (lawful.monotone ((List.prefix_append _ _).trans live.beginning))
  · obtain ⟨taken, ends, here, _⟩ := closed.ends
    exact lawful.ends ends ▸ lawful.monotone here

structure Sound (script : List InputRead) (expected : Nat) (decoded : List UInt8 → List UInt8)
    (session : Session inflater) : Prop where
  yields : session.yielded <+: decoded (bytesOf script)
  reading : session.verdict = .reading →
    Between script expected session.reader session.yielded
  clean : session.verdict = .clean → Closed script expected session.reader session.yielded
  failed : ∀ error, session.verdict = .failed error → Justified inflater script expected error
  comes : session.verdict ≠ .spins

theorem Sound.of_between (lawful : inflater.Lawful decoded) (reading : session.verdict = .reading)
    (between : Between script expected session.reader session.yielded) :
    Sound script expected decoded session where
  yields := between.yields lawful
  reading := fun _ => between
  clean := by
    intro clean
    rw [reading] at clean
    cases clean
  failed := by
    intro error failed
    rw [reading] at failed
    cases failed
  comes := by
    rw [reading]
    exact nofun

theorem Sound.next (sound : Sound script expected decoded session)
    (lawful : inflater.Lawful decoded)
    (some' : 0 < room) : Sound script expected decoded (session.next room) := by
  unfold Session.next
  split
  · rename_i reading
    obtain ⟨next, answer, result, answers⟩ :=
      read_answers lawful some' (sound.reading reading)
    rw [result]
    cases answers with
    | @gives taken bytes some live =>
        cases bytes with
        | nil => exact absurd rfl some
        | cons first rest =>
            exact Sound.of_between lawful reading (.inl ⟨taken, live⟩)
    | @closes bytes closed =>
        cases bytes with
        | nil =>
            rw [List.append_nil] at closed
            exact ⟨sound.yields, nofun, fun _ => closed, nofun, nofun⟩
        | cons first rest =>
            exact Sound.of_between lawful reading (.inr closed)
    | fails justified =>
        refine ⟨sound.yields, nofun, nofun, ?_, nofun⟩
        intro error failed
        cases failed
        exact justified
  · exact sound

theorem Sound.run {rooms : List Nat} (sound : Sound script expected decoded session)
    (lawful : inflater.Lawful decoded)
    (some' : ∀ room ∈ rooms, 0 < room) : Sound script expected decoded (session.run rooms) := by
  induction rooms generalizing session with
  | nil => exact sound
  | cons room rest ih =>
      obtain ⟨here, later⟩ := List.forall_mem_cons.mp some'
      exact ih (sound.next lawful here) later

theorem start_sound (script : List InputRead) (expected : Nat) :
    Sound script expected decoded (start script expected : Session inflater) where
  yields := List.nil_prefix
  reading := fun _ => .inl ⟨[], start_live script expected⟩
  clean := nofun
  failed := nofun
  comes := nofun

theorem Session.next_yields (reading : (session.next room).verdict = .reading) :
    session.verdict = .reading ∧
      session.yielded.length < (session.next room).yielded.length := by
  unfold Session.next at reading ⊢
  split at reading
  · rename_i opened
    rw [opened]
    cases result : StrictDeflate.read room session.reader with
    | none =>
        rw [result] at reading
        cases reading
    | some answered =>
        obtain ⟨next, answer⟩ := answered
        rw [result] at reading
        cases answer with
        | error error => cases reading
        | ok bytes =>
            cases bytes with
            | nil => cases reading
            | cons first rest =>
                refine ⟨rfl, ?_⟩
                change _ < (session.yielded ++ first :: rest).length
                rw [List.length_append, List.length_cons]
                omega
  · rename_i stopped
    exact absurd reading stopped

theorem Session.run_yields {rooms : List Nat} (reading : (session.run rooms).verdict = .reading) :
    session.verdict = .reading ∧
      session.yielded.length + rooms.length ≤ (session.run rooms).yielded.length := by
  induction rooms generalizing session with
  | nil => exact ⟨reading, Nat.le_refl _⟩
  | cons room rest ih =>
      obtain ⟨later, enough⟩ := @ih (session.next room) reading
      obtain ⟨opened, more⟩ := Session.next_yields later
      refine ⟨opened, ?_⟩
      change _ ≤ ((session.next room).run rest).yielded.length
      rw [List.length_cons]
      omega

end StrictDeflate

open StrictDeflate

/-- Reading an entry to its end, whatever the reads that its bytes come in and the buffers
that they go out into: each read comes to an answer; a clean end means that the decoder
reported one after exactly the bytes that were expected; all else ends in an error with a
reason; and the bytes given are those of the entry. -/
theorem strict_deflate_sessions (inflater : Inflater) (decoded : List UInt8 → List UInt8)
    (script : List InputRead) (expected : Nat) (rooms : List Nat)
    (lawful : inflater.Lawful decoded) (some' : ∀ room ∈ rooms, 0 < room) :
    let session := (start script expected : Session inflater).run rooms
    (session.verdict = .reading → ∀ room, 0 < room →
        ∃ next answer, read room session.reader = some (next, answer)) ∧
      session.verdict ≠ .spins ∧
      (session.verdict = .clean →
        inflater.Ends ((bytesOf script).take expected) session.yielded ∧
          expected ≤ (bytesOf script).length ∧
            session.yielded = decoded ((bytesOf script).take expected)) ∧
      (∀ error, session.verdict = .failed error → Justified inflater script expected error) ∧
      ((decoded (bytesOf script)).length < rooms.length →
        session.verdict = .clean ∨ ∃ error, session.verdict = .failed error) ∧
      session.yielded <+: decoded (bytesOf script) := by
  intro session
  have sound : Sound script expected decoded session :=
    (start_sound script expected).run lawful some'
  refine ⟨?_, sound.comes, ?_, sound.failed, ?_, sound.yields⟩
  · intro reading room room'
    obtain ⟨next, answer, result, _⟩ := read_answers lawful room' (sound.reading reading)
    exact ⟨next, answer, result⟩
  · intro clean
    obtain ⟨taken, ends, here, length⟩ := (sound.clean clean).ends
    have part : taken = (bytesOf script).take expected := by
      rw [← length]
      exact List.prefix_iff_eq_take.mp here
    exact ⟨part ▸ ends, length ▸ here.length_le, part ▸ lawful.ends ends⟩
  · intro many
    cases verdict : session.verdict with
    | reading =>
        obtain ⟨_, enough⟩ := Session.run_yields verdict
        have within := sound.yields.length_le
        change 0 + rooms.length ≤ session.yielded.length at enough
        omega
    | clean => exact .inl rfl
    | failed error => exact .inr ⟨error, rfl⟩
    | spins => exact absurd verdict sound.comes

inductive StoredPhase where
  | header
  | lengthLow
  | lengthHigh (low : UInt8)
  | checkLow (length : Nat)
  | checkHigh (length : Nat)
  | data (left : Nat)

/-- The decoder of such a block: a header, the length and its complement, and the data. -/
def storedBlock : Transducer UInt8 UInt8 where
  Phase := StoredPhase
  start := .header
  step := fun phase byte =>
    match phase with
    | .header => if byte &&& 7 = 1 then some (.lengthLow, none) else none
    | .lengthLow => some (.lengthHigh byte, none)
    | .lengthHigh low => some (.checkLow (low.toNat + 256 * byte.toNat), none)
    | .checkLow length =>
        if byte.toNat + length % 256 = 255 then some (.checkHigh length, none) else none
    | .checkHigh length =>
        if byte.toNat + length / 256 = 255 then some (.data length, none) else none
    | .data left => some (.data (left - 1), some byte)
  final := fun phase =>
    match phase with
    | .data 0 => true
    | _ => false

/-- Two bytes in a stored block, as three reads give them. -/
def storedReads : List InputRead :=
  [.bytes [1, 2], .bytes [0, 0xFD, 0xFF, 65], .bytes [66]]

theorem storedReads_clean :
    let session := (start storedReads 7 : Session storedBlock.decoder).run [1, 4, 4]
    session.verdict = .clean ∧ session.yielded = [65, 66] := by
  intro session
  have verdict : session.verdict = .clean := by decide +kernel
  have all := strict_deflate_sessions storedBlock.decoder (storedBlock.output .header)
    storedReads 7 [1, 4, 4] Transducer.decoder_lawful (by decide)
  obtain ⟨_, _, yielded⟩ := all.2.2.1 verdict
  exact ⟨verdict, yielded.trans (by decide +kernel)⟩

end TinyBus
