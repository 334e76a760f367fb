import TinyBus.Library.Table

/-
Digests of files that are remembered for the life of the process.  A file counts as the same
one while its device, inode, length and times are what they were; the files themselves may
be changed at any moment by anybody, and several requests run at once.
-/

namespace TinyBus

namespace RememberedHash

abbrev FileId := Nat

abbrev TaskId := Nat

def NANOS_PER_SEC : Int := 1000000000

structure Stamp where
  sec : Int
  nsec : Int
  deriving DecidableEq

def Stamp.ofNanos (nanos : Int) : Stamp := ⟨nanos / NANOS_PER_SEC, nanos % NANOS_PER_SEC⟩

/-- How the status-change times of a device are rounded: down, by less than a second. -/
structure Ticks where
  down : Nat → Int → Int
  le : ∀ device now, down device now ≤ now
  within : ∀ device now, now < down device now + NANOS_PER_SEC

/-- A file that exists, with a name or held open. -/
structure File where
  dev : Nat
  ino : Nat
  content : List UInt8
  mtime : Stamp
  ctime : Stamp
  deriving DecidableEq

structure Identity where
  dev : Nat
  ino : Nat
  len : Nat
  mtime : Stamp
  ctime : Stamp
  deriving DecidableEq

def identity (file : File) : Identity :=
  { dev := file.dev
    ino := file.ino
    len := file.content.length
    mtime := file.mtime
    ctime := file.ctime }

def REMEMBER_AFTER : Int := 2 * NANOS_PER_SEC

/-- The time since the epoch is no duration where the clock is set before it. -/
def quietFor (identity : Identity) (age now : Int) : Bool :=
  let newest := max identity.mtime.sec identity.ctime.sec
  0 ≤ now && 0 ≤ newest && newest * NANOS_PER_SEC + age ≤ now

/-- Bytes requested per `read`. -/
def CHUNK : Nat := 256 * 1024

/-- What one read of a request gave, and for the record the file as it then was. -/
structure Reading where
  file : File
  bytes : List UInt8
  deriving DecidableEq

def bytesOf (reads : List Reading) : List UInt8 := (reads.map Reading.bytes).flatten

/-- How far a request has come. -/
inductive Phase where
  | opened
  | measured (before : Identity)
  | judged (before : Identity) (eligible : Bool)
  | hashing (before : Identity) (eligible : Bool) (reads : List Reading)
  | hashed (before : Identity) (eligible : Bool) (reads : List Reading)
  | unchanged (before : Identity) (reads : List Reading)
  | answered (digest : String) (remembered : Bool)
  | failed
  deriving DecidableEq

/-- The file is closed with the answer. -/
def Phase.holds : Phase → Bool
  | .answered _ _ => false
  | .failed => false
  | _ => true

def Phase.before : Phase → Option Identity
  | .measured before => some before
  | .judged before _ => some before
  | .hashing before _ _ => some before
  | .hashed before _ _ => some before
  | .unchanged before _ => some before
  | _ => none

structure Task where
  file : FileId
  phase : Phase
  deriving DecidableEq

/-- The files, the clock that stamps them, and the memory of the process. -/
structure World where
  now : Int
  files : Table FileId File
  memory : Table Identity String
  poisoned : Bool
  tasks : Table TaskId Task

def World.initial (now : Int) : World := ⟨now, ∅, ∅, false, ∅⟩

def World.known (world : World) (before : Identity) : Option String :=
  if world.poisoned then none else world.memory.lookup before

inductive Happening where
  | passes (now : Int)
  | create (file : FileId) (dev ino : Nat) (content : List UInt8) (mtime : Stamp)
  | write (file : FileId) (offset : Nat) (bytes : List UInt8) (mtime : Stamp)
  | truncate (file : FileId) (length : Nat) (mtime : Stamp)
  | setTimes (file : FileId) (mtime : Stamp)
  -- The last name of a file that nobody holds goes, as when another one is put in its place.
  | remove (file : FileId)
  | poison

def resized (content : List UInt8) (length : Nat) : List UInt8 :=
  content.take length ++ List.replicate (length - content.length) 0

def overwritten (content : List UInt8) (offset : Nat) (bytes : List UInt8) : List UInt8 :=
  resized content offset ++ bytes ++ content.drop (offset + bytes.length)

def World.change (ticks : Ticks) (world : World) (id : FileId)
    (content : List UInt8 → List UInt8) (mtime : Stamp) : Option World :=
  (world.files.lookup id).map (fun file =>
    { world with
      files := world.files.insert id
        { file with
          content := content file.content
          mtime := mtime
          ctime := .ofNanos (ticks.down file.dev world.now) } })

def World.free (world : World) (dev ino : Nat) : Bool :=
  world.files.pairs.all (fun entry => entry.2.dev ≠ dev || entry.2.ino ≠ ino)

def World.held (world : World) (id : FileId) : Bool :=
  world.tasks.pairs.any (fun entry => entry.2.file = id && entry.2.phase.holds)

def disturb (ticks : Ticks) (world : World) : Happening → Option World
  | .passes now => if world.now ≤ now then some { world with now := now } else none
  | .create id dev ino content mtime =>
      if (world.files.lookup id).isNone && world.free dev ino then
        some { world with
          files := world.files.insert id
            ⟨dev, ino, content, mtime, .ofNanos (ticks.down dev world.now)⟩ }
      else none
  | .write id offset bytes mtime =>
      world.change ticks id (fun content => overwritten content offset bytes) mtime
  | .truncate id length mtime =>
      world.change ticks id (fun content => resized content length) mtime
  | .setTimes id mtime => world.change ticks id (fun content => content) mtime
  | .remove id =>
      if world.held id then none else some { world with files := world.files.erase id }
  | .poison => some { world with poisoned := true }

inductive Turn where
  | measure
  | judge
  | lookUp
  | read (count : Nat)
  | compare (readable : Bool)
  | remember
  -- The metadata, or a read, gives an error.
  | fail

variable (sha256Hex : List UInt8 → String)

def readChunk (before : Identity) (eligible : Bool) (reads : List Reading) (file : File)
    (count : Nat) : Option Phase :=
  let rest := file.content.drop (bytesOf reads).length
  if rest = [] then some (.hashed before eligible (reads ++ [⟨file, []⟩]))
  else if 0 < count ∧ count ≤ CHUNK ∧ count ≤ rest.length then
    some (.hashing before eligible (reads ++ [⟨file, rest.take count⟩]))
  else none

/-- The phase after a turn, and what the turn puts into the memory. -/
def takeTurn (world : World) (task : Task) (turn : Turn) :
    Option (Phase × Option (Identity × String)) :=
  match task.phase, turn with
  | .opened, .measure =>
      (world.files.lookup task.file).map (fun file => (.measured (identity file), none))
  | .measured before, .judge =>
      some (.judged before (quietFor before REMEMBER_AFTER world.now), none)
  | .judged before eligible, .lookUp =>
      match if eligible then world.known before else none with
      | some digest => some (.answered digest true, none)
      | none => some (.hashing before eligible [], none)
  | .hashing before eligible reads, .read count =>
      (world.files.lookup task.file).bind (fun file =>
        (readChunk before eligible reads file count).map (fun phase => (phase, none)))
  | .hashed before eligible reads, .compare readable =>
      if eligible && readable &&
          (world.files.lookup task.file).any (fun file => identity file = before) then
        some (.unchanged before reads, none)
      else some (.answered (sha256Hex (bytesOf reads)) false, none)
  | .unchanged before reads, .remember =>
      let digest := sha256Hex (bytesOf reads)
      some (.answered digest false, if world.poisoned then none else some (before, digest))
  | .opened, .fail => some (.failed, none)
  | .hashing _ _ _, .fail => some (.failed, none)
  | _, _ => none

inductive Event where
  | happens (happening : Happening)
  | request (task : TaskId) (file : FileId)
  | turn (task : TaskId) (turn : Turn)

def World.remember (world : World) : Option (Identity × String) → Table Identity String
  | none => world.memory
  | some (before, digest) => world.memory.insert before digest

/-- A request comes with a file just opened. -/
def step (ticks : Ticks) (world : World) : Event → Option World
  | .happens happening => disturb ticks world happening
  | .request id file =>
      if (world.tasks.lookup id).isNone && (world.files.lookup file).isSome then
        some { world with tasks := world.tasks.insert id ⟨file, .opened⟩ }
      else none
  | .turn id turn =>
      (world.tasks.lookup id).bind (fun task =>
        (takeTurn sha256Hex world task turn).map (fun (phase, entry) =>
          { world with
            memory := world.remember entry
            tasks := world.tasks.insert id { task with phase := phase } }))

/-- The worlds of a history, the last one first. -/
inductive History (ticks : Ticks) : List World → Prop
  | start (now : Int) : History ticks [World.initial now]
  | next {world after : World} {past : List World} {event : Event} :
      History ticks (world :: past) → step sha256Hex ticks world event = some after →
        History ticks (after :: world :: past)

end RememberedHash

end TinyBus
