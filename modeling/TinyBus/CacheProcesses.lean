import TinyBus.ReleaseAcquisition
import TinyBus.Library.Tasks

/-
Processes that acquire releases through one cache directory at once.  Each step is
one operation on files: an entry that is removed, the rename, or one read of a
lookup.  A process may crash at any of them.  A staging directory is private until
it is renamed, so it is taken as a whole.
-/

namespace TinyBus

/-- The pinned release: the platform, the hash function, the archive and its digest, and
what a staging directory holds once the release is verified and extracted. -/
structure ShippedRelease where
  host : Platform
  sha256 : Sha256
  assetName : String
  pin : String
  dir : CacheDir

/-- A library that a lookup answered with, and the directory at that moment. -/
structure CacheHit where
  place : Place
  dir : CacheDir

structure SharedCache where
  dir : CacheDir
  hits : List CacheHit

inductive LookupPhase where
  | archive
  | marker
  | hashing (expected : String)
  | entering
  | walking (pending found : List Place)
  | listing (place : Place) (pending found : List Place)
  | leading (module : Place)
  | looking (module : Place)
  | reading (module : Place)
  | checking (module : Place) (expected : String)

inductive LookupResult where
  | goOn (phase : LookupPhase)
  | miss
  | hit (module : Place)

inductive LookupRound where
  | first
  | again
  | afterFailure

inductive CachePhase where
  | lookup (round : LookupRound) (phase : LookupPhase)
  | verifying (module : Place)
  | fetching
  | removing
  | renaming
  | returned (acquired : Bool)
  | crashed

structure CacheProcess where
  release : CachedRelease
  phase : CachePhase

/-- `acquire_cached`, or `commit` with the release in its staging directory. -/
inductive CacheCall where
  | acquire (release : CachedRelease)
  | commit (release : CachedRelease)

/-- What a process does next: the next read, a removal of one entry, the end of the
removal on an error, and what the network and the rename come to. -/
inductive CacheChoice where
  | read
  | fetched (verified : Bool)
  | remove (place : Place)
  | removalFails
  | rename (works : Bool)
  | crash

/-- One read of `find_verified`. -/
def LookupPhase.step (shipped : ShippedRelease) (release : CachedRelease) (dir : CacheDir) :
    LookupPhase → LookupResult
  | .archive =>
      if !dir.isFile [release.assetName] then .miss
      else
        match release.expectedSha256 with
        | none => .goOn .marker
        | some pin =>
            if isHexSha256 (toAsciiLowercase pin) then .goOn (.hashing (toAsciiLowercase pin))
            else .miss
  | .marker =>
      match readDigestMarker dir release.assetName with
      | none => .miss
      | some expected => .goOn (.hashing expected)
  | .hashing expected =>
      match dir.read [release.assetName] with
      | none => .miss
      | some bytes =>
          if fileHex shipped.sha256 bytes = expected then .goOn .entering else .miss
  | .entering =>
      match dir.readDir [] with
      | none => .miss
      | some entries => .goOn (.walking entries [])
  | .walking pending found =>
      match pending with
      | [] =>
          match found with
          | [module] => .goOn (.leading module)
          | _ => .miss
      | place :: rest =>
          if dir.isDir place then .goOn (.listing place rest found)
          else if isPlatformModule shipped.host place then
            .goOn (.walking rest (found ++ [place]))
          else .goOn (.walking rest found)
  | .listing place pending found =>
      match dir.readDir place with
      | none => .miss
      | some entries => .goOn (.walking (entries ++ pending) found)
  | .leading module =>
      match dir.canonicalize module with
      | none => .miss
      | some canonical => .goOn (.looking canonical)
  | .looking module =>
      match dir.lookup (allowlistBeside module) with
      | none => .hit module
      | some _ => .goOn (.reading module)
  | .reading module =>
      match (dir.readToString (allowlistBeside module)).bind (allowlisted · module) with
      | none => .miss
      | some expected => if isHexSha256 expected then .goOn (.checking module expected) else .miss
  | .checking module expected =>
      match dir.read module with
      | none => .miss
      | some content => if fileHex shipped.sha256 content = expected then .hit module else .miss

namespace CacheProcess

def start : CacheCall → CacheProcess
  | .acquire release => { release := release, phase := .lookup .first .archive }
  | .commit release => { release := release, phase := .removing }

def goTo (process : CacheProcess) (phase : CachePhase) : CacheProcess :=
  { process with phase := phase }

def missed (release : CachedRelease) : LookupRound → CachePhase
  | .first => if release.allowDownload then .fetching else .returned false
  | .again => .removing
  | .afterFailure => .returned false

/-- `verify_library_digest` on the answer of a lookup. -/
def libraryAccepted (shipped : ShippedRelease) (release : CachedRelease) (dir : CacheDir)
    (module : Place) : Bool :=
  (dir.read module).any (fun content =>
    release.expectedLibrarySha256.all (fun pin =>
      isHexSha256 pin && eqIgnoreAsciiCase (fileHex shipped.sha256 content) pin))

def removable (dir : CacheDir) (place : Place) : Bool :=
  (dir.lookup place).isSome &&
    dir.keys.all (fun entry => entry == [] || entry == place || entry.dropLast != place)

def vacant (dir : CacheDir) : Bool := dir.keys.all (fun entry => entry == [])

def step (shipped : ShippedRelease) (_ : Nat) (choice : CacheChoice) (cache : SharedCache)
    (process : CacheProcess) : Option (SharedCache × CacheProcess) :=
  match process.phase, choice with
  | .lookup round phase, .read =>
      match phase.step shipped process.release cache.dir with
      | .goOn later => some (cache, process.goTo (.lookup round later))
      | .miss => some (cache, process.goTo (missed process.release round))
      | .hit module =>
          some ({ cache with hits := cache.hits ++ [⟨module, cache.dir⟩] },
            process.goTo (.verifying module))
  | .verifying module, .read =>
      some (cache, process.goTo
        (.returned (libraryAccepted shipped process.release cache.dir module)))
  | .fetching, .fetched verified =>
      some (cache, process.goTo
        (if verified then .lookup .again .archive else .returned false))
  | .removing, .remove place =>
      if removable cache.dir place then
        -- with the directory itself the removal is over
        some ({ cache with dir := cache.dir.erase place },
          if place = [] then process.goTo .renaming else process)
      else none
  | .removing, .removalFails =>
      some (cache, process.goTo
        (if (cache.dir.lookup []).isNone then .renaming else .lookup .afterFailure .archive))
  | .renaming, .rename works =>
      if works && vacant cache.dir then
        some ({ cache with dir := shipped.dir }, process.goTo (.returned true))
      else some (cache, process.goTo (.lookup .afterFailure .archive))
  | _, .crash => some (cache, process.goTo .crashed)
  | _, _ => none

end CacheProcess

namespace SharedCache

abbrev State := Tasks SharedCache CacheProcess

abbrev Event := Tasks.Event CacheCall CacheChoice Empty

def kind (shipped : ShippedRelease) :
    Tasks.Kind SharedCache CacheProcess CacheCall CacheChoice Empty where
  start := CacheProcess.start
  step := CacheProcess.step shipped
  outside := fun event _ => nomatch event

/-- Runs from directories of a kind, before any lookup. -/
def system (shipped : ShippedRelease) (initial : CacheDir → Prop) :
    TransitionSystem.System State Event :=
  Tasks.system (kind shipped) (fun cache => initial cache.dir ∧ cache.hits = [])

end SharedCache

end TinyBus
