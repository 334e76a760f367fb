import TinyBus.CacheProcesses
import TinyBus.ReleasePins

/-
What a lookup answers with while other processes fill the directory.  An allowlist that
is missing counts as agreement, so a removal that takes it from beside a library lets a
lookup accept what is left of the directory.
-/

namespace TinyBus

open TransitionSystem

/-! ### What the release ships -/

def ShippedRelease.listed (shipped : ShippedRelease) (module : Place) : Option String :=
  (shipped.dir.readToString (allowlistBeside module)).bind (allowlisted · module)

/-- A library that the release ships: it matches the entry of the shipped allowlist,
and where there is none it has the bytes that are shipped. -/
structure ShippedRelease.Ships (shipped : ShippedRelease) (module : Place)
    (content : Content) : Prop where
  entry : ∀ expected, shipped.listed module = some expected →
    fileHex shipped.sha256 content = expected
  bytes : shipped.listed module = none → shipped.dir.read module = some content

theorem ShippedRelease.ships_of_listed {shipped : ShippedRelease} {module : Place}
    {expected : String} (listed : shipped.listed module = some expected) {content : Content}
    (same : fileHex shipped.sha256 content = expected) : shipped.Ships module content := by
  refine ⟨?_, ?_⟩
  · intro other also
    rw [listed] at also
    rw [same, Option.some.inj also]
  · intro unlisted
    rw [listed] at unlisted
    cases unlisted

/-- Every entry of the release is there as it is shipped. -/
def ShippedRelease.Whole (shipped : ShippedRelease) (dir : CacheDir) : Prop :=
  ∀ place, shipped.dir.lookup place ≠ none → dir.lookup place = shipped.dir.lookup place

/-- The archive there has the pinned digest. -/
def ShippedRelease.Proves (shipped : ShippedRelease) (dir : CacheDir) : Prop :=
  ∃ archive, dir.read [shipped.assetName] = some archive ∧
    fileHex shipped.sha256 archive = shipped.pin

/-- The directory is the whole release, and the library one that it ships. -/
def CacheHit.Shipped (shipped : ShippedRelease) (hit : CacheHit) : Prop :=
  shipped.Whole hit.dir ∧
    ∃ content, hit.dir.read hit.place = some content ∧ shipped.Ships hit.place content

namespace CacheDir

/-- The entry is there, and so are the directories above it. -/
def Inside (dir : CacheDir) (place : Place) : Prop :=
  dir.lookup place ≠ none ∧ ∀ above, above <+: place → above ≠ place → dir.isDir above = true

structure Library (dir : CacheDir) (host : Platform) (module : Place) : Prop where
  inside : dir.Inside module
  file : dir.isDir module = false
  named : isPlatformModule host module = true

/-- But for an entry that is disregarded, the only library, and all directories can be
listed. -/
structure Sole (dir : CacheDir) (host : Platform) (gone : Option Place) (module : Place) :
    Prop where
  library : dir.Library host module
  kept : gone ≠ some module
  single : ∀ other, dir.Library host other → gone ≠ some other → other = module
  listable : ∀ place, dir.Inside place → gone ≠ some place → dir.lookup place ≠ some (.dir false)

/-- There is an allowlist beside the library that does not give its digest. -/
def Contradicts (dir : CacheDir) (sha256 : Sha256) (module : Place) : Prop :=
  dir.lookup (allowlistBeside module) ≠ none ∧
    ∀ expected content,
      (dir.readToString (allowlistBeside module)).bind (allowlisted · module) = some expected →
        isHexSha256 expected = true → dir.read module = some content →
          fileHex sha256 content ≠ expected

end CacheDir

/-- The release ships a library that matches its own allowlist. -/
def ShippedRelease.Consistent (shipped : ShippedRelease) : Prop :=
  ∃ module content, shipped.dir.Library shipped.host module ∧
    shipped.dir.read module = some content ∧ shipped.Ships module content

/-- Where the archive has the pinned digest, and but for an entry that is disregarded: a file
that is the only library is contradicted by the allowlist beside it, or the release is whole. -/
def ShippedRelease.Guarded (shipped : ShippedRelease) (gone : Option Place)
    (dir : CacheDir) : Prop :=
  shipped.Proves dir → gone ≠ some [shipped.assetName] →
    ∀ module content, dir.Sole shipped.host gone module →
      dir.lookup module = some (.file content) →
        (dir.Contradicts shipped.sha256 module ∧ gone ≠ some (allowlistBeside module)) ∨
          (shipped.Whole dir ∧ ∀ place, gone = some place → shipped.dir.lookup place = none)

/-- The lookup has hashed the archive and found the digest that it expects. -/
def CachePhase.proved : CachePhase → Bool
  | .lookup _ phase =>
      match phase with
      | .archive | .marker | .hashing _ => false
      | _ => true
  | _ => false

def CacheCall.release : CacheCall → CachedRelease
  | .acquire release => release
  | .commit release => release

def CachedRelease.Pinned (release : CachedRelease) (shipped : ShippedRelease) : Prop :=
  release.assetName = shipped.assetName ∧
    release.expectedSha256.map toAsciiLowercase = some shipped.pin

/-- The processes ask for the pinned release; and no removal is made under a lookup that has
proved the archive, or takes what still guards the rest of the directory. -/
def ShippedRelease.Orderly (shipped : ShippedRelease) (state : SharedCache.State) :
    SharedCache.Event → Prop
  | .start _ call => call.release.Pinned shipped
  | .advance _ (.remove place) => shipped.Guarded (some place) state.shared.dir ∧
      ∀ id process, state.tasks.lookup id = some process → process.phase.proved = false
  | _ => True

/-! ### Entries and those below them -/

section

variable {shipped : ShippedRelease} {dir : CacheDir} {host : Platform} {place above : Place}

theorem exists_child (front : above <+: place) (different : above ≠ place) :
    ∃ child, child <+: place ∧ child ≠ [] ∧ child.dropLast = above := by
  obtain ⟨rest, rfl⟩ := front
  cases rest with
  | nil => simp at different
  | cons name rest =>
      refine ⟨above ++ [name], ⟨rest, by simp⟩, by simp, by simp⟩

theorem CacheDir.Inside.of_prefix (inside : dir.Inside place) (front : above <+: place) :
    dir.Inside above := by
  by_cases same : above = place
  · rwa [same]
  · refine ⟨fun absent => ?_, fun higher front' different => ?_⟩
    · have leads := inside.2 above front same
      unfold CacheDir.isDir at leads
      rw [absent] at leads
      cases leads
    · refine inside.2 higher (front'.trans front) ?_
      rintro rfl
      exact different (front'.eq_of_length_le front.length_le)

theorem CacheDir.readDir_eq {entries : List Place} (listed : dir.readDir place = some entries) :
    dir.lookup place = some (.dir true) ∧ ∀ entry, entry ∈ entries ↔
      dir.lookup entry ≠ none ∧ entry ≠ [] ∧ entry.dropLast = place := by
  unfold CacheDir.readDir at listed
  split at listed
  · rename_i found
    cases listed
    refine ⟨found, fun entry => ?_⟩
    rw [List.mem_filter, ← AList.mem_keys, ← AList.lookup_isSome, ← Option.ne_none_iff_isSome]
    simp
  · cases listed

theorem CacheDir.isDir_of_lookup {listable : Bool}
    (found : dir.lookup place = some (.dir listable)) : dir.isDir place = true := by
  unfold CacheDir.isDir
  rw [found]

theorem CacheDir.lookup_erase_cases (dir : CacheDir) (removed place : Place) :
    (dir.erase removed).lookup place = dir.lookup place ∨
      place = removed ∧ (dir.erase removed).lookup place = none := by
  by_cases same : place = removed
  · right
    exact ⟨same, by rw [same]; exact AList.lookup_erase removed dir⟩
  · left
    exact AList.lookup_erase_ne same

theorem inside_erase {removed : Place} (removable : CacheProcess.removable dir removed = true) :
    CacheDir.Inside (dir.erase removed) place ↔ dir.Inside place ∧ place ≠ removed := by
  constructor
  · rintro ⟨there, leads⟩
    rcases dir.lookup_erase_cases removed place with same | ⟨_, gone⟩
    · refine ⟨⟨by rwa [← same], fun above front different => ?_⟩, ?_⟩
      · have dirThere := leads above front different
        unfold CacheDir.isDir at dirThere ⊢
        rcases dir.lookup_erase_cases removed above with same | ⟨_, gone⟩
        · rwa [← same]
        · rw [gone] at dirThere
          cases dirThere
      · rintro rfl
        exact there (AList.lookup_erase _ _)
    · exact absurd gone there
  · rintro ⟨inside, different⟩
    have same : ∀ other, other ≠ removed → (dir.erase removed).lookup other = dir.lookup other :=
      fun other apart => AList.lookup_erase_ne apart
    refine ⟨by rw [same place different]; exact inside.1, fun above front proper => ?_⟩
    unfold CacheDir.isDir
    rw [same above ?_]
    · exact inside.2 above front proper
    · -- what is removed has nothing below it
      rintro rfl
      obtain ⟨child, below, filled, own⟩ := exists_child front proper
      unfold CacheProcess.removable at removable
      rw [Bool.and_eq_true, List.all_eq_true] at removable
      have entry := removable.2 child (AList.mem_keys.mp (AList.lookup_isSome.mp
        (Option.ne_none_iff_isSome.mp (inside.of_prefix below).1)))
      have shorter : child.length = above.length + 1 := by
        rw [← own, List.length_dropLast]
        have positive := List.length_pos_of_ne_nil filled
        omega
      have apart : child ≠ above := fun equal => by rw [equal] at shorter; omega
      simp [filled, own, apart] at entry

theorem ShippedRelease.Guarded.erase {removed : Place}
    (guarded : shipped.Guarded (some removed) dir)
    (removable : CacheProcess.removable dir removed = true) :
    shipped.Guarded none (dir.erase removed) := by
  have same : ∀ other, other ≠ removed → (dir.erase removed).lookup other = dir.lookup other :=
    fun other apart => AList.lookup_erase_ne apart
  have isDir : ∀ other, other ≠ removed →
      CacheDir.isDir (dir.erase removed) other = dir.isDir other := by
    intro other apart
    unfold CacheDir.isDir
    rw [same other apart]
  have read : ∀ other, other ≠ removed →
      CacheDir.read (dir.erase removed) other = dir.read other := by
    intro other apart
    unfold CacheDir.read
    rw [same other apart]
  rintro ⟨archive, found, digest⟩ _ module content sole file
  have kept : [shipped.assetName] ≠ removed := by
    rintro rfl
    unfold CacheDir.read at found
    rw [AList.lookup_erase] at found
    cases found
  obtain ⟨inside, apart⟩ := (inside_erase removable).mp sole.library.inside
  have before : dir.Sole shipped.host (some removed) module :=
    { library := ⟨inside, by rw [← isDir module apart]; exact sole.library.file,
        sole.library.named⟩
      kept := fun equal => apart (Option.some.inj equal).symm
      single := fun other library different => by
        have apart : other ≠ removed := fun equal => different (congrArg some equal.symm)
        exact sole.single other ⟨(inside_erase removable).mpr ⟨library.inside, apart⟩,
          by rw [isDir other apart]; exact library.file, library.named⟩ (by simp)
      listable := fun place within different => by
        have apart : place ≠ removed := fun equal => different (congrArg some equal.symm)
        rw [← same place apart]
        exact sole.listable place ((inside_erase removable).mpr ⟨within, apart⟩) (by simp) }
  rw [read _ kept] at found
  rw [same module apart] at file
  rcases guarded ⟨archive, found, digest⟩ (fun equal => kept (Option.some.inj equal).symm) module
    content before file with ⟨⟨there, differs⟩, beside⟩ | ⟨whole, foreign⟩
  · have other : allowlistBeside module ≠ removed := fun equal => beside (congrArg some equal.symm)
    refine .inl ⟨⟨by rwa [same _ other], ?_⟩, by simp⟩
    unfold CacheDir.readToString at differs ⊢
    rw [read _ other, read module apart]
    exact differs
  · refine .inr ⟨fun place ships => ?_, by simp⟩
    rw [same place]
    · exact whole place ships
    · rintro rfl
      exact ships (foreign place rfl)

theorem ShippedRelease.guarded_whole (whole : shipped.Whole dir) : shipped.Guarded none dir :=
  fun _ _ _ _ _ _ => .inr ⟨whole, by simp⟩

theorem ShippedRelease.Whole.library (whole : shipped.Whole dir) {module : Place}
    (library : shipped.dir.Library host module) : dir.Library host module := by
  have same : ∀ place, shipped.dir.Inside place → dir.lookup place = shipped.dir.lookup place :=
    fun place inside => whole place inside.1
  have isDir : ∀ place, shipped.dir.Inside place → dir.isDir place = shipped.dir.isDir place := by
    intro place inside
    unfold CacheDir.isDir
    rw [same place inside]
  refine ⟨⟨by rw [same module library.inside]; exact library.inside.1, ?_⟩, ?_, library.named⟩
  · intro above front different
    rw [isDir above (library.inside.of_prefix front)]
    exact library.inside.2 above front different
  · rw [isDir module library.inside]
    exact library.file

/-- In the whole release a library that is the only one is the shipped one. -/
theorem ShippedRelease.Whole.hit (whole : shipped.Whole dir)
    (consistent : shipped.Consistent) {module : Place}
    (sole : dir.Sole shipped.host none module) : CacheHit.Shipped shipped ⟨module, dir⟩ := by
  obtain ⟨own, content, library, found, ships⟩ := consistent
  obtain rfl := sole.single own (whole.library library) (by simp)
  refine ⟨whole, content, ?_, ships⟩
  unfold CacheDir.read
  rw [whole own library.inside.1]
  exact found

end

/-! ### Lookups -/

/-- Of what is inside, each entry was met or has a place above it that is still pending. -/
structure Walked (dir : CacheDir) (host : Platform) (pending found : List Place) : Prop where
  waiting : ∀ place ∈ pending, dir.Inside place
  libraries : ∀ module ∈ found, dir.Library host module
  covers : ∀ place, dir.Inside place → (∃ above ∈ pending, above <+: place) ∨
    dir.lookup place ≠ some (.dir false) ∧ (dir.Library host place → place ∈ found)

/-- What a lookup knows of the directory, which does not change once the archive is proved. -/
def LookupPhase.Knows (shipped : ShippedRelease) (dir : CacheDir) : LookupPhase → Prop
  | .archive => True
  | .marker => False
  | .hashing expected => expected = shipped.pin
  | .entering => shipped.Proves dir
  | .walking pending found => shipped.Proves dir ∧ Walked dir shipped.host pending found
  | .listing place pending found =>
      shipped.Proves dir ∧ Walked dir shipped.host (place :: pending) found
  | .leading module => shipped.Proves dir ∧ dir.Sole shipped.host none module
  | .looking module => shipped.Proves dir ∧ dir.Sole shipped.host none module ∧
      ∃ content, dir.lookup module = some (.file content)
  | .reading module => shipped.Proves dir ∧ dir.Sole shipped.host none module ∧
      ∃ content, dir.lookup module = some (.file content)
  | .checking module expected => shipped.Proves dir ∧ dir.Sole shipped.host none module ∧
      (∃ content, dir.lookup module = some (.file content)) ∧ isHexSha256 expected = true ∧
      (dir.readToString (allowlistBeside module)).bind (allowlisted · module) = some expected

def CachePhase.Knows (shipped : ShippedRelease) (dir : CacheDir) : CachePhase → Prop
  | .lookup _ phase => phase.Knows shipped dir
  | _ => True

section

variable {shipped : ShippedRelease} {dir : CacheDir} {release : CachedRelease}
  {phase later : LookupPhase} {module place : Place} {pending found entries : List Place}
  {host : Platform}

theorem Walked.start (listed : dir.readDir [] = some entries) : Walked dir host entries [] := by
  obtain ⟨root, members⟩ := CacheDir.readDir_eq listed
  refine ⟨?_, by simp, ?_⟩
  · intro place among
    obtain ⟨there, filled, own⟩ := (members place).mp among
    refine ⟨there, fun above front different => ?_⟩
    obtain ⟨child, below, childFilled, childOwn⟩ := exists_child front different
    have shorter := below.length_le
    have length := congrArg List.length own
    have childLength := congrArg List.length childOwn
    have positive := List.length_pos_of_ne_nil childFilled
    rw [List.length_dropLast] at length childLength
    have empty : above = [] := by
      rw [← List.length_eq_zero_iff]
      simp only [List.length_nil] at length
      omega
    rw [empty]
    exact CacheDir.isDir_of_lookup root
  · intro place inside
    by_cases top : place = []
    · refine .inr ⟨by rw [top, root]; simp, fun library => ?_⟩
      have leads := library.file
      rw [top, CacheDir.isDir_of_lookup root] at leads
      cases leads
    · obtain ⟨child, below, filled, own⟩ := exists_child place.nil_prefix (Ne.symm top)
      exact .inl ⟨child, (members child).mpr ⟨(inside.of_prefix below).1, filled, own⟩, below⟩

theorem Walked.list (walked : Walked dir host (place :: pending) found)
    (listed : dir.readDir place = some entries) : Walked dir host (entries ++ pending) found := by
  obtain ⟨leads, members⟩ := CacheDir.readDir_eq listed
  have here := walked.waiting place List.mem_cons_self
  refine ⟨?_, walked.libraries, ?_⟩
  · intro entry among
    rcases List.mem_append.mp among with new | old
    · obtain ⟨there, filled, own⟩ := (members entry).mp new
      refine ⟨there, fun above front different => ?_⟩
      rw [← List.dropLast_append_getLast filled, own, List.prefix_concat_iff] at front
      rcases front with whole | front
      · exact absurd (whole.trans (by rw [← own, List.dropLast_append_getLast filled])) different
      · by_cases same : above = place
        · rw [same]
          exact CacheDir.isDir_of_lookup leads
        · exact here.2 above front same
    · exact walked.waiting entry (List.mem_cons_of_mem _ old)
  · intro target inside
    rcases walked.covers target inside with ⟨above, among, front⟩ | met
    · rcases List.mem_cons.mp among with rfl | old
      · by_cases same : above = target
        · refine .inr ⟨by rw [← same, leads]; simp, fun library => ?_⟩
          have file := library.file
          rw [← same, CacheDir.isDir_of_lookup leads] at file
          cases file
        · obtain ⟨child, below, filled, own⟩ := exists_child front same
          refine .inl ⟨child, List.mem_append_left _ ?_, below⟩
          exact (members child).mpr ⟨(inside.of_prefix below).1, filled, own⟩
      · exact .inl ⟨above, List.mem_append_right _ old, front⟩
    · exact .inr met

theorem Walked.pass (walked : Walked dir host (place :: pending) found)
    (file : dir.isDir place = false) {more : List Place}
    (keeps : ∀ module, module ∈ found ∨ module = place ∧ dir.Library host place ↔ module ∈ more) :
    Walked dir host pending more := by
  refine ⟨fun other among => walked.waiting other (List.mem_cons_of_mem _ among), ?_, ?_⟩
  · intro module among
    rcases (keeps module).mpr among with old | ⟨rfl, library⟩
    · exact walked.libraries module old
    · exact library
  · intro target inside
    rcases walked.covers target inside with ⟨above, among, front⟩ | ⟨listable, met⟩
    · rcases List.mem_cons.mp among with rfl | old
      · by_cases same : above = target
        · subst same
          refine .inr ⟨fun leads => ?_, fun library => (keeps above).mp (.inr ⟨rfl, library⟩)⟩
          rw [CacheDir.isDir_of_lookup leads] at file
          cases file
        · rw [inside.2 above front same] at file
          cases file
      · exact .inl ⟨above, old, front⟩
    · exact .inr ⟨listable, fun library => (keeps target).mp (.inl (met library))⟩

theorem Walked.sole (walked : Walked dir host [] [module]) : dir.Sole host none module where
  library := walked.libraries module List.mem_cons_self
  kept := by simp
  single := by
    intro other library _
    rcases walked.covers other library.inside with ⟨_, among, _⟩ | ⟨_, met⟩
    · cases among
    · exact List.mem_singleton.mp (met library)
  listable := by
    intro place inside _
    rcases walked.covers place inside with ⟨_, among, _⟩ | ⟨listable, _⟩
    · cases among
    · exact listable

theorem LookupPhase.step_goOn (pinned : release.Pinned shipped) (knows : phase.Knows shipped dir)
    (taken : phase.step shipped release dir = .goOn later) : later.Knows shipped dir := by
  obtain ⟨named, digest⟩ := pinned
  cases phase with
  | archive =>
      simp only [LookupPhase.step] at taken
      split at taken
      · cases taken
      · split at taken
        · rename_i unpinned
          rw [unpinned] at digest
          cases digest
        · rename_i pin expected
          rw [expected] at digest
          split at taken
          · cases taken
            exact Option.some.inj digest
          · cases taken
  | marker => exact knows.elim
  | hashing expected =>
      simp only [LookupPhase.step, named] at taken
      split at taken
      · cases taken
      · rename_i archive found
        split at taken
        · rename_i same
          cases taken
          exact ⟨archive, found, same.trans knows⟩
        · cases taken
  | entering =>
      simp only [LookupPhase.step] at taken
      split at taken
      · cases taken
      · rename_i entries listed
        cases taken
        exact ⟨knows, .start listed⟩
  | walking pending found =>
      obtain ⟨proves, walked⟩ := knows
      cases pending with
      | nil =>
          simp only [LookupPhase.step] at taken
          split at taken
          · cases taken
            exact ⟨proves, walked.sole⟩
          · cases taken
      | cons place pending =>
          simp only [LookupPhase.step] at taken
          split at taken
          · cases taken
            exact ⟨proves, walked⟩
          · rename_i file
            rw [Bool.not_eq_true] at file
            split at taken
            · rename_i isModule
              cases taken
              have library : dir.Library shipped.host place :=
                ⟨walked.waiting place List.mem_cons_self, file, isModule⟩
              refine ⟨proves, walked.pass file fun module => ?_⟩
              simp [library]
            · rename_i other
              cases taken
              refine ⟨proves, walked.pass file fun module => ?_⟩
              exact or_iff_left fun both => other both.2.named
  | listing place pending found =>
      obtain ⟨proves, walked⟩ := knows
      simp only [LookupPhase.step] at taken
      split at taken
      · cases taken
      · rename_i entries listed
        cases taken
        exact ⟨proves, walked.list listed⟩
  | leading module =>
      obtain ⟨proves, sole⟩ := knows
      simp only [LookupPhase.step] at taken
      split at taken
      · cases taken
      · rename_i canonical leads
        cases taken
        cases CacheDir.canonicalize_eq leads
        refine ⟨proves, sole, ?_⟩
        have file := sole.library.file
        unfold CacheDir.canonicalize at leads
        unfold CacheDir.isDir at file
        cases entry : dir.lookup module with
        | none => exact absurd entry sole.library.inside.1
        | some kind =>
            rw [entry] at leads file
            cases kind with
            | file content => exact ⟨content, rfl⟩
            | link content => cases leads
            | dir listable => cases file
  | looking module =>
      simp only [LookupPhase.step] at taken
      split at taken
      · cases taken
      · cases taken
        exact knows
  | reading module =>
      simp only [LookupPhase.step] at taken
      split at taken
      · cases taken
      · rename_i expected entry
        split at taken
        · rename_i hex
          cases taken
          exact ⟨knows.1, knows.2.1, knows.2.2, hex, entry⟩
        · cases taken
  | checking module expected =>
      simp only [LookupPhase.step] at taken
      split at taken
      · cases taken
      · split at taken <;> cases taken

theorem LookupPhase.step_hit (consistent : shipped.Consistent) (guarded : shipped.Guarded none dir)
    (knows : phase.Knows shipped dir) (taken : phase.step shipped release dir = .hit module) :
    CacheHit.Shipped shipped ⟨module, dir⟩ := by
  cases phase with
  | looking other =>
      obtain ⟨proves, sole, content, file⟩ := knows
      simp only [LookupPhase.step] at taken
      split at taken
      · rename_i absent
        cases taken
        rcases guarded proves (by simp) _ _ sole file with ⟨⟨there, _⟩, _⟩ | ⟨whole, _⟩
        · exact absurd absent there
        · exact whole.hit consistent sole
      · cases taken
  | checking other expected =>
      obtain ⟨proves, sole, ⟨content, file⟩, hex, listed⟩ := knows
      simp only [LookupPhase.step] at taken
      split at taken
      · cases taken
      · rename_i bytes read
        split at taken
        · rename_i same
          cases taken
          rcases guarded proves (by simp) _ _ sole file with ⟨⟨_, differs⟩, _⟩ | ⟨whole, _⟩
          · exact absurd same (differs _ _ listed hex read)
          · exact whole.hit consistent sole
        · cases taken
  | _ =>
      simp only [LookupPhase.step] at taken
      repeat' split at taken
      all_goals cases taken

theorem CachePhase.Knows.of_unproved {after : CacheDir} {phase : CachePhase}
    (knows : phase.Knows shipped dir) (early : phase.proved = false) :
    phase.Knows shipped after := by
  cases phase with
  | lookup round phase =>
      cases phase with
      | archive => trivial
      | marker => exact knows
      | hashing expected => exact knows
      | _ => cases early
  | _ => trivial

theorem CachePhase.Knows.proves {phase : CachePhase} (knows : phase.Knows shipped dir)
    (proved : phase.proved = true) : shipped.Proves dir := by
  cases phase with
  | lookup round phase =>
      cases phase with
      | archive => cases proved
      | marker => cases proved
      | hashing expected => cases proved
      | entering => exact knows
      | _ => exact knows.1
  | _ => cases proved

theorem ShippedRelease.Proves.not_vacant (proves : shipped.Proves dir) :
    CacheProcess.vacant dir = false := by
  obtain ⟨archive, found, _⟩ := proves
  rw [Bool.eq_false_iff]
  intro vacant
  have listed : [shipped.assetName] ∈ dir.keys := by
    rw [← AList.mem_keys, ← AList.lookup_isSome]
    unfold CacheDir.read at found
    cases entry : dir.lookup [shipped.assetName] with
    | none =>
        rw [entry] at found
        cases found
    | some kind => rfl
  have root := List.all_eq_true.mp vacant _ listed
  simp at root

end

/-! ### Steps of a process -/

structure SharedCache.Good (shipped : ShippedRelease) (cache : SharedCache) : Prop where
  guarded : shipped.Guarded none cache.dir
  hits : ∀ hit ∈ cache.hits, hit.Shipped shipped

namespace CacheProcess

/-- What a process asks for, and what its lookup knows. -/
def Knows (shipped : ShippedRelease) (_ : Nat) (cache : SharedCache) (process : CacheProcess) :
    Prop :=
  process.release.Pinned shipped ∧ process.phase.Knows shipped cache.dir

/-- The directory changes by a removal, or where there was none. -/
structure Leaves (shipped : ShippedRelease) (id : Nat) (choice : CacheChoice) (dir : CacheDir)
    (after : SharedCache × CacheProcess) : Prop where
  good : after.1.Good shipped
  knows : after.2.Knows shipped id after.1
  changes : after.1.dir = dir ∨ (∃ place, choice = .remove place) ∨ vacant dir = true

variable {shipped : ShippedRelease} {cache : SharedCache} {process : CacheProcess} {id : Nat}
  {choice : CacheChoice}

theorem leaves_still {phase : CachePhase} (good : cache.Good shipped)
    (knows : process.Knows shipped id cache) (later : phase.Knows shipped cache.dir) :
    Leaves shipped id choice cache.dir (cache, process.goTo phase) :=
  ⟨good, ⟨knows.1, later⟩, .inl rfl⟩

theorem missed_knows (release : CachedRelease) (round : LookupRound) (dir : CacheDir) :
    (missed release round).Knows shipped dir := by
  cases round with
  | first =>
      change CachePhase.Knows shipped dir (if _ then _ else _)
      split <;> trivial
  | again => trivial
  | afterFailure => trivial

theorem step_leaves (consistent : shipped.Consistent) (good : cache.Good shipped)
    (knows : process.Knows shipped id cache)
    (orderly : ∀ place, choice = .remove place → shipped.Guarded (some place) cache.dir)
    {after : SharedCache × CacheProcess}
    (taken : step shipped id choice cache process = some after) :
    Leaves shipped id choice cache.dir after := by
  unfold step at taken
  split at taken
  · rename_i round phase atLookup
    have own := knows.2
    rw [atLookup] at own
    have own : phase.Knows shipped cache.dir := own
    split at taken
    · rename_i later goesOn
      cases taken
      exact leaves_still good knows (LookupPhase.step_goOn knows.1 own goesOn)
    · cases taken
      exact leaves_still good knows (missed_knows process.release round cache.dir)
    · rename_i module answers
      cases taken
      refine ⟨⟨good.guarded, ?_⟩, ⟨knows.1, trivial⟩, .inl rfl⟩
      intro hit among
      rcases List.mem_append.mp among with earlier | last
      · exact good.hits hit earlier
      · rw [List.mem_singleton.mp last]
        exact LookupPhase.step_hit consistent good.guarded own answers
  · cases taken
    exact leaves_still good knows trivial
  · cases taken
    refine leaves_still good knows ?_
    split <;> trivial
  · rename_i place removing
    split at taken
    · rename_i removable
      cases taken
      refine ⟨⟨(orderly place rfl).erase removable, good.hits⟩, ⟨?_, ?_⟩, .inr (.inl ⟨place, rfl⟩)⟩
      · dsimp only
        split <;> exact knows.1
      · dsimp only
        split
        · trivial
        · rw [removing]
          trivial
    · cases taken
  · cases taken
    refine leaves_still good knows ?_
    split <;> trivial
  · split at taken
    · rename_i renames
      cases taken
      rw [Bool.and_eq_true] at renames
      exact ⟨⟨ShippedRelease.guarded_whole fun _ _ => rfl, good.hits⟩, ⟨knows.1, trivial⟩,
        .inr (.inr renames.2)⟩
    · cases taken
      exact leaves_still good knows trivial
  · cases taken
    exact leaves_still good knows trivial
  · cases taken

end CacheProcess

/-! ### Runs -/

namespace SharedCache

theorem keeps {shipped : ShippedRelease} (consistent : shipped.Consistent) :
    Tasks.Keeps (kind shipped) (fun state => state.shared.Good shipped)
      (fun id cache process => process.Knows shipped id cache) shipped.Orderly := by
  have leaves {state : State} {id : Nat} {choice : CacheChoice} {process stepped : CacheProcess}
      {after : SharedCache} (good : state.shared.Good shipped)
      (knows : process.Knows shipped id state.shared)
      (orderly : shipped.Orderly state (.advance id choice))
      (taken : CacheProcess.step shipped id choice state.shared process = some (after, stepped)) :
      CacheProcess.Leaves shipped id choice state.shared.dir (after, stepped) := by
    refine CacheProcess.step_leaves consistent good knows ?_ taken
    rintro place rfl
    exact orderly.1
  refine ⟨?_, ?_, ?_, ?_⟩
  · intro state id call sound pinned _
    refine ⟨sound.common, ?_⟩
    cases call with
    | acquire release => exact ⟨pinned, trivial⟩
    | commit release => exact ⟨pinned, trivial⟩
  · intro state id choice process after stepped sound orderly present taken
    have left := leaves sound.common (sound.own id process present) orderly taken
    exact ⟨left.good, left.knows⟩
  · intro state id choice process after stepped other bystander sound orderly present taken _ found
    have left := leaves sound.common (sound.own id process present) orderly taken
    obtain ⟨pinned, knows⟩ := sound.own other bystander found
    refine ⟨pinned, ?_⟩
    rcases left.changes with same | ⟨place, rfl⟩ | vacant
    · rw [show after.dir = _ from same]
      exact knows
    · exact knows.of_unproved (orderly.2 other bystander found)
    · cases early : bystander.phase.proved with
      | false => exact knows.of_unproved early
      | true =>
          rw [(knows.proves early).not_vacant] at vacant
          cases vacant
  · intro state event
    cases event

/-- A release whose library matches its own allowlist, and a directory that is the whole
release or guarded, wherever its archive has the pinned digest: as long as each removal leaves
it so and none is made under a lookup, every hit is a library that the release ships, in a
directory that is the whole release. -/
theorem hits_shipped {shipped : ShippedRelease} (consistent : shipped.Consistent)
    {state : State}
    (reached : ((system shipped (shipped.Guarded none)).restrict shipped.Orderly).Reachable
      state) :
    ∀ hit ∈ state.shared.hits, hit.Shipped shipped := by
  have sound := Tasks.sound_of_keeps (keeps consistent) ?_ reached
  · exact sound.common.hits
  · rintro first ⟨guarded, unasked⟩ _
    refine ⟨guarded, ?_⟩
    rw [unasked]
    intro hit among
    cases among

/-! ### A stale directory that is replaced, and a lookup beside a removal -/

def speechAllowlist : Content :=
  ("libspeech = ".toList ++ speechLibraryPin.toList).map (fun c => c.toNat.toUInt8)

def speechDir (archive library : Content) : CacheDir :=
  ((CacheDir.empty.write ["speech.tar"] archive).write ["libspeech.so"] library).write
    ["modules.toml"] speechAllowlist

def speechShipped : ShippedRelease :=
  { host := .other, sha256 := speechSha256, assetName := "speech.tar", pin := speechArchivePin
    dir := speechDir [1] [127, 69, 76, 70] }

theorem speechShipped_listed :
    speechShipped.listed ["libspeech.so"] = some speechLibraryPin := by
  decide +kernel

theorem speechShipped_consistent : speechShipped.Consistent := by
  refine ⟨["libspeech.so"], [127, 69, 76, 70], ⟨⟨by decide, ?_⟩, rfl, rfl⟩, rfl,
    ShippedRelease.ships_of_listed speechShipped_listed speechLibrary_hex⟩
  intro above front different
  rcases List.prefix_concat_iff.mp (show above <+: [] ++ ["libspeech.so"] from front) with
    whole | empty
  · exact absurd whole different
  · rw [List.prefix_nil.mp empty]
    rfl

def reads (id count : Nat) : List Event := List.replicate count (.advance id .read)

def unasked (dir : CacheDir) : State := ⟨⟨dir, []⟩, ∅⟩

def later (dir : CacheDir) (events : List Event) : State :=
  events.foldl (Tasks.next (kind speechShipped)) (unasked dir)

def answers (state : State) : List (Place × Option Content) :=
  state.shared.hits.map (fun hit => (hit.place, hit.dir.read hit.place))

/-- An archive of other bytes is missed twice, all that is there is removed, and another
process finds what was moved into its place. -/
def replaced : List Event :=
  .start 0 (.acquire speechRelease) :: reads 0 2 ++ [.advance 0 (.fetched true)] ++ reads 0 2 ++
    [["modules.toml"], ["libspeech.so"], ["speech.tar"], []].map
      (fun place => .advance 0 (.remove place)) ++
    [.advance 0 (.rename true), .start 1 (.acquire speechRelease)] ++ reads 1 11

/-- A removal is made where the archive does not have the pinned digest. -/
def harmless (state : State) : Event → Bool
  | .start _ call => call.release.assetName == "speech.tar" &&
      call.release.expectedSha256 == some speechArchivePin
  | .advance _ (.remove _) =>
      (state.shared.dir.read ["speech.tar"]).all
          (fun archive => fileHex speechSha256 archive != speechArchivePin) &&
        state.tasks.entries.all (fun entry => !entry.2.phase.proved)
  | _ => true

theorem harmless_orderly {state : State} {event : Event}
    (checked : harmless state event = true) : speechShipped.Orderly state event := by
  cases event with
  | start id call =>
      unfold harmless at checked
      rw [Bool.and_eq_true, beq_iff_eq, beq_iff_eq] at checked
      refine ⟨checked.1, ?_⟩
      rw [checked.2]
      exact congrArg some speechArchivePin_lower
  | advance id choice =>
      cases choice with
      | remove place =>
          unfold harmless at checked
          rw [Bool.and_eq_true, List.all_eq_true] at checked
          refine ⟨?_, fun other process present => ?_⟩
          · rintro ⟨archive, found, digest⟩
            have own : state.shared.dir.read ["speech.tar"] = some archive := found
            rw [own] at checked
            simp [show fileHex speechSha256 archive = speechArchivePin from digest] at checked
          · simpa using checked.2 _ (Table.mem_entries_iff_lookup.mpr present)
      | _ => trivial
  | outside event => trivial

theorem stale_guarded : speechShipped.Guarded none (speechDir [0] [0]) := by
  rintro ⟨archive, found, digest⟩
  cases found
  exact absurd digest (by decide)

theorem speechHit_shipped :
    ∃ state : State, ((system speechShipped (speechShipped.Guarded none)).restrict
        speechShipped.Orderly).Reachable state ∧
      answers state = [(["libspeech.so"], some [127, 69, 76, 70])] ∧
      ∀ hit ∈ state.shared.hits, hit.Shipped speechShipped := by
  have reached : ((system speechShipped (speechShipped.Guarded none)).restrict
      speechShipped.Orderly).Reachable (later (speechDir [0] [0]) replaced) :=
    ⟨unasked (speechDir [0] [0]), replaced, ⟨⟨stale_guarded, rfl⟩, rfl⟩,
      System.Run.of_checked (fun _ _ => harmless_orderly) (by decide +kernel)⟩
  exact ⟨_, reached, by decide +kernel, hits_shipped speechShipped_consistent reached⟩

/-- A process misses twice on a library of other bytes beside the pinned archive and removes
the allowlist first; another one looks the release up before the next removal. -/
def besideRemoval : List Event :=
  .start 0 (.acquire speechRelease) :: reads 0 11 ++ [.advance 0 (.fetched true)] ++
    reads 0 11 ++ [.advance 0 (.remove ["modules.toml"]), .start 1 (.acquire speechRelease)] ++
    reads 1 8

/-- A lookup beside the removal, or after a crash in it, accepts the other library. -/
theorem halfRemoved_accepted :
    ¬ ∀ state : State, (system speechShipped (fun _ => True)).Reachable state →
      ∀ hit ∈ state.shared.hits, hit.Shipped speechShipped := by
  intro every
  have reached : (system speechShipped (fun _ => True)).Reachable
      (later (speechDir [1] [0]) besideRemoval) :=
    System.Reachable.of_foldl ⟨⟨trivial, rfl⟩, rfl⟩ besideRemoval
  have answered : (["libspeech.so"], some [0]) ∈
      answers (later (speechDir [1] [0]) besideRemoval) := by decide +kernel
  obtain ⟨hit, among, same⟩ := List.mem_map.mp answered
  obtain ⟨_, content, found, ships⟩ := every _ reached hit among
  obtain ⟨place, read⟩ := Prod.mk.inj same
  cases found.symm.trans read
  rw [place] at ships
  have same : fileHex speechSha256 [0] = speechLibraryPin :=
    ships.entry speechLibraryPin speechShipped_listed
  have differs := corruptedLibrary_differs
  rw [same, eqIgnoreAsciiCase_refl] at differs
  cases differs

end SharedCache

end TinyBus
