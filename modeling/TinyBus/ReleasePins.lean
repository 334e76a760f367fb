import TinyBus.ReleaseAcquisition

/-
An acquisition with downloads allowed, from a release that keeps the pins of the
host: it ends with a module that keeps them too, unless the lookup proves a library
other than the pinned one.  That is refused, and the directory is left as it is.
-/

namespace TinyBus

theorem ensure_eq_ok {holds : Bool} {reason : String} :
    ensure holds reason = .ok () ↔ holds = true := by
  cases holds <;> simp [ensure]

theorem agreesWith_eq_ok {digest reason : String} {expected : Option String} :
    agreesWith digest reason expected = .ok () ↔
      ∀ pin, expected = some pin → isHexSha256 pin = true ∧ eqIgnoreAsciiCase digest pin = true := by
  cases expected with
  | none => simp [agreesWith]
  | some pin =>
      cases hex : isHexSha256 pin <;> cases same : eqIgnoreAsciiCase digest pin <;>
        simp [agreesWith, validateHash, ensure, hex, same, bind, Except.bind]

theorem eqIgnoreAsciiCase_toAsciiLowercase (text : String) :
    eqIgnoreAsciiCase (toAsciiLowercase text) text = true := by
  rw [eqIgnoreAsciiCase_iff]
  unfold toAsciiLowercase
  rw [String.toList_ofList, List.map_map]
  exact List.map_congr_left (fun c _ => toLower_toLower c)

/-- The conditions under which a lookup answers with a module. -/
structure Proven (sha256 : Sha256) (host : Platform) (dir : CacheDir) (assetName : String)
    (expectedSha256 : Option String) (hit : CachedArtifact) : Prop where
  digest : expectedDigest dir assetName expectedSha256 = some hit.sha256
  hex : isHexSha256 hit.sha256 = true
  archive : ∃ archive, dir.read [assetName] = some archive ∧
    fileHex sha256 archive = hit.sha256
  only : findModule host dir = .ok hit.module
  inside : dir.canonicalize hit.module = some hit.module
  sidecar : sidecarMatches sha256 dir hit.module = true

variable {dir : CacheDir} {host : Platform}

theorem CacheDir.isFile_of_read {place : Place} {content : Content}
    (found : dir.read place = some content) : dir.isFile place = true := by
  unfold CacheDir.read at found
  unfold CacheDir.isFile
  cases entry : dir.lookup place with
  | none =>
      rw [entry] at found
      cases found
  | some kind =>
      rw [entry] at found
      cases kind with
      | file _ => rfl
      | link _ => rfl
      | dir _ => cases found

theorem CacheDir.canonicalize_eq {place canonical : Place}
    (leads : dir.canonicalize place = some canonical) : canonical = place := by
  unfold CacheDir.canonicalize at leads
  split at leads
  · cases leads
  · exact (Option.some.inj leads).symm
  · cases leads

theorem usableExtraction_eq_some {sha256 : Sha256} {module : Place} :
    usableExtraction sha256 host dir = some module ↔
      findModule host dir = .ok module ∧ dir.canonicalize module = some module ∧
        sidecarMatches sha256 dir module = true := by
  unfold usableExtraction
  constructor
  · intro usable
    split at usable
    · cases usable
    · rename_i found only
      split at usable
      · cases usable
      · rename_i canonical leads
        split at usable
        · rename_i matching
          cases usable
          cases CacheDir.canonicalize_eq leads
          exact ⟨only, leads, matching⟩
        · cases usable
  · rintro ⟨only, leads, matching⟩
    rw [only]
    dsimp only
    rw [leads]
    dsimp only
    rw [if_pos matching]

theorem findVerified_eq_some {sha256 : Sha256} {assetName : String} {expectedSha256 : Option String}
    {hit : CachedArtifact} :
    findVerified sha256 host dir assetName expectedSha256 = some hit ↔
      Proven sha256 host dir assetName expectedSha256 hit := by
  unfold findVerified
  constructor
  · intro verified
    split at verified
    · cases verified
    · split at verified
      · cases verified
      · rename_i expected digest
        split at verified
        · cases verified
        · rename_i hex
          split at verified
          · cases verified
          · rename_i archive found
            split at verified
            · cases verified
            · rename_i same
              obtain ⟨module, usable, rfl⟩ := Option.map_eq_some_iff.mp verified
              obtain ⟨only, inside, sidecar⟩ := usableExtraction_eq_some.mp usable
              exact ⟨digest, by simpa using hex, ⟨archive, found, by simpa using same⟩, only,
                inside, sidecar⟩
  · intro proven
    obtain ⟨archive, found, same⟩ := proven.archive
    rw [CacheDir.isFile_of_read found, proven.digest]
    dsimp only
    rw [proven.hex, found]
    dsimp only
    rw [same, usableExtraction_eq_some.mpr ⟨proven.only, proven.inside, proven.sidecar⟩]
    simp

theorem mem_gather {visit : Place → Option (List Place)} {entries found : List Place}
    (gathered : gather visit entries = some found) {place : Place} (among : place ∈ found) :
    ∃ entry ∈ entries, ∃ part, visit entry = some part ∧ place ∈ part := by
  induction entries generalizing found with
  | nil =>
      cases gathered
      cases among
  | cons entry rest ih =>
      obtain ⟨part, visited, continued⟩ := Option.bind_eq_some_iff.mp gathered
      obtain ⟨later, onward, rfl⟩ := Option.map_eq_some_iff.mp continued
      rcases List.mem_append.mp among with here | there
      · exact ⟨entry, .head _, part, visited, here⟩
      · obtain ⟨other, within, own⟩ := ih onward there
        exact ⟨other, .tail _ within, own⟩

theorem isPlatformModule_of_collected {levels : Nat} {root : Place} {found : List Place}
    (collected : collectModules host dir levels root = some found) {place : Place}
    (among : place ∈ found) : isPlatformModule host place = true := by
  induction levels generalizing root found with
  | zero => cases collected
  | succ levels ih =>
      obtain ⟨entries, _, gathered⟩ := Option.bind_eq_some_iff.mp collected
      obtain ⟨entry, _, part, visited, own⟩ := mem_gather gathered among
      split at visited
      · exact ih visited own
      · split at visited
        · rename_i isModule
          cases visited
          rw [List.mem_singleton.mp own]
          exact isModule
        · cases visited
          cases own

theorem findModule_eq_ok {module : Place} (only : findModule host dir = .ok module) :
    collectModules host dir (depth dir + 1) [] = some [module] := by
  unfold findModule at only
  split at only
  · cases only
  · rename_i collected
    cases only
    exact collected
  · cases only
  · cases only

theorem marker_not_module (host : Platform) (assetName : String) :
    isPlatformModule host (digestMarker assetName) = false := by
  have reversed : (assetName ++ ".sha256").toList.reverse =
      ['6', '5', '2', 'a', 'h', 's', '.'] ++ assetName.toList.reverse := by
    rw [String.toList_append, List.reverse_append]
    rfl
  unfold isPlatformModule digestMarker fileName splitExtension
  rw [List.getLast?_singleton, Option.getD_some, reversed]
  cases assetName.toList.reverse with
  | nil => cases host <;> rfl
  | cons c rest => cases host <;> rfl

theorem isDir_root_of_module {module : Place}
    (only : findModule host dir = .ok module) : dir.isDir [] = true := by
  obtain ⟨entries, listed, _⟩ := Option.bind_eq_some_iff.mp (findModule_eq_ok only)
  unfold CacheDir.readDir at listed
  unfold CacheDir.isDir
  split at listed
  · rename_i found
    rw [found]
  · cases listed

theorem read_write_marker {module : Place} (only : findModule host dir = .ok module)
    (assetName : String) (content : Content) :
    (dir.write (digestMarker assetName) content).read module = dir.read module := by
  have different : module ≠ digestMarker assetName := by
    rintro rfl
    have own := isPlatformModule_of_collected (findModule_eq_ok only) (.head _)
    rw [marker_not_module] at own
    cases own
  have written : dir.write (digestMarker assetName) content =
      dir.insert (digestMarker assetName) (.file (some content)) := by
    unfold CacheDir.write digestMarker
    simp [List.range_succ, isDir_root_of_module only]
  rw [written]
  unfold CacheDir.read
  rw [AList.lookup_insert_ne different]

/-- What a release publishes, as far as an acquisition asks for it. -/
structure Publication where
  owner : String
  repo : String
  tag : String
  located : Located
  checksums : Checksums
  manifestSha : String
  archive : Content
  entries : List (Place × Content)
  module : Place
  library : Content

def Publication.assembled (published : Publication) (assetName : String) : CacheDir :=
  extracted (CacheDir.empty.write [assetName] published.archive) published.entries

def Publication.staging (published : Publication) (assetName : String) : Staging :=
  { dir := (published.assembled assetName).write (digestMarker assetName)
      (toAsciiLowercase published.manifestSha ++ "\n").toUTF8.toList
    relative := published.module
    manifestSha := toAsciiLowercase published.manifestSha }

/-- The manifest, the archive and the extracted library of a release keep the pins of
the host, which allows downloads; the network and the files do what is asked. -/
structure Serves (world : World) (release : CachedRelease) (published : Publication) :
    Prop where
  named : checkAssetName release.assetName = .ok ()
  page : parseReleaseUrl release.releaseUrl =
    .ok (published.owner, published.repo, published.tag)
  allowed : release.allowDownload = true
  works : ∀ op, world.works op = true
  located : locate world published.owner published.repo published.tag release.assetName =
    .ok published.located
  checksums : parseChecksums world published.located.manifestName published.located.manifest =
    .ok published.checksums
  manifest : published.checksums.sha256.lookup release.assetName = some published.manifestSha
  digest : isHexSha256 published.manifestSha = true
  pinned : ∀ pin, release.expectedSha256 = some pin →
    eqIgnoreAsciiCase published.manifestSha pin = true
  libraryDigest : ∀ digest, published.checksums.librarySha256.lookup release.assetName =
    some digest → isHexSha256 digest = true
  libraryListed : ∀ pin, release.expectedLibrarySha256 = some pin →
    ∃ digest, published.checksums.librarySha256.lookup release.assetName = some digest ∧
      eqIgnoreAsciiCase digest pin = true
  sent : world.send published.located.archiveUrl none = .ok published.archive
  bounded : published.archive.length ≤ MAX_RELEASE_BYTES
  archive : eqIgnoreAsciiCase (fileHex world.sha256 published.archive)
    published.manifestSha = true
  unpacked : world.unpack release.assetName published.archive = .ok published.entries
  only : findModule world.host (published.assembled release.assetName) = .ok published.module
  library : (published.assembled release.assetName).read published.module =
    some published.library
  libraryPinned : ∀ pin, release.expectedLibrarySha256 = some pin →
    eqIgnoreAsciiCase (fileHex world.sha256 published.library) pin = true

/-- The file at a place is a library with the digest that the host expects. -/
def LibraryPinned (world : World) (release : CachedRelease) (dir : CacheDir)
    (place : Place) : Prop :=
  ∃ library, dir.read place = some library ∧
    ∀ pin, release.expectedLibrarySha256 = some pin →
      eqIgnoreAsciiCase (fileHex world.sha256 library) pin = true

/-- A module that satisfies both pins. -/
structure Pinned (world : World) (release : CachedRelease) (dir : CacheDir)
    (place : Place) (sha256 : String) : Prop where
  archive : ∀ pin, release.expectedSha256 = some pin → eqIgnoreAsciiCase sha256 pin = true
  library : LibraryPinned world release dir place

section

variable {world : World} {release : CachedRelease} {published : Publication}

theorem Serves.pin_hex (serves : Serves world release published) {pin : String}
    (expected : release.expectedSha256 = some pin) : isHexSha256 pin = true := by
  rw [← isHexSha256_congr (serves.pinned pin expected)]
  exact serves.digest

theorem Serves.libraryPin_hex (serves : Serves world release published) {pin : String}
    (expected : release.expectedLibrarySha256 = some pin) : isHexSha256 pin = true := by
  obtain ⟨digest, listed, same⟩ := serves.libraryListed pin expected
  rw [← isHexSha256_congr same]
  exact serves.libraryDigest digest listed

theorem Serves.manifestDigest (serves : Serves world release published) :
    TinyBus.manifestDigest published.checksums release.assetName release.expectedSha256 =
      .ok (toAsciiLowercase published.manifestSha) := by
  have agrees (reason : String) :
      agreesWith published.manifestSha reason release.expectedSha256 = .ok () :=
    agreesWith_eq_ok.mpr (fun pin expected => ⟨serves.pin_hex expected, serves.pinned pin expected⟩)
  unfold TinyBus.manifestDigest
  rw [serves.manifest]
  simp [validateHash, ensure, serves.digest, agrees, bind, Except.bind]

theorem Serves.manifestLibraryDigest (serves : Serves world release published) :
    ∃ digest, TinyBus.manifestLibraryDigest published.checksums release.assetName
      release.expectedLibrarySha256 = .ok digest := by
  unfold TinyBus.manifestLibraryDigest
  cases listed : published.checksums.librarySha256.lookup release.assetName with
  | none =>
      cases expected : release.expectedLibrarySha256 with
      | none => exact ⟨none, rfl⟩
      | some pin =>
          obtain ⟨digest, present, _⟩ := serves.libraryListed pin expected
          rw [listed] at present
          cases present
  | some digest =>
      have agrees (reason : String) :
          agreesWith digest reason release.expectedLibrarySha256 = .ok () := by
        refine agreesWith_eq_ok.mpr (fun pin expected => ⟨serves.libraryPin_hex expected, ?_⟩)
        obtain ⟨other, present, same⟩ := serves.libraryListed pin expected
        rw [listed] at present
        cases present
        exact same
      exact ⟨some (toAsciiLowercase digest), by
        simp [validateHash, ensure, serves.libraryDigest digest listed, agrees, bind,
          Except.bind]⟩

theorem Serves.verifyLibraryDigest (serves : Serves world release published) (dir : CacheDir)
    (place : Place) :
    TinyBus.verifyLibraryDigest world dir place release.expectedLibrarySha256 = .ok () ↔
      LibraryPinned world release dir place := by
  unfold TinyBus.verifyLibraryDigest LibraryPinned
  cases found : dir.read place with
  | none => simp
  | some library =>
      rw [agreesWith_eq_ok]
      constructor
      · intro agrees
        exact ⟨library, rfl, fun pin expected => (agrees pin expected).2⟩
      · rintro ⟨other, same, agrees⟩ pin expected
        cases same
        exact ⟨serves.libraryPin_hex expected, agrees pin expected⟩

theorem Serves.stageRelease (serves : Serves world release published) :
    TinyBus.stageRelease world release published.owner published.repo published.tag =
      .ok (published.staging release.assetName) := by
  obtain ⟨digest, libraryListed⟩ := serves.manifestLibraryDigest
  have downloaded : download world published.located.archiveUrl = .ok published.archive := by
    unfold download
    rw [serves.sent]
    simp [ensure, serves.works, serves.bounded, bind, Except.bind]
  have archived : verifyArchive world published.archive (toAsciiLowercase published.manifestSha) =
      .ok () := by
    refine ensure_eq_ok.mpr (eqIgnoreAsciiCase_trans serves.archive ?_)
    exact eqIgnoreAsciiCase_symm (eqIgnoreAsciiCase_toAsciiLowercase _)
  have accepted : TinyBus.verifyLibraryDigest world (published.assembled release.assetName)
      published.module release.expectedLibrarySha256 = .ok () :=
    (serves.verifyLibraryDigest _ _).mpr ⟨published.library, serves.library, serves.libraryPinned⟩
  have assembled : extracted (CacheDir.empty.write [release.assetName] published.archive)
      published.entries = published.assembled release.assetName := rfl
  have works (op : FileOp) (reason : String) : ensure (world.works op) reason = .ok () :=
    ensure_eq_ok.mpr (serves.works op)
  unfold TinyBus.stageRelease Publication.staging
  simp only [serves.located, serves.checksums, serves.manifestDigest, libraryListed, works,
    downloaded, archived, serves.unpacked, assembled, serves.only, accepted, bind, Except.bind]

theorem Serves.staged_pinned (serves : Serves world release published) :
    let staging := published.staging release.assetName
    Pinned world release staging.dir staging.relative staging.manifestSha := by
  refine ⟨?_, published.library, ?_, serves.libraryPinned⟩
  · intro pin expected
    exact eqIgnoreAsciiCase_trans (eqIgnoreAsciiCase_toAsciiLowercase _)
      (serves.pinned pin expected)
  · exact (read_write_marker serves.only _ _).trans serves.library

theorem Proven.sha256_pinned {dir : CacheDir} {hit : CachedArtifact}
    (proven : Proven world.sha256 world.host dir release.assetName release.expectedSha256 hit)
    {pin : String} (expected : release.expectedSha256 = some pin) :
    eqIgnoreAsciiCase hit.sha256 pin = true := by
  have digest := proven.digest
  rw [expected] at digest
  rw [← Option.some.inj digest]
  exact eqIgnoreAsciiCase_toAsciiLowercase pin

theorem Serves.miss (serves : Serves world release published) {dir : CacheDir}
    (missed : findVerified world.sha256 world.host dir release.assetName
      release.expectedSha256 = none) :
    let staging := published.staging release.assetName
    acquireCached world release dir =
      (.ok (staging.relative, staging.manifestSha), staging.dir) := by
  unfold acquireCached
  rw [serves.named, serves.page]
  dsimp only
  rw [missed, serves.allowed]
  rw [if_neg (by decide), serves.stageRelease]
  unfold commitOrReuse
  dsimp only
  rw [missed]
  simp [commit, serves.works]

theorem Serves.hit (serves : Serves world release published) {dir : CacheDir}
    {hit : CachedArtifact}
    (found : findVerified world.sha256 world.host dir release.assetName
      release.expectedSha256 = some hit) :
    acquireCached world release dir = (answerHit world release dir hit, dir) := by
  unfold acquireCached
  rw [serves.named, serves.page]
  dsimp only
  rw [found]

/-- From a release that keeps the pins, an acquisition ends with a module that keeps
them too exactly where each library that the cache proves keeps the library pin. -/
theorem acquireCached_pinned_iff (serves : Serves world release published) (dir : CacheDir) :
    (∃ place sha256 after, acquireCached world release dir = (.ok (place, sha256), after) ∧
      Pinned world release after place sha256) ↔
    ∀ hit, Proven world.sha256 world.host dir release.assetName release.expectedSha256 hit →
      LibraryPinned world release dir hit.module := by
  constructor
  · rintro ⟨place, sha256, after, acquired, pinned⟩ hit proven
    rw [serves.hit (findVerified_eq_some.mpr proven)] at acquired
    obtain ⟨answered, _⟩ := Prod.mk.inj acquired
    unfold answerHit at answered
    cases accepted : TinyBus.verifyLibraryDigest world dir hit.module
        release.expectedLibrarySha256 with
    | ok done => exact (serves.verifyLibraryDigest dir hit.module).mp accepted
    | error reason =>
        rw [accepted] at answered
        cases answered
  · intro kept
    cases found : findVerified world.sha256 world.host dir release.assetName
        release.expectedSha256 with
    | none =>
        exact ⟨_, _, _, serves.miss found, serves.staged_pinned⟩
    | some hit =>
        have proven := findVerified_eq_some.mp found
        have library := kept hit proven
        refine ⟨hit.module, hit.sha256, dir, ?_,
          ⟨fun pin expected => proven.sha256_pinned expected, library⟩⟩
        rw [serves.hit found]
        unfold answerHit
        rw [(serves.verifyLibraryDigest dir hit.module).mpr library]
        rfl

end

def speechSha256 : Sha256 := fun content =>
  if content = [1] then
    #v[75, 245, 18, 47, 52, 69, 84, 197, 59, 222, 46, 187, 140, 210, 183, 227, 209, 96, 10, 214,
      49, 195, 133, 165, 215, 204, 226, 60, 119, 133, 69, 154]
  else if content = [0] then
    #v[110, 52, 11, 156, 255, 179, 122, 152, 156, 165, 68, 230, 187, 120, 10, 44, 120, 144, 29,
      63, 179, 55, 56, 118, 133, 17, 163, 6, 23, 175, 160, 29]
  else elfDigest

def speechArchivePin : String :=
  "4bf5122f344554c53bde2ebb8cd2b7e3d1600ad631c385a5d7cce23c7785459a"

def speechLibraryPin : String :=
  "3bdbb4fe8397cd2b842430b39ccff01a8663c751945ef5e9a09e267fb8b1d359"

def speechChecksums : Checksums :=
  { sha256 := [("speech.tar", speechArchivePin)]
    librarySha256 := [("speech.tar", speechLibraryPin)] }

def speechWorld : World :=
  { host := .other, sha256 := speechSha256
    send := fun url _ => .ok (if url = releaseDownloadUrl "o" "r" "v1" "speech.tar" then [1] else [])
    listing := fun _ => none, toml := fun _ => some speechChecksums, json := fun _ => none
    unpack := fun _ _ => .ok [(["libspeech.so"], [127, 69, 76, 70])]
    works := fun _ => true, leftover := ∅ }

def speechRelease : CachedRelease :=
  { releaseUrl := "https://github.com/o/r/releases/tag/v1", assetName := "speech.tar"
    expectedSha256 := some speechArchivePin, expectedLibrarySha256 := some speechLibraryPin
    allowDownload := true }

def speechPublication : Publication :=
  { owner := "o", repo := "r", tag := "v1"
    located := ⟨"checksum.toml", [], releaseDownloadUrl "o" "r" "v1" "speech.tar"⟩
    checksums := speechChecksums, manifestSha := speechArchivePin, archive := [1]
    entries := [(["libspeech.so"], [127, 69, 76, 70])], module := ["libspeech.so"]
    library := [127, 69, 76, 70] }

theorem speechArchive_hex : fileHex speechSha256 [1] = speechArchivePin := by decide

theorem speechLibrary_hex : fileHex speechSha256 [127, 69, 76, 70] = speechLibraryPin := by
  decide

theorem speech_serves : Serves speechWorld speechRelease speechPublication where
  named := by decide
  page := by decide
  allowed := rfl
  works := fun _ => rfl
  located := by rfl
  checksums := by rfl
  manifest := by decide
  digest := by decide
  pinned := by
    intro pin expected
    cases expected
    exact eqIgnoreAsciiCase_refl _
  libraryDigest := by
    intro digest listed
    cases listed
    decide
  libraryListed := by
    intro pin expected
    cases expected
    exact ⟨_, rfl, eqIgnoreAsciiCase_refl _⟩
  sent := by rfl
  bounded := by decide
  archive := by
    change eqIgnoreAsciiCase (fileHex speechSha256 [1]) speechArchivePin = true
    rw [speechArchive_hex]
    exact eqIgnoreAsciiCase_refl _
  unpacked := rfl
  only := by rfl
  library := by rfl
  libraryPinned := by
    intro pin expected
    cases expected
    change eqIgnoreAsciiCase (fileHex speechSha256 [127, 69, 76, 70]) speechLibraryPin = true
    rw [speechLibrary_hex]
    exact eqIgnoreAsciiCase_refl _

theorem speechArchivePin_lower : toAsciiLowercase speechArchivePin = speechArchivePin := by
  decide

/-- An archive and a library of other bytes. -/
def staleCache : CacheDir :=
  (CacheDir.empty.write ["speech.tar"] [0]).write ["libspeech.so"] [0]

theorem speech_acquired : ∃ place sha256 after,
    acquireCached speechWorld speechRelease staleCache = (.ok (place, sha256), after) ∧
      Pinned speechWorld speechRelease after place sha256 := by
  refine (acquireCached_pinned_iff speech_serves staleCache).mpr fun hit proven => ?_
  obtain ⟨archive, found, same⟩ := proven.archive
  have own : hit.sha256 = speechArchivePin :=
    (Option.some.inj proven.digest).symm.trans speechArchivePin_lower
  cases found
  rw [own] at same
  exact absurd same (by decide)

/-- The archive that the host pins, beside a library that is not the one in it. -/
def corruptedCache : CacheDir :=
  (CacheDir.empty.write ["speech.tar"] [1]).write ["libspeech.so"] [0]

theorem speechLibraryPin_hex : isHexSha256 speechLibraryPin = true := by decide

theorem corruptedLibrary_differs :
    eqIgnoreAsciiCase (fileHex speechSha256 [0]) speechLibraryPin = false := by
  rw [Bool.eq_false_iff, Ne, eqIgnoreAsciiCase_iff]
  decide

theorem corruptedCache_proven :
    Proven speechSha256 .other corruptedCache "speech.tar" (some speechArchivePin)
      ⟨["libspeech.so"], speechArchivePin⟩ where
  digest := congrArg some speechArchivePin_lower
  hex := speech_serves.digest
  archive := ⟨[1], by rfl, speechArchive_hex⟩
  only := by rfl
  inside := by rfl
  sidecar := by rfl

/-- The corrupted library is not replaced: every acquisition refuses it again. -/
theorem corruptedCache_refused :
    Serves speechWorld speechRelease speechPublication ∧
      acquireCached speechWorld speechRelease corruptedCache =
        (.error "extracted library hash does not match its release checksum",
          corruptedCache) := by
  have hit := findVerified_eq_some.mpr corruptedCache_proven
  have refused : verifyLibraryDigest speechWorld corruptedCache ["libspeech.so"]
      (some speechLibraryPin) =
        .error "extracted library hash does not match its release checksum" := by
    change agreesWith (fileHex speechSha256 [0]) _ (some speechLibraryPin) = _
    simp [agreesWith, validateHash, ensure, speechLibraryPin_hex, corruptedLibrary_differs, bind,
      Except.bind]
  refine ⟨speech_serves, ?_⟩
  rw [speech_serves.hit hit]
  unfold answerHit
  change (Except.map _ (verifyLibraryDigest speechWorld corruptedCache ["libspeech.so"]
    (some speechLibraryPin)), _) = _
  rw [refused]
  rfl

end TinyBus
