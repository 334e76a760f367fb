import TinyBus.ReleaseCache

/-
Acquisition of a release through a persistent cache.  A lookup that proves what it
finds answers without the network; otherwise the release is downloaded beside the
directory, verified, extracted and moved into its place.
-/

namespace TinyBus

inductive WebError where
  | status (code : Nat)
  | other
  deriving DecidableEq

structure ReleaseAsset where
  name : String
  browserDownloadUrl : String

/-- The tables of a checksum manifest: archives and libraries by asset. -/
structure Checksums where
  sha256 : List (String × String)
  librarySha256 : List (String × String)

inductive FileOp where
  | stage
  | restrict
  | store
  | extract
  | marker
  | remove
  | rename
  | canonicalize
  deriving DecidableEq

/-- What an acquisition meets: the platform, the hash function, the network, the
parsers of other formats, and which operations on files succeed.  A removal that
fails leaves something of the old directory. -/
structure World where
  host : Platform
  sha256 : Sha256
  send : String → Option String → Except WebError Content
  listing : Content → Option (List ReleaseAsset)
  toml : Content → Option Checksums
  json : Content → Option Value
  unpack : String → Content → Except String (List (Place × Content))
  works : FileOp → Bool
  leftover : CacheDir

structure CachedRelease where
  releaseUrl : String
  assetName : String
  expectedSha256 : Option String
  expectedLibrarySha256 : Option String
  allowDownload : Bool

structure Located where
  manifestName : String
  manifest : Content
  archiveUrl : String

def MAX_RELEASE_BYTES : Nat := 512 * 1024 * 1024
def MAX_METADATA_BYTES : Nat := 4 * 1024 * 1024
def CHECKSUM_NAMES : List String := ["checksum.toml", "checksum.json"]

def ensure (holds : Bool) (reason : String) : Except String Unit :=
  if holds then .ok () else .error reason

def isSafePathComponent (component : String) : Bool :=
  component != "" && component != "." && component != ".." &&
    !component.toList.contains '/' && !component.toList.contains '\\' &&
      !component.toList.contains (Char.ofNat 0) && !component.toList.contains ':' &&
        component.toList.head? != some '.'

def checkAssetName (assetName : String) : Except String Unit :=
  ensure (isSafePathComponent assetName)
    ("release asset name `" ++ assetName ++ "` is not a plain file name")

/-- Owner, repository and tag of a release page. -/
def parseReleaseUrl (url : String) : Except String (String × String × String) :=
  match List.isPrefixOf? "https://github.com/".toList url.toList with
  | none => .error "GitHub release URL must use https"
  | some rest =>
      let parts := (rest.reverse.dropWhile (· == '/')).reverse.splitOn '/'
      let part (index : Nat) := (parts[index]?).filter (fun value => !value.isEmpty)
      if parts[2]? != some "releases".toList || parts[3]? != some "tag".toList then
        .error "GitHub URL must point to a release tag"
      else if parts[5]?.isSome then .error "GitHub release URL has an invalid path"
      else
        match part 0, part 1, part 4 with
        | some owner, some repo, some tag =>
            .ok (String.ofList owner, String.ofList repo, String.ofList tag)
        | _, _, _ => .error "GitHub release URL is incomplete"

def releaseDownloadUrl (owner repo tag assetName : String) : String :=
  "https://github.com/" ++ owner ++ "/" ++ repo ++ "/releases/download/" ++ tag ++ "/" ++ assetName

def readMetadata (body : Content) : Except String Content :=
  if body.length > MAX_METADATA_BYTES then
    .error "GitHub release metadata exceeds the size cap"
  else .ok body

def locateDirect (world : World) (owner repo tag assetName : String) :
    List String → Except String (Option Located)
  | [] => .ok none
  | name :: rest =>
      match world.send (releaseDownloadUrl owner repo tag name) none with
      | .ok body =>
          (readMetadata body).map (fun manifest =>
            some ⟨name, manifest, releaseDownloadUrl owner repo tag assetName⟩)
      | .error error =>
          if error = .status 404 then locateDirect world owner repo tag assetName rest
          else .error "release checksum manifest could not be downloaded"

def assetNamed (assets : List ReleaseAsset) (name : String) : Option ReleaseAsset :=
  assets.reverse.find? (fun asset => asset.name == name)

def locateListed (world : World) (owner repo tag assetName : String) : Except String Located :=
  match world.send
      ("https://api.github.com/repos/" ++ owner ++ "/" ++ repo ++ "/releases/tags/" ++ tag)
      (some "application/vnd.github+json") with
  | .error _ => .error "GitHub release metadata could not be downloaded"
  | .ok body => do
      let metadata ← readMetadata body
      let assets ← (world.listing metadata).elim (.error "GitHub release metadata is invalid") .ok
      let archive ← (assetNamed assets assetName).elim
        (.error "requested release asset is missing") .ok
      let checksum ← (CHECKSUM_NAMES.findSome? (assetNamed assets)).elim
        (.error "release checksum manifest is missing") .ok
      match world.send checksum.browserDownloadUrl none with
      | .error _ => .error "release checksum manifest could not be downloaded"
      | .ok listed =>
          (readMetadata listed).map (fun manifest =>
            ⟨checksum.name, manifest, archive.browserDownloadUrl⟩)

def locate (world : World) (owner repo tag assetName : String) : Except String Located :=
  match locateDirect world owner repo tag assetName CHECKSUM_NAMES with
  | .error reason => .error reason
  | .ok (some located) => .ok located
  | .ok none => locateListed world owner repo tag assetName

def stringTable : Value → Option (List (String × String))
  | .object fields =>
      fields.mapM (fun field =>
        match field.2 with
        | .string text => some (field.1, text)
        | _ => none)
  | _ => none

def member (value : Value) (key : String) : Option Value :=
  match value with
  | .object fields => Value.field? fields key
  | _ => none

def parseChecksums (world : World) (name : String) (bytes : Content) :
    Except String Checksums :=
  if ".toml".toList.isSuffixOf name.toList then
    (world.toml bytes).elim (.error "checksum.toml is invalid") .ok
  else
    match world.json bytes with
    | none => .error "checksum.json is invalid"
    | some value =>
        match stringTable ((member value "sha256").getD value) with
        | none => .error "checksum.json has an invalid shape"
        | some sha256 =>
            match stringTable ((member value "library_sha256").getD (.object [])) with
            | none => .error "checksum.json has an invalid library digest shape"
            | some librarySha256 => .ok { sha256 := sha256, librarySha256 := librarySha256 }

def validateHash (hash : String) : Except String Unit :=
  ensure (isHexSha256 hash) "checksum is not a SHA-256 digest"

def agreesWith (digest : String) (reason : String) : Option String → Except String Unit
  | none => .ok ()
  | some expected => do
      validateHash expected
      ensure (eqIgnoreAsciiCase digest expected) reason

def manifestDigest (checksums : Checksums) (assetName : String)
    (expectedSha256 : Option String) : Except String String :=
  match checksums.sha256.lookup assetName with
  | none => .error "release asset is absent from its checksum manifest"
  | some manifestSha => do
      validateHash manifestSha
      agreesWith manifestSha "host checksum disagrees with release checksum" expectedSha256
      .ok (toAsciiLowercase manifestSha)

def manifestLibraryDigest (checksums : Checksums) (assetName : String)
    (expected : Option String) : Except String (Option String) :=
  match checksums.librarySha256.lookup assetName with
  | none =>
      if expected.isSome then
        .error "release asset has no library digest in its checksum manifest"
      else .ok none
  | some digest => do
      validateHash digest
      agreesWith digest "host library checksum disagrees with release checksum" expected
      .ok (some (toAsciiLowercase digest))

def CacheDir.empty : CacheDir := (∅ : CacheDir).insert [] (.dir true)

/-- A file is written, and the directories above it with it. -/
def CacheDir.write (dir : CacheDir) (place : Place) (content : Content) : CacheDir :=
  (((List.range place.length).map place.take).foldl
    (fun built parent => if built.isDir parent then built else built.insert parent (.dir true))
      dir).insert place (.file (some content))

def extracted (archive : CacheDir) (entries : List (Place × Content)) : CacheDir :=
  entries.foldl (fun dir entry => dir.write entry.1 entry.2) archive

def download (world : World) (url : String) : Except String Content :=
  match world.send url none with
  | .error _ => .error "GitHub release asset could not be downloaded"
  | .ok body => do
      ensure (world.works .store) "release asset could not be stored"
      ensure (body.length ≤ MAX_RELEASE_BYTES) "GitHub release asset exceeds the 512 MiB size cap"
      .ok body

def verifyArchive (world : World) (archive : Content) (manifestSha : String) :
    Except String Unit :=
  ensure (eqIgnoreAsciiCase (fileHex world.sha256 archive) manifestSha)
    "release asset hash does not match its checksum manifest"

def verifyLibraryDigest (world : World) (dir : CacheDir) (module : Place)
    (expected : Option String) : Except String Unit :=
  match dir.read module with
  | none => .error "release library could not be read"
  | some content =>
      agreesWith (fileHex world.sha256 content)
        "extracted library hash does not match its release checksum" expected

structure Staging where
  dir : CacheDir
  relative : Place
  manifestSha : String

/-- The part of `acquire_cached` from the manifest to the staged directory. -/
def stageRelease (world : World) (release : CachedRelease) (owner repo tag : String) :
    Except String Staging := do
  let located ← locate world owner repo tag release.assetName
  let checksums ← parseChecksums world located.manifestName located.manifest
  let manifestSha ← manifestDigest checksums release.assetName release.expectedSha256
  let _ ← manifestLibraryDigest checksums release.assetName release.expectedLibrarySha256
  ensure (world.works .stage) "release staging directory could not be created"
  ensure (world.works .restrict)
    "release extraction directory permissions could not be secured"
  let archive ← download world located.archiveUrl
  verifyArchive world archive manifestSha
  let entries ← world.unpack release.assetName archive
  ensure (world.works .extract) "release archive extraction failed"
  let dir := extracted (CacheDir.empty.write [release.assetName] archive) entries
  let module ← findModule world.host dir
  verifyLibraryDigest world dir module release.expectedLibrarySha256
  ensure (world.works .marker) "release digest marker could not be written"
  .ok
    { dir := dir.write (digestMarker release.assetName) (manifestSha ++ "\n").toUTF8.toList
      relative := module
      manifestSha := manifestSha }

/-- What was at `dir` is removed, and the staging directory is renamed over it. -/
def commit (world : World) (staged dir : CacheDir) : Except String Unit × CacheDir :=
  if !world.works .remove && (dir.lookup []).isSome then
    (.error "previous release directory could not be replaced", world.leftover)
  else if !world.works .rename then
    (.error "verified release could not be moved into place", ∅)
  else (.ok (), staged)

def answerHit (world : World) (release : CachedRelease) (dir : CacheDir)
    (hit : CachedArtifact) : Except String (Place × String) :=
  (verifyLibraryDigest world dir hit.module release.expectedLibrarySha256).map
    (fun _ => (hit.module, hit.sha256))

def commitOrReuse (world : World) (release : CachedRelease) (dir : CacheDir)
    (staging : Staging) : Except String (Place × String) × CacheDir :=
  match findVerified world.sha256 world.host dir release.assetName release.expectedSha256 with
  | some hit => (answerHit world release dir hit, dir)
  | none =>
      match commit world staging.dir dir with
      | (.error reason, after) =>
          match findVerified world.sha256 world.host after release.assetName
              release.expectedSha256 with
          | some hit => (answerHit world release after hit, after)
          | none => (.error reason, after)
      | (.ok (), after) =>
          (if world.works .canonicalize then .ok (staging.relative, staging.manifestSha)
            else .error "release module path could not be canonicalized", after)

/-- The answer is the module's place and the digest of its archive; the directory
is what the acquisition leaves. -/
def acquireCached (world : World) (release : CachedRelease) (dir : CacheDir) :
    Except String (Place × String) × CacheDir :=
  match checkAssetName release.assetName, parseReleaseUrl release.releaseUrl with
  | .error reason, _ => (.error reason, dir)
  | .ok (), .error reason => (.error reason, dir)
  | .ok (), .ok (owner, repo, tag) =>
      match findVerified world.sha256 world.host dir release.assetName
          release.expectedSha256 with
      | some hit => (answerHit world release dir hit, dir)
      | none =>
          if !release.allowDownload then
            (.error "release is not cached and downloads are disabled", dir)
          else
            match stageRelease world release owner repo tag with
            | .error reason => (.error reason, dir)
            | .ok staging => commitOrReuse world release dir staging

end TinyBus
