import TinyBus.Error
import TinyBus.ReleaseAcquisition

/-
The candidates of a pinned release, tried in order until the host admits one.  An
installer bundle comes first and decides, unless it is refused for its place only.
The same loop is written twice: once for a plain load, and once for a load with
callbacks that are prepared anew for each candidate.

The candidates that a loader tried are kept beside its result.
-/

namespace TinyBus

/-- One artifact of a release, for one host key. -/
structure ReleasePlan.Asset where
  hostKey : String
  archive : String
  sha256 : String
  librarySha256 : Option String

structure ReleasePlan where
  id : String
  version : String
  releaseUrl : String
  assets : List ReleasePlan.Asset
  installRoot : Place
  bundledRoot : Option Place
  allowDownload : Bool

def artifactDir (root : Place) (id version hostKey : String) : Option Place :=
  if [id, version, hostKey].all isSafePathComponent then some (root ++ [id, version, hostKey])
  else none

/-- What a loader asks of the host: a release in a directory, or the marked library
of a bundle. -/
inductive CandidateLoad where
  | cached (dir : Place) (release : CachedRelease)
  | marked (dir : Place) (archive sha256 : String)

inductive CandidateSource where
  | bundle
  | releaseCache
  deriving DecidableEq

structure Candidate where
  source : CandidateSource
  attempt : CandidateLoad

/-- Which files there are, and what the host makes of each candidate. -/
structure AdmissionOracle (Info : Type) where
  isFile : Place → Bool
  load : Candidate → Except Error Info

/-- How a caller prepares callbacks for an attempt, and how the host retains those
of the admitted module. -/
structure CallbackSupply (Binding : Type) where
  prepare : Nat → Except String Binding
  retain : Binding → Except Error Unit

def PLACEMENT_REFUSALS : List String :=
  ["module directory is writable by another user", "module directory is owned by another user",
    "artifact is writable by another user"]

def isPlacementRefusal : Error → Bool
  | .moduleRefused _ reason =>
      PLACEMENT_REFUSALS.any (fun phrase => phrase.toList.isPrefixOf reason.toList)
  | _ => false

def ReleasePlan.cachedRelease (plan : ReleasePlan) (asset : ReleasePlan.Asset)
    (allowDownload : Bool) : CachedRelease :=
  { releaseUrl := plan.releaseUrl, assetName := asset.archive
    expectedSha256 := some asset.sha256, expectedLibrarySha256 := asset.librarySha256
    allowDownload := allowDownload }

structure BundleScan where
  lastError : String
  foundBundled : Bool
  placementOnly : Bool

def BundleScan.start : BundleScan :=
  { lastError := "", foundBundled := false, placementOnly := true }

/-- An artifact of the bundle is refused. -/
def BundleScan.refused (scan : BundleScan) (error : Error) : BundleScan :=
  { lastError := error.display, foundBundled := true
    placementOnly := scan.placementOnly && isPlacementRefusal error }

def unavailableText (id : String) : String :=
  "module '" ++ id ++ "' is not available for this platform, so the feature it provides is " ++
    "unavailable in this build"

def bundleText (id lastError : String) : String :=
  "module '" ++ id ++ "' could not be loaded from the installer bundle: " ++ lastError ++
    ". Restart the app after repairing the installation"

def localText (id lastError : String) : String :=
  "module '" ++ id ++ "' is unavailable: no usable local artifact is installed and downloads " ++
    "are disabled in configuration (" ++ lastError ++ ")"

def terminalText (id lastError : String) : String :=
  "module '" ++ id ++ "' could not be loaded: " ++ lastError ++
    ". This is terminal for the running process; restart the app to try again"

def retentionText (id : String) (error : Error) : String :=
  "module '" ++ id ++ "' callback retention failed: " ++ error.display

def CACHE_PATH_TEXT : String :=
  "the module's cache path could not be built from its registry entry"

section

variable {Info Binding : Type} (host : AdmissionOracle Info) (callbacks : CallbackSupply Binding)
  (plan : ReleasePlan)

def tryBundled (root : Place) :
    List ReleasePlan.Asset → BundleScan → List Candidate × (BundleScan ⊕ Info)
  | [], scan => ([], .inl scan)
  | asset :: rest, scan =>
      match artifactDir root plan.id plan.version asset.hostKey with
      | none => tryBundled root rest scan
      | some dir =>
          let hasArchive := host.isFile (dir ++ [asset.archive])
          if !hasArchive && !host.isFile (dir ++ digestMarker asset.archive) then
            tryBundled root rest scan
          else
            let candidate : Candidate :=
              ⟨.bundle, if hasArchive then .cached dir (plan.cachedRelease asset false)
                else .marked dir asset.archive asset.sha256⟩
            match host.load candidate with
            | .ok info => ([candidate], .inr info)
            | .error error =>
                let onward := tryBundled root rest (scan.refused error)
                (candidate :: onward.1, onward.2)

def tryReleases : List ReleasePlan.Asset → String → List Candidate × (String ⊕ Info)
  | [], lastError => ([], .inl lastError)
  | asset :: rest, _ =>
      match artifactDir plan.installRoot plan.id plan.version asset.hostKey with
      | none => tryReleases rest CACHE_PATH_TEXT
      | some dir =>
          let candidate : Candidate :=
            ⟨.releaseCache, .cached dir (plan.cachedRelease asset plan.allowDownload)⟩
          match host.load candidate with
          | .ok info => ([candidate], .inr info)
          | .error error =>
              let onward := tryReleases rest error.display
              (candidate :: onward.1, onward.2)

def tryBundle : List Candidate × (BundleScan ⊕ Info) :=
  match plan.bundledRoot with
  | none => ([], .inl .start)
  | some root => tryBundled host plan root plan.assets .start

def tryReleaseCache (lastError : String) : List Candidate × Except String Info :=
  match tryReleases host plan plan.assets lastError with
  | (tried, .inr info) => (tried, .ok info)
  | (tried, .inl last) =>
      (tried, .error
        (if !plan.allowDownload then localText plan.id last else terminalText plan.id last))

def loadFirstAdmitted : List Candidate × Except String Info :=
  if plan.assets.isEmpty then ([], .error (unavailableText plan.id))
  else
    match tryBundle host plan with
    | (tried, .inr info) => (tried, .ok info)
    | (tried, .inl scan) =>
        if scan.foundBundled && scan.placementOnly then
          let onward := tryReleaseCache host plan scan.lastError
          (tried ++ onward.1, onward.2)
        else if scan.foundBundled then (tried, .error (bundleText plan.id scan.lastError))
        else
          let onward := tryReleaseCache host plan scan.lastError
          (tried ++ onward.1, onward.2)

/-- The callbacks of an admitted module are retained. -/
def retained (info : Info) (binding : Binding) : Except String (Info × Binding) :=
  match callbacks.retain binding with
  | .ok () => .ok (info, binding)
  | .error error => .error (retentionText plan.id error)

def tryBundledWith (root : Place) : List ReleasePlan.Asset → Nat → BundleScan →
    List Candidate × Except String ((Nat × BundleScan) ⊕ (Info × Binding))
  | [], attempt, scan => ([], .ok (.inl (attempt, scan)))
  | asset :: rest, attempt, scan =>
      match artifactDir root plan.id plan.version asset.hostKey with
      | none => tryBundledWith root rest attempt scan
      | some dir =>
          let hasArchive := host.isFile (dir ++ [asset.archive])
          let hasMarker := host.isFile (dir ++ digestMarker asset.archive)
          if !hasArchive && !hasMarker then tryBundledWith root rest attempt scan
          else
            let candidate : Candidate :=
              ⟨.bundle, if hasArchive then .cached dir (plan.cachedRelease asset false)
                else .marked dir asset.archive asset.sha256⟩
            match callbacks.prepare attempt with
            | .error reason => ([], .error reason)
            | .ok binding =>
                match host.load candidate with
                | .ok info => ([candidate], (retained callbacks plan info binding).map .inr)
                | .error error =>
                    let onward := tryBundledWith root rest (attempt + 1) (scan.refused error)
                    (candidate :: onward.1, onward.2)

def tryReleasesWith : List ReleasePlan.Asset → Nat → String →
    List Candidate × Except String ((Nat × String) ⊕ (Info × Binding))
  | [], attempt, lastError => ([], .ok (.inl (attempt, lastError)))
  | asset :: rest, attempt, _ =>
      match artifactDir plan.installRoot plan.id plan.version asset.hostKey with
      | none => tryReleasesWith rest attempt CACHE_PATH_TEXT
      | some dir =>
          let candidate : Candidate :=
            ⟨.releaseCache, .cached dir (plan.cachedRelease asset plan.allowDownload)⟩
          match callbacks.prepare attempt with
          | .error reason => ([], .error reason)
          | .ok binding =>
              match host.load candidate with
              | .ok info => ([candidate], (retained callbacks plan info binding).map .inr)
              | .error error =>
                  let onward := tryReleasesWith rest (attempt + 1) error.display
                  (candidate :: onward.1, onward.2)

def tryBundleWith : List Candidate × Except String ((Nat × BundleScan) ⊕ (Info × Binding)) :=
  match plan.bundledRoot with
  | none => ([], .ok (.inl (0, .start)))
  | some root => tryBundledWith host callbacks plan root plan.assets 0 .start

def tryReleaseCacheWith (attempt : Nat) (lastError : String) :
    List Candidate × Except String (Info × Binding) :=
  match tryReleasesWith host callbacks plan plan.assets attempt lastError with
  | (tried, .error reason) => (tried, .error reason)
  | (tried, .ok (.inr found)) => (tried, .ok found)
  | (tried, .ok (.inl (_, last))) =>
      (tried, .error
        (if !plan.allowDownload then localText plan.id last else terminalText plan.id last))

def loadFirstAdmittedWithHostCallbacks : List Candidate × Except String (Info × Binding) :=
  if plan.assets.isEmpty then ([], .error (unavailableText plan.id))
  else
    match tryBundleWith host callbacks plan with
    | (tried, .error reason) => (tried, .error reason)
    | (tried, .ok (.inr found)) => (tried, .ok found)
    | (tried, .ok (.inl (attempt, scan))) =>
        if scan.foundBundled && !scan.placementOnly then
          (tried, .error (bundleText plan.id scan.lastError))
        else
          let onward := tryReleaseCacheWith host callbacks plan attempt scan.lastError
          (tried ++ onward.1, onward.2)

end

end TinyBus
