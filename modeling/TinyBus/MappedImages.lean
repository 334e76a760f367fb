import TinyBus.Library.Transition
import TinyBus.Library.Table
import TinyBus.Digest
import TinyBus.ModuleHost
import TinyBus.VersionOrder

/-
The platform loader.  A library is hashed, compared with the pin of its call
and mapped; the table of mapped images keeps for each handle what the file
hashed to and the pin of the call that mapped it first.  Handles are never
closed, so an entry of the table is never replaced.
-/

namespace TinyBus

open TransitionSystem

structure TbAbiDescriptor where
  magic : UInt64
  abiRevision : UInt32
  descriptorSize : UInt32
  flags : UInt32
  pointerWidth : UInt32
  tinybusMajor : UInt32
  tinybusMinor : UInt32
  tinybusPatch : UInt32
  tinybusFeatureBits : UInt64
  targetTriple : Vector UInt8 64
  rustcVersion : Vector UInt8 48
  moduleName : Vector UInt8 64
  moduleVersion : Vector UInt8 32

/-- What the build of the host fixes. -/
structure HostBuild where
  pointerWidth : UInt32
  littleEndian : Bool
  target : List UInt8
  rustcVersion : List UInt8
  version : Version
  featureBits : UInt64

/-- The bytes `TBUSMOD\x01`, read as a little-endian number. -/
def ABI_MAGIC : UInt64 := 0x01444f4d53554254
def ABI_REVISION : UInt32 := 1
def DESCRIPTOR_PREFIX_SIZE : UInt32 := 16
def MAX_DESCRIPTOR_SIZE : UInt32 := 4096

def DESCRIPTOR_SIZE : UInt32 := 256

def MAX_MANIFEST_BYTES : Nat := 1024 * 1024

/-- The bytes of a field up to its padding. -/
def fieldBytes {size : Nat} (field : Vector UInt8 size) : List UInt8 :=
  field.toList.takeWhile (· ≠ 0)

def featureName (bit : UInt64) : String :=
  if bit = 1 then "uds"
  else if bit = 2 then "macros"
  else if bit = 4 then "cli"
  else if bit = 8 then "modules"
  else "unknown"

def refuseFirst (path : String) (checks : List (Bool × String)) : Except Error Unit :=
  match checks.find? Prod.fst with
  | some (_, reason) => .error (.moduleRefused path reason)
  | none => .ok ()

def gatePrefix (path : String) (magic : UInt64) (abiRevision descriptorSize : UInt32) :
    Except Error Unit :=
  refuseFirst path
    [(magic ≠ ABI_MAGIC, "ABI magic does not match"),
      (abiRevision ≠ ABI_REVISION, "ABI revision does not match"),
      (descriptorSize < DESCRIPTOR_PREFIX_SIZE ∨ MAX_DESCRIPTOR_SIZE < descriptorSize,
        "descriptor size is invalid"),
      (descriptorSize < DESCRIPTOR_SIZE, "descriptor is too small")]

/-- The checks of the whole descriptor.  A reason is kept word by word, each
without punctuation and cut off. -/
def descriptorChecks (host : HostBuild) (descriptor : TbAbiDescriptor) (strict : Bool) :
    List (Bool × String) :=
  let moduleVersion : Version := ⟨descriptor.tinybusMajor.toUInt64,
    descriptor.tinybusMinor.toUInt64, descriptor.tinybusPatch.toUInt64, none⟩
  let missingFeatures := descriptor.tinybusFeatureBits &&& ~~~host.featureBits
  let lowestMissing := missingFeatures &&& (0 - missingFeatures)
  [(descriptor.pointerWidth ≠ host.pointerWidth, "pointer width does not match"),
    (decide (descriptor.flags &&& 4 ≠ 0) != host.littleEndian,
      "target endianness does not match"),
    (fieldBytes descriptor.targetTriple ≠ host.target, "target triple does not match"),
    (descriptor.flags &&& 1 = 0, "module was built with panic abort"),
    (!host.version.compatibleSeries.accepts moduleVersion,
      "tinybus version is incompatible host " ++ sanitizeUntrusted host.version.text ++
        " module " ++ sanitizeUntrusted moduleVersion.text),
    (missingFeatures ≠ 0,
      "module requires unavailable tinybus feature " ++ featureName lowestMissing),
    (strict && fieldBytes descriptor.rustcVersion ≠ host.rustcVersion,
      "rustc version does not match in strict mode")]

def gateDescriptor (host : HostBuild) (path : String) (descriptor : TbAbiDescriptor)
    (strict : Bool) : Except Error Unit := do
  gatePrefix path descriptor.magic descriptor.abiRevision descriptor.descriptorSize
  refuseFirst path (descriptorChecks host descriptor strict)

/-- `bytes` is absent for a null pointer. -/
def manifestFrom (parse : List UInt8 → Option ModuleManifest) (path : String)
    (bytes : Option (List UInt8)) : Except Error ModuleManifest :=
  match bytes with
  | none => .error (.moduleRefused path "manifest bytes are invalid")
  | some bytes =>
      if MAX_MANIFEST_BYTES < bytes.length then
        .error (.moduleRefused path "manifest bytes are invalid")
      else
        match parse bytes with
        | some manifest => .ok manifest
        | none => .error (.moduleRefused path "manifest is not valid JSON")

structure MappedImage where
  fileSha256 : String
  trustedLibrarySha256 : Option String

abbrev MappedImages := Table Nat MappedImage

def recordMappedImage (images : MappedImages) (handle : Nat) (fileSha256 : String)
    (expectedLibrarySha256 : Option String) :
    Except String (Option String) × MappedImages :=
  match images.lookup handle with
  | some mapped =>
      if mapped.fileSha256 ≠ fileSha256 then
        (.error "mapped library bytes differ from the original image", images)
      else if expectedLibrarySha256.any
          (fun expected => mapped.trustedLibrarySha256 ≠ some expected) then
        (.error "mapped image has no matching library digest proof", images)
      else (.ok expectedLibrarySha256, images)
  | none =>
      (.ok expectedLibrarySha256, images.insert handle ⟨fileSha256, expectedLibrarySha256⟩)

inductive LibraryFile where
  | absent
  | unreadable
  | bytes (contents : List UInt8)

/-- What the symbols of an image answer; `manifest` is absent where its symbol is. -/
structure Exports where
  descriptor : Option TbAbiDescriptor
  manifest : Option (Option (List UInt8))
  init : Bool

/-- A call with the file that it finds, the handle or the refusal of the
platform and the symbols of the image under that handle; `path` is the file
name that errors give. -/
structure LibraryLoad where
  path : String
  strict : Bool
  expectedLibrarySha256 : Option String
  file : LibraryFile
  opened : Except Error Nat
  exports : Exports

structure LoadedArtifact where
  descriptor : TbAbiDescriptor
  manifest : ModuleManifest
  librarySha256 : Option String

namespace LibraryLoad

def refused (call : LibraryLoad) (reason : String) : Error := .moduleRefused call.path reason

def checkedSha256 (sha256 : Sha256) (call : LibraryLoad) : Except Error String :=
  match call.file with
  | .absent => .error (call.refused "dynamic loader rejected the artifact")
  | .unreadable => .error (call.refused "module library could not be hashed")
  | .bytes contents =>
      match call.expectedLibrarySha256 with
      | none => .ok (fileHex sha256 contents)
      | some expected =>
          if !isHexSha256 expected then .error (call.refused "library digest pin is invalid")
          else if !eqIgnoreAsciiCase (fileHex sha256 contents) expected then
            .error (call.refused "module library hash does not match its pin")
          else .ok (fileHex sha256 contents)

/-- What the symbols must answer once the image is recorded. -/
def exported (host : HostBuild) (parse : List UInt8 → Option ModuleManifest)
    (call : LibraryLoad) : Except Error (TbAbiDescriptor × ModuleManifest) :=
  let missing := call.refused "required ABI symbol is missing"
  match call.exports.descriptor with
  | none => .error missing
  | some descriptor => do
      gatePrefix call.path descriptor.magic descriptor.abiRevision descriptor.descriptorSize
      gateDescriptor host call.path descriptor call.strict
      match call.exports.manifest with
      | none => throw missing
      | some bytes =>
          let manifest ← manifestFrom parse call.path bytes
          if call.exports.init then return (descriptor, manifest) else throw missing

end LibraryLoad

def loadVerified (sha256 : Sha256) (host : HostBuild)
    (parse : List UInt8 → Option ModuleManifest) (images : MappedImages)
    (call : LibraryLoad) : Except Error LoadedArtifact × MappedImages :=
  match call.checkedSha256 sha256 with
  | .error refusal => (.error refusal, images)
  | .ok actualSha256 =>
      match call.opened with
      | .error refusal => (.error refusal, images)
      | .ok handle =>
          match recordMappedImage images handle actualSha256 call.expectedLibrarySha256 with
          | (.error reason, images) => (.error (call.refused reason), images)
          | (.ok librarySha256, images) =>
              ((call.exported host parse).map
                (fun (descriptor, manifest) => ⟨descriptor, manifest, librarySha256⟩), images)

/-- The calls of `load_verified` one after another: the table is locked from
the hashing of the file to the record of its image. -/
def libraryLoads (sha256 : Sha256) (host : HostBuild)
    (parse : List UInt8 → Option ModuleManifest) : System MappedImages LibraryLoad :=
  System.ofFunction (· = ∅) (fun images call => (loadVerified sha256 host parse images call).2)

end TinyBus
