/-
Interface versions, the ranges peers accept, and the manifest a peer
announces about itself.
-/

import Mathlib.Algebra.Group.Nat.Defs
import TinyBus.Error

namespace TinyBus

structure Version where
  major : UInt64
  minor : UInt64
  patch : UInt64
  tag : Option String
  deriving DecidableEq

/-- Decimal digits, with one leading `+` allowed, that fit 64 bits. -/
def parseU64 (digits : List Char) : Option UInt64 :=
  let body := match digits with
    | '+' :: rest => rest
    | other => other
  if isDigitRun body then
    let value := Nat.ofDigitChars 10 body 0
    if value < 2 ^ 64 then some (UInt64.ofNat value) else none
  else none

namespace Version

def isTagStart (c : Char) : Bool := c == '-' || c == '+'

/-- Split off everything after the first `-` or `+`. -/
def splitTag (input : List Char) : List Char × Option String :=
  match input.dropWhile (fun c => !isTagStart c) with
  | [] => (input, none)
  | _ :: tag => (input.takeWhile (fun c => !isTagStart c), some (String.ofList tag))

def parse (input : String) : Except InvalidName Version :=
  let (core, tag) := splitTag input.toList
  match core.splitOn '.' with
  | [major, minor, patch] =>
      match parseU64 major, parseU64 minor, parseU64 patch with
      | some major, some minor, some patch => .ok ⟨major, minor, patch, tag⟩
      | _, _, _ => .error ⟨"version", input, "each component must be a number"⟩
  | _ => .error ⟨"version", input, "expected major.minor.patch"⟩

def text (version : Version) : String :=
  toString version.major.toNat ++ "." ++ toString version.minor.toNat ++ "." ++
    toString version.patch.toNat ++
      match version.tag with
      | some tag => "-" ++ tag
      | none => ""

/-- The first version that breaks compatibility with this one. -/
def nextBreaking (version : Version) : Version :=
  if version.major = 0 then ⟨0, version.minor + 1, 0, none⟩
  else ⟨version.major + 1, 0, 0, none⟩

end Version

structure VersionRange where
  min : Version
  maxExclusive : Option Version
  deriving DecidableEq

/-- What a consumer of this version accepts. -/
def Version.caret (version : Version) : VersionRange :=
  ⟨⟨version.major, version.minor, version.patch, none⟩,
    some version.nextBreaking⟩

namespace VersionRange

def clausesError (input : String) : InvalidName :=
  ⟨"version range", input, "clauses must be `>=x.y.z` or `<x.y.z`"⟩

def parseClauses (input : String) (min max : Option Version) :
    List String → Except InvalidName VersionRange
  | [] =>
      match min with
      | some min => .ok ⟨min, max⟩
      | none => .error ⟨"version range", input, "needs a `>=` lower bound"⟩
  | clause :: rest =>
      match (trim clause).toList with
      | '>' :: '=' :: bound =>
          match Version.parse (trim (String.ofList bound)) with
          | .ok version => parseClauses input (some version) max rest
          | .error refusal => .error refusal
      | '<' :: bound =>
          match Version.parse (trim (String.ofList bound)) with
          | .ok version => parseClauses input min (some version) rest
          | .error refusal => .error refusal
      | _ => .error (clausesError input)

def parse (whole : String) : Except InvalidName VersionRange :=
  let input := trim whole
  match input.toList with
  | '^' :: rest => (Version.parse (trim (String.ofList rest))).map Version.caret
  | characters =>
      if characters.any (fun c => c == '<' || c == '>' || c == '=') then
        parseClauses input none none
          ((characters.splitOn ',').map String.ofList)
      else
        (Version.parse input).map Version.caret

def text (range : VersionRange) : String :=
  ">=" ++ range.min.text ++
    match range.maxExclusive with
    | some max => ", <" ++ max.text
    | none => ""

end VersionRange

/-- What a peer speaks, and will accept, for one interface. -/
structure InterfaceVersion where
  interface : InterfaceName
  speaks : Version
  accepts : VersionRange
  deriving DecidableEq

/-- Everything a peer says about itself. -/
structure PeerManifest where
  name : String
  version : Option Version
  provides : List InterfaceVersion
  consumes : List InterfaceVersion
  deriving DecidableEq

structure PeerRecord where
  peer : BusName
  names : List BusName
  manifest : PeerManifest
  deriving DecidableEq

def decodeField {α : Type} (fields : List (String × Value)) (key : String)
    (decode : Decoder α) : Except String (Option α) :=
  match Value.field? fields key with
  | some value => (decode value).map some
  | none => .ok none

def requireField {α : Type} (key : String) : Option α → Except String α
  | some value => .ok value
  | none => .error ("missing field `" ++ key ++ "`")

def decodeElement {α : Type} (items : List Value) (index : Nat)
    (decode : Decoder α) (default : Option α) (expected : String) :
    Except String α :=
  match items[index]?, default with
  | some value, _ => decode value
  | none, some absent => .ok absent
  | none, none => .error (invalidLength index expected)

def InterfaceVersion.decode : Decoder InterfaceVersion
  | .object fields => do
      -- Present fields are read in key order, absent ones reported in the
      -- order of declaration.
      let accepts ← decodeField fields "accepts" (Decoder.tryFrom VersionRange.parse)
      let interface ← decodeField fields "interface" (Decoder.tryFrom InterfaceName.new)
      let speaks ← decodeField fields "speaks" (Decoder.tryFrom Version.parse)
      let interface ← requireField "interface" interface
      let speaks ← requireField "speaks" speaks
      let accepts ← requireField "accepts" accepts
      return ⟨interface, speaks, accepts⟩
  | .array items => do
      let expected := "struct InterfaceVersion with 3 elements"
      let interface ← decodeElement items 0
        (Decoder.tryFrom InterfaceName.new) none expected
      let speaks ← decodeElement items 1 (Decoder.tryFrom Version.parse) none expected
      let accepts ← decodeElement items 2
        (Decoder.tryFrom VersionRange.parse) none expected
      if items.length ≤ 3 then return ⟨interface, speaks, accepts⟩
      else throw (invalidLength items.length "fewer elements in array")
  | value => .error (invalidType value "struct InterfaceVersion")

def PeerManifest.decode : Decoder PeerManifest
  | .object fields => do
      let consumes ← decodeField fields "consumes" (Decoder.list InterfaceVersion.decode)
      let name ← decodeField fields "name" Decoder.string
      let provides ← decodeField fields "provides" (Decoder.list InterfaceVersion.decode)
      let version ← decodeField fields "version"
        (Decoder.optional (Decoder.tryFrom Version.parse))
      return ⟨name.getD "", version.getD none, provides.getD [], consumes.getD []⟩
  | .array items => do
      let expected := "struct PeerManifest with 4 elements"
      let name ← decodeElement items 0 Decoder.string (some "") expected
      let version ← decodeElement items 1
        (Decoder.optional (Decoder.tryFrom Version.parse)) (some none) expected
      let provides ← decodeElement items 2
        (Decoder.list InterfaceVersion.decode) (some []) expected
      let consumes ← decodeElement items 3
        (Decoder.list InterfaceVersion.decode) (some []) expected
      if items.length ≤ 4 then return ⟨name, version, provides, consumes⟩
      else throw (invalidLength items.length "fewer elements in array")
  | value => .error (invalidType value "struct PeerManifest")

def BusName.toValue (name : BusName) : Value := .string name.text

def InterfaceVersion.toValue (version : InterfaceVersion) : Value :=
  .object
    [("accepts", .string version.accepts.text),
      ("interface", .string version.interface.text),
      ("speaks", .string version.speaks.text)]

def present (fields : List (String × Option Value)) : List (String × Value) :=
  fields.filterMap (fun field => field.2.map (field.1, ·))

def nonEmptyArray (items : List Value) : Option Value :=
  if items.isEmpty then none else some (.array items)

def PeerManifest.toValue (manifest : PeerManifest) : Value :=
  .object (present
    [("consumes", nonEmptyArray (manifest.consumes.map InterfaceVersion.toValue)),
      ("name", some (.string manifest.name)),
      ("provides", nonEmptyArray (manifest.provides.map InterfaceVersion.toValue)),
      ("version", manifest.version.map (fun version => .string version.text))])

def PeerRecord.toValue (record : PeerRecord) : Value :=
  .object
    [("manifest", record.manifest.toValue),
      ("names", .array (record.names.map BusName.toValue)),
      ("peer", record.peer.toValue)]

end TinyBus
