import TinyBus.Digest
import TinyBus.Value
import TinyBus.Library.Table

/-
Storage for release artifacts: a directory with an archive, the digest that its
release manifest published, one extracted module and perhaps an allowlist.  A
lookup proves what it finds before it answers.
-/

namespace TinyBus

/-- The components of a path below a directory. -/
abbrev Place := List String

abbrev Content := List UInt8

/-- An entry of a directory.  A symbolic link leads out of the directory; a file
without content cannot be read, and some directories cannot be listed. -/
inductive Entry where
  | file (content : Option Content)
  | link (content : Option Content)
  | dir (listable : Bool)

/-- A directory with all that is below it; it is at `[]` itself. -/
abbrev CacheDir := Table Place Entry

inductive Platform where
  | windows
  | macos
  | other

namespace CacheDir

def isFile (dir : CacheDir) (place : Place) : Bool :=
  match dir.lookup place with
  | some (.file _) => true
  | some (.link _) => true
  | _ => false

def isDir (dir : CacheDir) (place : Place) : Bool :=
  match dir.lookup place with
  | some (.dir _) => true
  | _ => false

def read (dir : CacheDir) (place : Place) : Option Content :=
  match dir.lookup place with
  | some (.file content) => content
  | some (.link content) => content
  | _ => none

def readToString (dir : CacheDir) (place : Place) : Option String :=
  (dir.read place).bind (fun content => String.fromUTF8? ⟨content.toArray⟩)

def readDir (dir : CacheDir) (place : Place) : Option (List Place) :=
  match dir.lookup place with
  | some (.dir true) =>
      some (dir.keys.filter (fun entry => entry != [] && entry.dropLast == place))
  | _ => none

def canonicalize (dir : CacheDir) (place : Place) : Option Place :=
  match dir.lookup place with
  | some (.link _) => none
  | some _ => some place
  | none => none

end CacheDir

def toAsciiLowercase (text : String) : String := String.ofList (text.toList.map Char.toLower)

def libraryExtension : Platform → String
  | .windows => "dll"
  | .macos => "dylib"
  | .other => "so"

def splitExtension (name : List Char) : List Char × Option (List Char) :=
  match name.reverse.dropWhile (· != '.') with
  | [] => (name, none)
  | [_] => (name, none)
  | _ :: stem => (stem.reverse, some (name.reverse.takeWhile (· != '.')).reverse)

def fileName (place : Place) : List Char := (place.getLast?.getD "").toList

def isPlatformModule (host : Platform) (place : Place) : Bool :=
  (splitExtension (fileName place)).2 == some (libraryExtension host).toList

def isQuote (c : Char) : Bool := c.toNat = 0x22 || c.toNat = 0x27

def trimQuotes (characters : List Char) : List Char :=
  ((characters.dropWhile isQuote).reverse.dropWhile isQuote).reverse

/-- A line `key = "value"`; a comment, an empty line and a section header are none. -/
def parseAllowlistLine (source : List Char) : Option (List Char × List Char) :=
  let line := trimChars (source.takeWhile (· != '#'))
  if line.isEmpty || line.head? == some '[' then none
  else
    match line.dropWhile (· != '=') with
    | [] => none
    | _ :: value =>
        some (trimQuotes (trimChars (line.takeWhile (· != '='))),
          (trimQuotes (trimChars value)).map Char.toLower)

def parseAllowlist (source : String) : List (List Char × List Char) :=
  (source.toList.splitOn '\n').filterMap parseAllowlistLine

/-- The first digest under the name of a module, or under its stem. -/
def allowlisted (source : String) (place : Place) : Option String :=
  let name := fileName place
  ((parseAllowlist source).find? (fun entry =>
    entry.1 == name || entry.1 == (splitExtension name).1)).map
      (fun entry => String.ofList entry.2)

def allowlistBeside (place : Place) : Place := place.dropLast ++ ["modules.toml"]

def digestMarker (assetName : String) : Place := [assetName ++ ".sha256"]

def gather (visit : Place → Option (List Place)) : List Place → Option (List Place)
  | [] => some []
  | entry :: rest =>
      (visit entry).bind (fun found => (gather visit rest).map (fun later => found ++ later))

/-- The modules below a place.  The fuel is the number of levels still below. -/
def collectModules (host : Platform) (dir : CacheDir) : Nat → Place → Option (List Place)
  | 0, _ => none
  | levels + 1, place =>
      (dir.readDir place).bind (gather (fun entry =>
        if dir.isDir entry then collectModules host dir levels entry
        else if isPlatformModule host entry then some [entry]
        else some []))

def depth (dir : CacheDir) : Nat := (dir.keys.map List.length).foldl max 0

/-- A release names exactly one library. -/
def findModule (host : Platform) (dir : CacheDir) : Except String Place :=
  match collectModules host dir (depth dir + 1) [] with
  | none => .error "release archive could not be inspected"
  | some [module] => .ok module
  | some [] => .error "release archive contains no platform module"
  | some _ => .error "release archive contains multiple platform modules"

/-- No allowlist is not a disagreement. -/
def sidecarMatches (sha256 : Sha256) (dir : CacheDir) (module : Place) : Bool :=
  match dir.lookup (allowlistBeside module) with
  | none => true
  | some _ =>
      match dir.readToString (allowlistBeside module) with
      | none => false
      | some source =>
          match allowlisted source module with
          | none => false
          | some expected =>
              isHexSha256 expected && (dir.read module).any
                (fun content => fileHex sha256 content == expected)

def usableExtraction (sha256 : Sha256) (host : Platform) (dir : CacheDir) : Option Place :=
  match findModule host dir with
  | .error _ => none
  | .ok found =>
      match dir.canonicalize found with
      | none => none
      | some module => if sidecarMatches sha256 dir module then some module else none

def readDigestMarker (dir : CacheDir) (assetName : String) : Option String :=
  (dir.readToString (digestMarker assetName)).bind (fun recorded =>
    if isHexSha256 (toAsciiLowercase (trim recorded)) then
      some (toAsciiLowercase (trim recorded))
    else none)

structure CachedArtifact where
  module : Place
  sha256 : String

def expectedDigest (dir : CacheDir) (assetName : String) : Option String → Option String
  | some pin => some (toAsciiLowercase pin)
  | none => readDigestMarker dir assetName

def findVerified (sha256 : Sha256) (host : Platform) (dir : CacheDir) (assetName : String)
    (expectedSha256 : Option String) : Option CachedArtifact :=
  if !dir.isFile [assetName] then none
  else
    match expectedDigest dir assetName expectedSha256 with
    | none => none
    | some expected =>
        if !isHexSha256 expected then none
        else
          match dir.read [assetName] with
          | none => none
          | some archive =>
              if fileHex sha256 archive != expected then none
              else
                (usableExtraction sha256 host dir).map
                  (fun module => { module := module, sha256 := expected })

end TinyBus
