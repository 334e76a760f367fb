import TinyBus.AccountTables
import TinyBus.Error

/-
Whom a module directory trusts.  The host walks up from the directory of an artifact and
refuses it where somebody other than the user or root could put another library in its
place.  Group write is only borne where the group is the user's own, or stands for root.
-/

namespace TinyBus

open AccountTables

namespace DirectoryTrust

inductive Os where
  | linux
  | macos
  | otherUnix
  deriving DecidableEq

inductive FileText where
  | text (content : List Char)
  | notFound
  | unreadable

inductive DirectoryListing where
  | entries (first : Option (List Char))
  | notFound
  | unreadable

structure AccountFiles where
  nsswitch : FileText
  passwd : FileText
  group : FileText
  subgid : FileText
  readDir : String → DirectoryListing

def FileText.ok : FileText → Option (List Char)
  | .text content => some content
  | .notFound => none
  | .unreadable => none

def isWord (word : String) (text : List Char) : Bool := text = word.toList

def splitWhitespace (text : List Char) : List (List Char) :=
  (text.splitOnP isWhitespace).filter (fun word => !word.isEmpty)

/-- `split_once`. -/
def splitOnce (separator : Char) (text : List Char) : Option (List Char × List Char) :=
  if separator ∈ text then
    some (text.takeWhile (· ≠ separator), (text.dropWhile (· ≠ separator)).tail)
  else none

/-- Actions such as `[NOTFOUND=return]` are not sources. -/
def localSources (sources : List Char) : Bool :=
  ((splitWhitespace sources).filter (fun source => source.head? ≠ some '[')).all
    (fun source => isWord "files" source || isWord "systemd" source)

/-- The loop over the lines of `nsswitch.conf`, with the databases that were seen. -/
def scanDatabases : Bool → Bool → List (List Char) → Bool
  | passwd, group, [] => passwd && group
  | passwd, group, line :: rest =>
      match splitOnce ':' (trimChars (line.takeWhile (· ≠ '#'))) with
      | none => scanDatabases passwd group rest
      | some (database, sources) =>
          let database := trimChars database
          let known := ["passwd", "group", "initgroups", "subid"].any
            (fun name => isWord name database)
          if known && !localSources sources then false
          else
            scanDatabases (passwd || isWord "passwd" database)
              (group || isWord "group" database) rest

def accountsAreLocal (nsswitch : List Char) : Bool :=
  scanDatabases false false (lines nsswitch)

def delegates (gid : UInt32) (line : List Char) : Bool :=
  match line.splitOn ':' with
  | [_, start, count] =>
      match parseUnsigned 64 start, parseUnsigned 64 count with
      | some start, some count =>
          start ≤ gid.toNat && gid.toNat < min (start + count) (2 ^ 64 - 1)
      | _, _ => true
  | _ => true

def gidIsDelegated (subgid : List Char) (gid : UInt32) : Bool :=
  (lines subgid).any (fun line => !ignored line && delegates gid line)

def SYSTEMD_USER_RECORD_DIRECTORIES : List String :=
  ["/etc/userdb", "/run/userdb", "/run/systemd/userdb", "/run/host/userdb",
    "/usr/lib/userdb", "/var/lib/systemd/home", "/run/systemd/home"]

def DirectoryListing.hasNoEntries : DirectoryListing → Bool
  | .entries first => first.isNone
  | .notFound => true
  | .unreadable => false

def undelegated (subgid : FileText) (gid : UInt32) : Bool :=
  match subgid with
  | .text content => !gidIsDelegated content gid
  | .notFound => true
  | .unreadable => false

/-- `str::contains`. -/
def containsText (needle text : List Char) : Bool :=
  text.tails.any (fun rest => needle.isPrefixOf rest)

def currentUserPrivateGid (files : AccountFiles) (uid : UInt32) : Option UInt32 :=
  match files.nsswitch.ok with
  | none => none
  | some nsswitch =>
      if !accountsAreLocal nsswitch then none
      else
        match files.passwd.ok, files.group.ok with
        | some passwd, some group =>
            let gid := (privateGroupIn passwd group uid).filter (undelegated files.subgid)
            if containsText "systemd".toList nsswitch &&
                !(gid.any (fun gid => 1000 ≤ gid && gid < 60000) &&
                  SYSTEMD_USER_RECORD_DIRECTORIES.all
                    (fun directory => (files.readDir directory).hasNoEntries)) then none
            else gid
        | _, _ => none

structure Metadata where
  isDir : Bool
  owner : UInt32
  group : UInt32
  mode : UInt32
  deriving DecidableEq

def Metadata.worldWritable (metadata : Metadata) : Bool := metadata.mode &&& 0o002 ≠ 0

def Metadata.groupWritable (metadata : Metadata) : Bool := metadata.mode &&& 0o020 ≠ 0

def Metadata.sticky (metadata : Metadata) : Bool := metadata.mode &&& 0o1000 ≠ 0

def rootEquivalentGroup (os : Os) (owner group : UInt32) : Bool :=
  match os with
  | .macos => owner = 0 && (group = 0 || group = 80)
  | .linux => false
  | .otherUnix => false

def unixDirectoryRefusal (os : Os) (metadata : Metadata) (currentUid : UInt32)
    (privateGid : Option UInt32) : Option String :=
  let groupGrantsOnlyTheUser :=
    rootEquivalentGroup os metadata.owner metadata.group || privateGid = some metadata.group
  if metadata.owner ≠ currentUid && metadata.owner ≠ 0 then
    some "module directory is owned by another user"
  else if metadata.sticky then none
  else if metadata.worldWritable || metadata.groupWritable && !groupGrantsOnlyTheUser then
    some "module directory is writable by another user"
  else none

inductive AclAnswer where
  | length
  | noData
  | notSupported
  | failed

/-- What the walk over the ancestors of a directory reads. -/
structure UnixHost where
  os : Os
  uid : UInt32
  currentDir : Option (List Char)
  home : Option (List Char)
  symlinkMetadata : List Char → Option Metadata
  getxattr : List Char → AclAnswer
  files : AccountFiles

def UnixHost.hasExtendedAcl (host : UnixHost) (path : List Char) : Bool :=
  match host.os with
  | .linux =>
      match host.getxattr path with
      | .length => true
      | .noData => false
      | .notSupported => false
      | .failed => true
  | .macos => true
  | .otherUnix => true

def UnixHost.privateGid (host : UnixHost) (component : List Char) (metadata : Metadata) :
    Option UInt32 :=
  let needsPrivateGid := metadata.groupWritable && !metadata.sticky &&
    (metadata.owner = host.uid || metadata.owner = 0) &&
    !rootEquivalentGroup host.os metadata.owner metadata.group
  if needsPrivateGid && !host.hasExtendedAcl component then
    currentUserPrivateGid host.files host.uid
  else none

/-- The names of a path. -/
def names (path : List Char) : List (List Char) :=
  (path.splitOn '/').filter (fun name => name ≠ [] && name ≠ ['.'])

def rendered (names : List (List Char)) : List Char :=
  '/' :: ['/'].intercalate names

/-- A path and the paths of its parents, up to the root. -/
def ancestors (path : List Char) : List (List Char) :=
  path :: ((names path).inits.dropLast.reverse.map rendered)

def samePath (left right : List Char) : Bool :=
  decide (left.head? = some '/' ↔ right.head? = some '/') && names left = names right

def REPORTABLE_ROOT_CHILDREN : List String :=
  ["bin", "boot", "etc", "home", "lib", "lib64", "Library", "media", "mnt", "opt",
    "private", "root", "run", "sbin", "srv", "tmp", "usr", "var", "Users",
    "Applications", "Volumes"]

def UnixHost.ancestorLabel (host : UnixHost) (component moduleDirectory : List Char) : String :=
  if names component = [] then "the filesystem root"
  else if samePath component moduleDirectory then "the directory itself"
  else if host.home.any (fun home => samePath home component) then "the home directory"
  else
    match names component with
    | [name] =>
        if REPORTABLE_ROOT_CHILDREN.any (fun child => isWord child name) then String.ofList name
        else "an ancestor directory"
    | _ => "an ancestor directory"

def modeText (mode : UInt32) : String :=
  let digits := Nat.toDigits 8 (mode &&& 0o7777).toNat
  String.ofList (List.replicate (4 - digits.length) '0' ++ digits)

variable (host : UnixHost)

def checkAncestors (path absolute : List Char) : List (List Char) → Except Error Unit
  | [] => .ok ()
  | component :: rest =>
      match host.symlinkMetadata component with
      | none => .error (.moduleRefused (String.ofList path) "module directory is unavailable")
      | some metadata =>
          if !metadata.isDir then
            .error (.moduleRefused (String.ofList path)
              "module search path contains a non-directory component")
          else
            match unixDirectoryRefusal host.os metadata host.uid
                (host.privateGid component metadata) with
            | some reason =>
                .error (.moduleRefused (String.ofList path)
                  (reason ++ " at " ++ host.ancestorLabel component absolute ++ " mode " ++
                    modeText metadata.mode))
            | none => checkAncestors path absolute rest

/-- The path that a relative one stands for. -/
def absolutePath (path : List Char) : Option (List Char) :=
  if path.head? = some '/' then some path
  else host.currentDir.map (fun dir =>
    if dir.getLast? = some '/' then dir ++ path else dir ++ '/' :: path)

def checkDirectory (path : List Char) : Except Error Unit :=
  match absolutePath host path with
  | none => .error (.moduleRefused (String.ofList path) "module directory is unavailable")
  | some absolute => checkAncestors host path absolute (ancestors absolute)

theorem rootEquivalentGroup_iff {os : Os} {owner group : UInt32} :
    rootEquivalentGroup os owner group = true ↔
      os = .macos ∧ owner = 0 ∧ (group = 0 ∨ group = 80) := by
  cases os with
  | linux => simp [rootEquivalentGroup]
  | macos => simp [rootEquivalentGroup]
  | otherUnix => simp [rootEquivalentGroup]

theorem unixDirectoryRefusal_none {os : Os} {metadata : Metadata} {currentUid : UInt32}
    {privateGid : Option UInt32}
    (accepted : unixDirectoryRefusal os metadata currentUid privateGid = none)
    (shared : metadata.groupWritable = true) (kept : metadata.sticky = false) :
    rootEquivalentGroup os metadata.owner metadata.group = true ∨
      privateGid = some metadata.group := by
  unfold unixDirectoryRefusal at accepted
  dsimp only at accepted
  split at accepted
  · cases accepted
  · rw [kept, shared] at accepted
    rw [if_neg (by decide)] at accepted
    split at accepted
    · cases accepted
    · rename_i granted
      rw [Bool.true_and, Bool.or_eq_true, not_or, Bool.not_eq_true', Bool.not_eq_false,
        Bool.or_eq_true, decide_eq_true_eq] at granted
      exact granted.2

variable {host : UnixHost}

/-- The tables that the host reads name the group as the user's own. -/
def UnixHost.OwnGroup (host : UnixHost) (gid : UInt32) : Prop :=
  ∃ passwd group user, host.files.passwd.ok = some passwd ∧ host.files.group.ok = some group ∧
    PrivateGroup passwd group host.uid gid user

theorem currentUserPrivateGid_own {gid : UInt32}
    (found : currentUserPrivateGid host.files host.uid = some gid) : host.OwnGroup gid := by
  unfold currentUserPrivateGid at found
  split at found
  · cases found
  · split at found
    · cases found
    · split at found
      · rename_i passwd group users groups
        dsimp only at found
        split at found
        · cases found
        · obtain ⟨answer, _⟩ := Option.filter_eq_some_iff.mp found
          obtain ⟨user, own⟩ := privateGroupIn_private answer
          exact ⟨passwd, group, user, users, groups, own⟩
      · cases found

theorem UnixHost.privateGid_own {component : List Char} {metadata : Metadata} {gid : UInt32}
    (found : host.privateGid component metadata = some gid) : host.OwnGroup gid := by
  unfold UnixHost.privateGid at found
  dsimp only at found
  split at found
  · exact currentUserPrivateGid_own found
  · cases found

structure Trusted (host : UnixHost) (component : List Char) (metadata : Metadata) : Prop where
  read : host.symlinkMetadata component = some metadata
  directory : metadata.isDir = true
  accepted : unixDirectoryRefusal host.os metadata host.uid
    (host.privateGid component metadata) = none

theorem checkAncestors_trusted {path absolute : List Char} {components : List (List Char)}
    (accepted : checkAncestors host path absolute components = .ok ()) :
    ∀ component ∈ components, ∃ metadata, Trusted host component metadata := by
  induction components with
  | nil => exact nofun
  | cons component rest ih =>
      rw [checkAncestors] at accepted
      split at accepted
      · cases accepted
      · rename_i metadata read
        split at accepted
        · cases accepted
        · rename_i directory
          split at accepted
          · cases accepted
          · rename_i allowed
            refine List.forall_mem_cons.mpr ⟨⟨metadata, read, ?_, allowed⟩, ih accepted⟩
            exact Decidable.not_not.mp (fun plain => directory (by rw [eq_false_of_ne_true plain]; rfl))

theorem checkDirectory_trusted {path absolute : List Char}
    (stands : absolutePath host path = some absolute)
    (accepted : checkDirectory host path = .ok ()) :
    ∀ component ∈ ancestors absolute, ∃ metadata, Trusted host component metadata := by
  unfold checkDirectory at accepted
  rw [stands] at accepted
  exact checkAncestors_trusted accepted

theorem Trusted.group {component : List Char} {metadata : Metadata}
    (trusted : Trusted host component metadata) (shared : metadata.groupWritable = true)
    (kept : metadata.sticky = false) :
    host.OwnGroup metadata.group ∨
      host.os = .macos ∧ metadata.owner = 0 ∧ (metadata.group = 0 ∨ metadata.group = 80) := by
  rcases unixDirectoryRefusal_none trusted.accepted shared kept with root | own
  · exact .inr (rootEquivalentGroup_iff.mp root)
  · exact .inl (UnixHost.privateGid_own own)

end DirectoryTrust

open DirectoryTrust

/-- A private group is the user's own by every record of the tables; and a directory of an
accepted path that its group may write to, without the sticky bit, has such a group, or is
root's on a system where the group stands for root. -/
theorem group_write_only_to_private_groups (passwd group : List Char) (uid gid : UInt32)
    (host : UnixHost) (path absolute : List Char) :
    (privateGroupIn passwd group uid = some gid → ∃ user, PrivateGroup passwd group uid gid user) ∧
      (absolutePath host path = some absolute → checkDirectory host path = .ok () →
        ∀ component ∈ ancestors absolute, ∃ metadata,
          host.symlinkMetadata component = some metadata ∧ metadata.isDir = true ∧
            (metadata.groupWritable = true → metadata.sticky = false →
              host.OwnGroup metadata.group ∨
                host.os = .macos ∧ metadata.owner = 0 ∧
                  (metadata.group = 0 ∨ metadata.group = 80))) := by
  refine ⟨privateGroupIn_private, ?_⟩
  intro stands accepted component member
  obtain ⟨metadata, trusted⟩ := checkDirectory_trusted stands accepted component member
  exact ⟨metadata, trusted.read, trusted.directory, trusted.group⟩

/-- A user on Linux with a group of his own, and his home directory. -/
def homeHost : UnixHost :=
  { os := .linux
    uid := 1000
    currentDir := none
    home := some "/home/ada".toList
    symlinkMetadata := fun path =>
      if path = "/home/ada".toList then some ⟨true, 1000, 1000, 0o775⟩
      else some ⟨true, 0, 0, 0o755⟩
    getxattr := fun _ => .noData
    files :=
      { nsswitch := .text "passwd: files\ngroup: files # local\n".toList
        passwd := .text "root:x:0:0:root:/root:/bin/sh\nada:x:1000:1000::/home/ada:/bin/sh\n".toList
        group := .text "root:x:0:\nusers:x:100:ada\nada:x:1000:\n".toList
        subgid := .notFound
        readDir := fun _ => .notFound } }

theorem homeHost_private_groups :
    (∃ user, PrivateGroup
      "root:x:0:0:root:/root:/bin/sh\nada:x:1000:1000::/home/ada:/bin/sh\n".toList
      "root:x:0:\nusers:x:100:ada\nada:x:1000:\n".toList 1000 1000 user) ∧
      ∀ component ∈ ancestors "/home/ada".toList, ∃ metadata,
        homeHost.symlinkMetadata component = some metadata ∧ metadata.isDir = true ∧
          (metadata.groupWritable = true → metadata.sticky = false →
            homeHost.OwnGroup metadata.group ∨
              homeHost.os = .macos ∧ metadata.owner = 0 ∧
                (metadata.group = 0 ∨ metadata.group = 80)) := by
  have both := group_write_only_to_private_groups
    "root:x:0:0:root:/root:/bin/sh\nada:x:1000:1000::/home/ada:/bin/sh\n".toList
    "root:x:0:\nusers:x:100:ada\nada:x:1000:\n".toList 1000 1000 homeHost
    "/home/ada".toList "/home/ada".toList
  exact ⟨both.1 (by decide +kernel), both.2 (by decide +kernel) (by decide +kernel)⟩

def applicationsHost : UnixHost :=
  { os := .macos
    uid := 501
    currentDir := none
    home := some "/Users/ada".toList
    symlinkMetadata := fun path =>
      if path = "/Applications".toList then some ⟨true, 0, 80, 0o775⟩
      else some ⟨true, 0, 0, 0o755⟩
    getxattr := fun _ => .notSupported
    files :=
      { nsswitch := .notFound
        passwd := .text "root:*:0:0:System Administrator:/var/root:/bin/sh\n".toList
        group := .text "wheel:*:0:root\nadmin:*:80:root\n".toList
        subgid := .notFound
        readDir := fun _ => .notFound } }

private theorem applicationsHost_no_group (gid : UInt32) : ¬ applicationsHost.OwnGroup gid := by
  rintro ⟨passwd, group, user, users, groups, own⟩
  cases users
  have nobody : (accountsOf (lines
      "root:*:0:0:System Administrator:/var/root:/bin/sh\n".toList)).filter
        (fun account => account.uid = 501) = [] := by decide +kernel
  exact List.cons_ne_nil _ _ (own.account.symm.trans nobody)

theorem group_write_not_only_to_private_groups :
    ¬ ∀ (host : UnixHost) (path absolute component : List Char) (metadata : Metadata),
      absolutePath host path = some absolute → checkDirectory host path = .ok () →
        component ∈ ancestors absolute → host.symlinkMetadata component = some metadata →
          metadata.groupWritable = true → metadata.sticky = false →
            host.OwnGroup metadata.group := by
  intro only
  exact applicationsHost_no_group 80 (only applicationsHost "/Applications".toList
    "/Applications".toList "/Applications".toList ⟨true, 0, 80, 0o775⟩ (by decide +kernel)
    (by decide +kernel) (by decide +kernel) (by decide +kernel) (by decide +kernel)
    (by decide +kernel))

end TinyBus
