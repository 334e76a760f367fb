/-
Planning the extraction of a release archive.  Nothing in its headers is trusted: names,
types, flags, sizes and offsets are checked record by record, and then the ranges of all
records against each other.
-/

import TinyBus.ZipPathSets

namespace TinyBus

namespace Zip

def MAX_ENTRY_COUNT : Nat := 100000
def MAX_ENTRY_EXPANDED_BYTES : Nat := 1024 * 1024 * 1024
def MAX_ARCHIVE_EXPANDED_BYTES : Nat := 2 * 1024 * 1024 * 1024
def MAX_PATH_DEPTH : Nat := 128
def MAX_PATH_METADATA_BYTES : Nat := 16 * 1024 * 1024
def MAX_PATH_COMPONENTS : Nat := 250000

structure ExtractionLimits where
  entryBytes : Nat
  totalBytes : Nat
  entries : Nat
  pathMetadataBytes : Nat
  pathDepth : Nat
  pathComponents : Nat

def DEFAULT_LIMITS : ExtractionLimits :=
  { entryBytes := MAX_ENTRY_EXPANDED_BYTES
    totalBytes := MAX_ARCHIVE_EXPANDED_BYTES
    entries := MAX_ENTRY_COUNT
    pathMetadataBytes := MAX_PATH_METADATA_BYTES
    pathDepth := MAX_PATH_DEPTH
    pathComponents := MAX_PATH_COMPONENTS }

inductive CompressionMethod where
  | store
  | deflate
  | other (code : Nat)
  deriving DecidableEq

inductive CreatorSystem where
  | unix
  | macos
  | other (code : Nat)
  deriving DecidableEq

/-- The name of a record as it is stored. -/
inductive RawPath where
  | utf8 (text : String)
  | other (bytes : List UInt8)
  deriving DecidableEq

abbrev EntryFlags := BitVec 16

namespace EntryFlags

def isEncrypted (flags : EntryFlags) : Bool := flags.getLsbD 0
def hasDataDescriptor (flags : EntryFlags) : Bool := flags.getLsbD 3
def hasStrongEncryption (flags : EntryFlags) : Bool := flags.getLsbD 6
def isMasked (flags : EntryFlags) : Bool := flags.getLsbD 13

end EntryFlags

structure LocalHeader where
  filePath : RawPath
  compressionMethod : CompressionMethod
  flags : EntryFlags
  crc32 : Nat
  compressedSizeHint : Nat
  uncompressedSizeHint : Nat
  zip64Extra : Bool

structure LocalEntry where
  compressedDataRange : Nat × Nat
  localHeader : Option LocalHeader

structure Record where
  filePath : RawPath
  creatorSystem : CreatorSystem
  externalAttributes : Nat
  compressionMethod : CompressionMethod
  flags : EntryFlags
  crc32 : Nat
  compressedSizeHint : Nat
  uncompressedSizeHint : Nat
  localHeaderOffset : Nat
  localEntry : Option LocalEntry

/-- An archive file: where the iteration over its records fails, there is no record. -/
structure Archive where
  fileLen : Nat
  entriesHint : Nat
  directoryOffset : Nat
  entries : List (Option Record)
  readExact : Nat → Nat → Option (List UInt8)

/-- The rules for names that come with libraries. -/
structure PathRules where
  folding : Folding
  tryNormalize : String → Option String

def require (condition : Bool) (reason : String) : Except Error Unit :=
  if condition then .ok () else .error (refused reason)

def countMetadata (limit counted more : Nat) : Except Error Nat :=
  match checkedAdd counted more with
  | none => .error metadataExceeded
  | some total => if limit < total then .error metadataExceeded else .ok total

def unsafePath : String := "release archive contains an unsafe path"

def RawPath.text : RawPath → Except Error String
  | .utf8 text => .ok text
  | .other _ => .error (refused unsafePath)

def isControl (char : Char) : Bool :=
  decide (char.toNat < 0x20) || (decide (0x7f ≤ char.toNat) && decide (char.toNat ≤ 0x9f))

def isWindowsDeviceName (component : List Char) : Bool :=
  let first := (component.splitOn '.').headD []
  let stem := (first.reverse.dropWhile (fun char => char == '.' || char == ' ')).reverse
  let upper := stem.map Char.toUpper
  ["CON", "PRN", "AUX", "NUL"].any (fun name => upper == name.toList) ||
    ["COM", "LPT"].any (fun start => start.toList.isPrefixOf upper &&
      ["1", "2", "3", "4", "5", "6", "7", "8", "9", "¹", "²", "³"].any
        (fun number => upper.drop start.toList.length == number.toList))

def checkedPath (rules : PathRules) (original : String) (maxDepth : Nat) :
    Except Error (List Component × Bool × Nat) := do
  let chars := original.toList
  require (!(chars.isEmpty || decide (MAX_NAME_BYTES < original.utf8ByteSize) ||
    chars.contains (Char.ofNat 0) || chars.head? == some '/' || chars.contains '\\' ||
    chars.contains ':' ||
    chars.any (fun char => isControl char || "<>|?*\"".toList.contains char))) unsafePath
  let isDir := chars.getLast? == some '/'
  let parts := (if isDir then chars.dropLast else chars).splitOn '/'
  require (!parts.any (fun part => part == ['.', '.'])) unsafePath
  require (decide (parts.length ≤ maxDepth)) "release archive path exceeds the depth limit"
  require (rules.tryNormalize original == some original) unsafePath
  require (!(parts.isEmpty ||
    parts.any (fun part => part.isEmpty || part == ['.'] || part == ['.', '.']))) unsafePath
  require (!parts.any (fun part => part.getLast? == some '.' || part.getLast? == some ' ' ||
    isWindowsDeviceName part)) unsafePath
  return (parts.map (fun part => .normal (some (String.ofList part))), isDir, parts.length)

def checkType (record : Record) (isDir : Bool) : Except Error Unit :=
  if record.creatorSystem = .unix ∨ record.creatorSystem = .macos then
    let fileType := (record.externalAttributes >>> 16) &&& 0o170000
    let allowedType := if isDir then 0o040000 else 0o100000
    require (fileType == 0 || fileType == allowedType)
      "release archive contains an unsupported entry type"
  else .ok ()

def validateFlags (flags : EntryFlags) (method : CompressionMethod) : Except Error Unit := do
  require (!(flags.isEncrypted || flags.hasStrongEncryption || flags.isMasked))
    "release archive contains encrypted entries"
  let allowed : EntryFlags :=
    1 <<< 3 ||| 1 <<< 11 ||| if method = .deflate then 0b110 else 0
  require (flags &&& ~~~allowed == 0) "release archive contains unsupported entry flags"

def countExpanded (limits : ExtractionLimits) (counted : Nat) (isDir : Bool)
    (expandedSize : Nat) : Except Error Nat := do
  require (decide (expandedSize ≤ limits.entryBytes))
    "release archive entry exceeds the extraction limit"
  require (!(isDir && expandedSize != 0)) "release archive directory entry is not empty"
  match checkedAdd counted expandedSize with
  | none => .error (refused "release archive exceeds the extraction limit")
  | some total =>
      if limits.totalBytes < total then
        .error (refused "release archive exceeds the extraction limit")
      else .ok total

def checkRange (archive : Archive) (record : Record) (range : Nat × Nat) : Except Error Unit :=
  require (!(decide (range.2 < range.1) || decide (range.1 < record.localHeaderOffset) ||
    decide (archive.fileLen < range.2) || decide (archive.directoryOffset < range.2) ||
    range.2 - range.1 != record.compressedSizeHint))
    "release archive contains invalid entry offsets"

def readLe (bytes : List UInt8) : Nat :=
  bytes.foldr (fun byte value => byte.toNat + 256 * value) 0

def u32Max : Nat := 2 ^ 32 - 1

/-- A descriptor begins with a signature, or with the checksum at once. -/
def validateDataDescriptor (archive : Archive) (offset directoryOffset : Nat) (zip64 : Bool)
    (crc compressed expanded : Nat) : Except Error Bool :=
  let invalid := refused "release archive has an invalid data descriptor"
  let width := if zip64 then 8 else 4
  if directoryOffset < offset then .error invalid
  else if directoryOffset - offset < 4 + 2 * width then .ok false
  else
    let readSize := min (directoryOffset - offset) (8 + 2 * width)
    match archive.readExact offset readSize with
    | none => .error invalid
    | some bytes =>
        .ok ([0, 4].any (fun start =>
          (start == 0 || bytes.take 4 == [0x50, 0x4b, 0x07, 0x08]) &&
          decide (start + 4 + 2 * width ≤ readSize) &&
          readLe ((bytes.drop start).take 4) == crc &&
          readLe ((bytes.drop (start + 4)).take width) == compressed &&
          readLe ((bytes.drop (start + 4 + width)).take width) == expanded))

def headersDisagree : String := "release archive headers disagree"

def checkHeaders (archive : Archive) (record : Record) (entry : LocalEntry) :
    Except Error Unit := do
  match entry.localHeader with
  | none => .error (refused "release archive is invalid")
  | some header =>
      require (header.filePath == record.filePath &&
        header.compressionMethod == record.compressionMethod && header.flags == record.flags)
        headersDisagree
      let localSizes := (header.crc32, header.compressedSizeHint, header.uncompressedSizeHint)
      let centralSizes :=
        (record.crc32, record.compressedSizeHint, record.uncompressedSizeHint)
      if record.flags.hasDataDescriptor then
        require (localSizes == (0, 0, 0) || localSizes == centralSizes) headersDisagree
        let valid ← validateDataDescriptor archive entry.compressedDataRange.2
          (min archive.directoryOffset archive.fileLen)
          (header.zip64Extra || decide (u32Max ≤ record.compressedSizeHint) ||
            decide (u32Max ≤ record.uncompressedSizeHint))
          record.crc32 record.compressedSizeHint record.uncompressedSizeHint
        require valid "release archive data descriptor disagrees"
      else require (localSizes == centralSizes) headersDisagree

structure EntryPlan where
  wayfinder : Nat
  path : List Component
  isDir : Bool
  method : CompressionMethod
  compressedSize : Nat
  expandedSize : Nat
  dataRange : Nat × Nat
  deriving DecidableEq

/-- The plan of a record: its range, sizes, method and place are the archive's own. -/
structure PlannedAs (rules : PathRules) (limits : ExtractionLimits) (record : Record)
    (plan : EntryPlan) : Prop where
  wayfinder : plan.wayfinder = record.localHeaderOffset
  method : plan.method = record.compressionMethod
  supported : record.compressionMethod = .store ∨ record.compressionMethod = .deflate
  compressedSize : plan.compressedSize = record.compressedSizeHint
  expandedSize : plan.expandedSize = record.uncompressedSizeHint
  named : ∃ original components, record.filePath = .utf8 original ∧
    checkedPath rules original limits.pathDepth = .ok (plan.path, plan.isDir, components)
  ranged : ∃ entry, record.localEntry = some entry ∧ plan.dataRange = entry.compressedDataRange
  length : plan.dataRange.1 + record.compressedSizeHint = plan.dataRange.2

def EntryPlan.entry (folding : Folding) (plan : EntryPlan) : Option Entry :=
  (folding.steps plan.path).map (fun steps => ⟨steps, plan.isDir⟩)

structure Planning where
  plans : List EntryPlan
  hintedExpandedTotal : Nat
  tree : PathTree
  pathComponentCount : Nat

def Planning.start : Planning :=
  { plans := [], hintedExpandedTotal := 0, tree := .empty, pathComponentCount := 0 }

def found {Value : Type} (value : Option Value) : Except Error Value :=
  match value with
  | none => .error (refused "release archive is invalid")
  | some value => .ok value

def planEntry (rules : PathRules) (limits : ExtractionLimits) (archive : Archive)
    (planning : Planning) (record : Record) : Except Error Planning := do
  require (decide (planning.plans.length < limits.entries))
    "release archive contains too many entries"
  let original ← record.filePath.text
  let named ← countMetadata limits.pathMetadataBytes planning.tree.bytes original.utf8ByteSize
  let (path, isDir, components) ← checkedPath rules original limits.pathDepth
  checkType record isDir
  let count ← countMetadata limits.pathComponents planning.pathComponentCount components
  let inserted := planning.tree.node.insert rules.folding isDir limits.pathMetadataBytes path
    named
  let accepted ← inserted.outcome
  require accepted "release archive contains duplicate or case-colliding paths"
  validateFlags record.flags record.compressionMethod
  require (record.compressionMethod == .store || record.compressionMethod == .deflate)
    "release archive uses an unsupported compression method"
  let total ← countExpanded limits planning.hintedExpandedTotal isDir
    record.uncompressedSizeHint
  let entry ← found record.localEntry
  checkRange archive record entry.compressedDataRange
  checkHeaders archive record entry
  return {
    plans := planning.plans ++ [
      { wayfinder := record.localHeaderOffset
        path := path
        isDir := isDir
        method := record.compressionMethod
        compressedSize := record.compressedSizeHint
        expandedSize := record.uncompressedSizeHint
        dataRange := entry.compressedDataRange }]
    hintedExpandedTotal := total
    tree := ⟨inserted.node, inserted.bytes⟩
    pathComponentCount := count }

def planEntries (rules : PathRules) (limits : ExtractionLimits) (archive : Archive) :
    Planning → List (Option Record) → Except Error Planning
  | planning, [] => .ok planning
  | _, none :: _ => .error (refused "release archive is invalid")
  | planning, some record :: rest => do
      let next ← planEntry rules limits archive planning record
      planEntries rules limits archive next rest

def sortedRanges (plans : List EntryPlan) : List (Nat × Nat) :=
  ((plans.map EntryPlan.dataRange).filter (fun range => decide (range.1 < range.2))).mergeSort
    (fun first second => decide (first.1 ≤ second.1))

def overlaps : List (Nat × Nat) → Bool
  | first :: second :: rest => decide (second.1 < first.2) || overlaps (second :: rest)
  | _ => false

def plan (rules : PathRules) (limits : ExtractionLimits) (archive : Archive) :
    Except Error (List EntryPlan) := do
  require (decide (archive.entriesHint ≤ limits.entries))
    "release archive contains too many entries"
  let planning ← planEntries rules limits archive .start archive.entries
  require (planning.plans.length == archive.entriesHint)
    "release archive entry count is inconsistent"
  require (!overlaps (sortedRanges planning.plans))
    "release archive contains overlapping entries"
  return planning.plans

/-- No offset is in both ranges. -/
def Separate (first second : Nat × Nat) : Prop :=
  first.2 ≤ second.1 ∨ second.2 ≤ first.1

theorem Separate.symm {first second : Nat × Nat} (separate : Separate first second) :
    Separate second first := Or.symm separate

theorem pairwise_of_not_overlaps {ranges : List (Nat × Nat)}
    (filled : ∀ range ∈ ranges, range.1 < range.2) (apart : overlaps ranges = false) :
    ranges.Pairwise (fun first second => first.2 ≤ second.1) := by
  induction ranges with
  | nil => exact .nil
  | cons first rest ih =>
      cases rest with
      | nil => exact List.pairwise_singleton _ _
      | cons second rest =>
          unfold overlaps at apart
          rw [Bool.or_eq_false_iff, decide_eq_false_iff_not, Nat.not_lt] at apart
          obtain ⟨next, later⟩ := apart
          have tail := ih (fun range among => filled range (List.mem_cons_of_mem _ among)) later
          refine List.pairwise_cons.mpr ⟨?_, tail⟩
          intro range among
          rcases List.mem_cons.mp among with rfl | beyond
          · exact next
          · have here := filled second (List.mem_cons_of_mem _ List.mem_cons_self)
            have after := (List.pairwise_cons.mp tail).1 range beyond
            omega

theorem separate_of_not_overlaps {plans : List EntryPlan}
    (apart : overlaps (sortedRanges plans) = false) :
    ((plans.map EntryPlan.dataRange).filter
      (fun range => decide (range.1 < range.2))).Pairwise Separate := by
  have same := List.mergeSort_perm ((plans.map EntryPlan.dataRange).filter
    (fun range => decide (range.1 < range.2))) (fun first second => decide (first.1 ≤ second.1))
  refine (same.pairwise_iff Separate.symm).mp ?_
  refine List.Pairwise.imp (fun before => .inl before) (pairwise_of_not_overlaps ?_ apart)
  intro range among
  exact of_decide_eq_true (List.mem_filter.mp (same.mem_iff.mp among)).2

theorem bind_ok {Value Other : Type} {first : Except Error Value}
    {next : Value → Except Error Other} {result : Other}
    (succeeds : (first >>= next) = .ok result) :
    ∃ value, first = .ok value ∧ next value = .ok result := by
  cases first with
  | error error => cases succeeds
  | ok value => exact ⟨value, rfl, succeeds⟩

theorem require_ok {condition : Bool} {reason : String} {done : Unit}
    (succeeds : require condition reason = .ok done) : condition = true := by
  unfold require at succeeds
  split at succeeds
  · assumption
  · cases succeeds

theorem found_ok {Value : Type} {value : Option Value} {result : Value}
    (succeeds : found value = .ok result) : value = some result := by
  cases value with
  | none => cases succeeds
  | some value =>
      cases succeeds
      rfl

theorem text_ok {filePath : RawPath} {original : String}
    (succeeds : filePath.text = .ok original) : filePath = .utf8 original := by
  cases filePath with
  | utf8 text =>
      cases succeeds
      rfl
  | other bytes => cases succeeds

theorem countMetadata_ok {limit counted more total : Nat}
    (succeeds : countMetadata limit counted more = .ok total) :
    total = counted + more ∧ Counted limit total := by
  unfold countMetadata checkedAdd at succeeds
  by_cases fits : counted + more < 2 ^ 64
  · rw [if_pos fits] at succeeds
    dsimp only at succeeds
    split at succeeds
    · cases succeeds
    · rename_i within
      cases succeeds
      exact ⟨rfl, fits, Nat.not_lt.mp within⟩
  · rw [if_neg fits] at succeeds
    cases succeeds

theorem countExpanded_ok {limits : ExtractionLimits} {counted expandedSize total : Nat}
    {isDir : Bool} (succeeds : countExpanded limits counted isDir expandedSize = .ok total) :
    total = counted + expandedSize ∧ total ≤ limits.totalBytes := by
  unfold countExpanded at succeeds
  obtain ⟨_, _, succeeds⟩ := bind_ok succeeds
  obtain ⟨_, _, succeeds⟩ := bind_ok succeeds
  unfold checkedAdd at succeeds
  by_cases fits : counted + expandedSize < 2 ^ 64
  · rw [if_pos fits] at succeeds
    dsimp only at succeeds
    split at succeeds
    · cases succeeds
    · rename_i within
      cases succeeds
      exact ⟨rfl, Nat.not_lt.mp within⟩
  · rw [if_neg fits] at succeeds
    cases succeeds

theorem checkRange_ok {archive : Archive} {record : Record} {range : Nat × Nat} {done : Unit}
    (succeeds : checkRange archive record range = .ok done) :
    range.1 ≤ range.2 ∧ record.localHeaderOffset ≤ range.1 ∧ range.2 ≤ archive.fileLen ∧
      range.2 ≤ archive.directoryOffset ∧ range.2 - range.1 = record.compressedSizeHint := by
  have checked := require_ok succeeds
  simp only [Bool.not_eq_true', Bool.or_eq_false_iff, decide_eq_false_iff_not, Nat.not_lt,
    bne_eq_false_iff_eq] at checked
  obtain ⟨⟨⟨⟨ordered, behind⟩, inside⟩, before⟩, length⟩ := checked
  exact ⟨ordered, behind, inside, before, length⟩

section Plans

variable {rules : PathRules} {limits : ExtractionLimits} {archive : Archive}

structure Adds (rules : PathRules) (limits : ExtractionLimits) (archive : Archive)
    (before : Planning) (record : Record) (plan : EntryPlan) (after : Planning) : Prop where
  plans : after.plans = before.plans ++ [plan]
  planned : PlannedAs rules limits record plan
  inside : plan.dataRange.2 ≤ archive.directoryOffset
  total : after.hintedExpandedTotal = before.hintedExpandedTotal + plan.expandedSize
  limited : after.hintedExpandedTotal ≤ limits.totalBytes
  offered : ∃ nameBytes, before.tree.offer rules.folding limits.pathMetadataBytes
    ⟨nameBytes, plan.path, plan.isDir⟩ = (after.tree, .ok true)

variable {before after : Planning}

theorem planEntry_adds {record : Record}
    (planned : planEntry rules limits archive before record = .ok after) :
    ∃ plan, Adds rules limits archive before record plan after := by
  unfold planEntry at planned
  obtain ⟨_, _, planned⟩ := bind_ok planned
  obtain ⟨original, text, planned⟩ := bind_ok planned
  obtain ⟨named, counts, planned⟩ := bind_ok planned
  obtain ⟨⟨path, isDir, components⟩, checked, planned⟩ := bind_ok planned
  obtain ⟨_, _, planned⟩ := bind_ok planned
  obtain ⟨count, _, planned⟩ := bind_ok planned
  obtain ⟨accepted, inserts, planned⟩ := bind_ok planned
  obtain ⟨_, distinct, planned⟩ := bind_ok planned
  obtain ⟨_, _, planned⟩ := bind_ok planned
  obtain ⟨_, supported, planned⟩ := bind_ok planned
  obtain ⟨total, sums, planned⟩ := bind_ok planned
  obtain ⟨entry, located, planned⟩ := bind_ok planned
  obtain ⟨_, ranged, planned⟩ := bind_ok planned
  obtain ⟨_, _, planned⟩ := bind_ok planned
  cases planned
  obtain ⟨ordered, _, _, inside, length⟩ := checkRange_ok ranged
  obtain ⟨sum, limited⟩ := countExpanded_ok sums
  obtain ⟨rfl, counted⟩ := countMetadata_ok counts
  obtain rfl := require_ok distinct
  have known : record.compressionMethod = .store ∨ record.compressionMethod = .deflate := by
    simpa using require_ok supported
  have described : PlannedAs rules limits record
      { wayfinder := record.localHeaderOffset, path := path, isDir := isDir,
        method := record.compressionMethod, compressedSize := record.compressedSizeHint,
        expandedSize := record.uncompressedSizeHint, dataRange := entry.compressedDataRange } :=
    { wayfinder := rfl
      method := rfl
      supported := known
      compressedSize := rfl
      expandedSize := rfl
      named := ⟨original, components, text_ok text, checked⟩
      ranged := ⟨entry, found_ok located, rfl⟩
      length := by
        dsimp only
        omega }
  refine ⟨_, rfl, described, inside, sum, limited, original.utf8ByteSize, ?_⟩
  unfold PathTree.offer checkedAdd
  rw [if_pos counted.1]
  dsimp only at inserts ⊢
  rw [if_neg (Nat.not_lt.mpr counted.2), inserts]

/-- The plan so far: its ranges are before the directory, the sizes that it claims are
within the limit, and its paths are those that the tree has accepted. -/
structure Sound (rules : PathRules) (limits : ExtractionLimits) (archive : Archive)
    (planning : Planning) : Prop where
  inside : ∀ plan ∈ planning.plans, plan.dataRange.2 ≤ archive.directoryOffset
  total : planning.hintedExpandedTotal = (planning.plans.map EntryPlan.expandedSize).sum
  limited : planning.hintedExpandedTotal ≤ limits.totalBytes
  held : ∃ entries : List Entry, planning.tree.node.Holds entries ∧
    entries.Pairwise Compatible ∧
      planning.plans.reverse.map (EntryPlan.entry rules.folding) = entries.map some

theorem Sound.start : Sound rules limits archive .start where
  inside := nofun
  total := rfl
  limited := Nat.zero_le _
  held := ⟨[], .empty, .nil, rfl⟩

theorem Sound.planEntry {record : Record} (sound : Sound rules limits archive before)
    (planned : planEntry rules limits archive before record = .ok after) :
    Sound rules limits archive after := by
  obtain ⟨plan, adds⟩ := planEntry_adds planned
  have every : ∀ other, other ∈ after.plans → other ∈ before.plans ∨ other = plan := by
    intro other among
    rw [adds.plans] at among
    rcases List.mem_append.mp among with earlier | last
    · exact .inl earlier
    · exact .inr (List.mem_singleton.mp last)
  refine ⟨?_, ?_, adds.limited, ?_⟩
  · intro other among
    rcases every other among with earlier | rfl
    · exact sound.inside other earlier
    · exact adds.inside
  · rw [adds.total, adds.plans, sound.total, List.map_append, List.sum_append]
    simp
  · obtain ⟨entries, holds, pairs, resolved⟩ := sound.held
    obtain ⟨nameBytes, offered⟩ := adds.offered
    obtain ⟨entry, takes⟩ := PathTree.offer_accepted holds (by rw [offered])
    have held := takes.holds
    rw [offered] at held
    refine ⟨entry :: entries, held, List.pairwise_cons.mpr ⟨?_, pairs⟩, ?_⟩
    · exact fun other among => (takes.compatible other among).symm
    · have here : plan.entry rules.folding = some entry := takes.resolves
      rw [adds.plans, List.reverse_append, List.map_append, resolved, List.map_cons, ← here]
      rfl

theorem Sound.planEntries {records : List (Option Record)}
    (sound : Sound rules limits archive before)
    (planned : planEntries rules limits archive before records = .ok after) :
    Sound rules limits archive after := by
  induction records generalizing before with
  | nil =>
      cases planned
      exact sound
  | cons record rest ih =>
      cases record with
      | none => cases planned
      | some record =>
          obtain ⟨next, one, more⟩ := bind_ok planned
          exact ih (sound.planEntry one) more

theorem planEntries_planned {records : List (Option Record)}
    (planned : planEntries rules limits archive before records = .ok after) :
    ∃ given plans, records = given.map some ∧ after.plans = before.plans ++ plans ∧
      List.Forall₂ (PlannedAs rules limits) given plans := by
  induction records generalizing before with
  | nil =>
      cases planned
      exact ⟨[], [], rfl, (List.append_nil _).symm, .nil⟩
  | cons record rest ih =>
      cases record with
      | none => cases planned
      | some record =>
          obtain ⟨next, one, more⟩ := bind_ok planned
          obtain ⟨plan, adds⟩ := planEntry_adds one
          obtain ⟨given, plans, rfl, added, described⟩ := ih more
          refine ⟨record :: given, plan :: plans, rfl, ?_, .cons adds.planned described⟩
          rw [added, adds.plans, List.append_assoc, List.singleton_append]

theorem plan_sound {plans : List EntryPlan} (planned : plan rules limits archive = .ok plans) :
    ∃ planning, Sound rules limits archive planning ∧ planning.plans = plans ∧
      overlaps (sortedRanges plans) = false ∧
      ∃ records, archive.entries = records.map some ∧
        List.Forall₂ (PlannedAs rules limits) records plans := by
  unfold plan at planned
  obtain ⟨_, _, planned⟩ := bind_ok planned
  obtain ⟨planning, gathered, planned⟩ := bind_ok planned
  obtain ⟨_, _, planned⟩ := bind_ok planned
  obtain ⟨_, apart, planned⟩ := bind_ok planned
  cases planned
  have checked := require_ok apart
  rw [Bool.not_eq_true'] at checked
  obtain ⟨records, added, given, plans, described⟩ := planEntries_planned gathered
  refine ⟨planning, Sound.start.planEntries gathered, rfl, checked, records, given, ?_⟩
  rwa [plans]

theorem plan_paths_compatible {plans : List EntryPlan}
    (planned : plan rules limits archive = .ok plans) :
    ∃ entries : List Entry, plans.map (EntryPlan.entry rules.folding) = entries.map some ∧
      entries.Pairwise Compatible := by
  obtain ⟨planning, sound, rfl, _, _⟩ := plan_sound planned
  obtain ⟨entries, _, pairs, resolved⟩ := sound.held
  refine ⟨entries.reverse, ?_, List.pairwise_reverse.mpr
    (pairs.imp fun compatible => compatible.symm)⟩
  rw [List.map_reverse, ← resolved, List.map_reverse, List.reverse_reverse]

end Plans

end Zip

end TinyBus
