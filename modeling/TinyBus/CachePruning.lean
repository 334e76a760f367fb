import TinyBus.FirstAdmitted
import TinyBus.Library.FilePaths
import TinyBus.Library.FileTrees

/-
Where a version of a module is cached, and which versions are removed again.  Three strings
make the path, and a recursive removal is aimed by two of them, so each of them has to be
the name of one directory.
-/

namespace TinyBus

open FilePath (Component Plain ofChars ofChars_injective push push_normal)

namespace CachePruning

abbrev Name := FilePath.Text

/-- Whether a directory opens, and whether reading it fails on the way. -/
structure Listing where
  opens : Bool
  fails : Bool

/-- What an entry of a directory answers: to the listing, for its type, and for what it
stands for. -/
structure Access where
  listed : Bool
  typed : Bool
  stats : Bool

abbrev Node := FileTree Name Listing Access

/-- Where paths and links lead, and what a removal leaves where it fails. -/
structure CacheDisk where
  locate : Node → List Component → Option (List Name)
  follow : Node → List Name → Option Node
  left : Node → List Name → Option Node

/-- `to_string_lossy`. -/
def toStringLossy (name : Name) : List Char :=
  name.map (fun glyph =>
    match glyph with
    | .char char => char
    | .bytes _ => Char.ofNat 0xFFFD)

def STAGING_PREFIX : String := ".staging-"

def isStaging (name : Name) : Bool := STAGING_PREFIX.toList.isPrefixOf (toStringLossy name)

def join (platform : FilePath.Platform) (path : List Component) (name : String) : List Component :=
  push path (platform.components (ofChars name.toList))

def artifactDirPath (platform : FilePath.Platform) (installRoot : List Component)
    (id version hostKey : String) : Option (List Component) :=
  if [id, version, hostKey].all isSafePathComponent then
    some ([id, version, hostKey].foldl (join platform) installRoot)
  else none

mutual

/-- Do not remove a version while another process stages an artifact inside it. -/
def containsStagingDirectory : Node → Bool
  | .dir listing children => !listing.opens || (stagingAmong children || listing.fails)
  | .file => true
  | .link => true

def stagingAmong : List (Name × Access × Node) → Bool
  | [] => false
  | (name, access, node) :: rest =>
      if !access.listed then true
      else if isStaging name then true
      else if !access.typed then true
      else if node.isDir && containsStagingDirectory node then true
      else stagingAmong rest

end

def standsFor (disk : CacheDisk) (tree : Node) (place : List Name) (access : Access) :
    Option Node :=
  if !access.stats then none
  else
    match tree.lookup place with
    | some .link => disk.follow tree place
    | other => other

/-- `remove_dir_all` does not follow a link. -/
def removeDirAll (disk : CacheDisk) (tree : Node) (place : List Name) : Node :=
  tree.removeAt place (disk.left tree place)

def keeps (pinnedVersion : String) (name : Name) (found : Option Node) : Bool :=
  !found.any FileTree.isDir || toStringLossy name = pinnedVersion.toList ||
    !isSafePathComponent (String.ofList (toStringLossy name)) ||
      found.any containsStagingDirectory

def pruneEntries (disk : CacheDisk) (moduleRoot : List Name) (pinnedVersion : String) :
    Node → List (Name × Access × Node) → Node × List (List Name)
  | tree, [] => (tree, [])
  | tree, (name, access, _) :: rest =>
      if !access.listed then pruneEntries disk moduleRoot pinnedVersion tree rest
      else
        let place := moduleRoot ++ [name]
        if keeps pinnedVersion name (standsFor disk tree place access) then
          pruneEntries disk moduleRoot pinnedVersion tree rest
        else
          let (after, removed) :=
            pruneEntries disk moduleRoot pinnedVersion (removeDirAll disk tree place) rest
          (after, place :: removed)

def pruneStaleVersions (platform : FilePath.Platform) (disk : CacheDisk) (tree : Node)
    (installRoot : List Component) (id pinnedVersion : String) : Node × List (List Name) :=
  if !isSafePathComponent id || !isSafePathComponent pinnedVersion then (tree, [])
  else
    match disk.locate tree (join platform installRoot id) with
    | none => (tree, [])
    | some moduleRoot =>
        match tree.lookup moduleRoot with
        | some (.dir listing children) =>
            if listing.opens then pruneEntries disk moduleRoot pinnedVersion tree children
            else (tree, [])
        | _ => (tree, [])

theorem isSafePathComponent_plain {component : String}
    (safe : isSafePathComponent component = true) :
    Plain component.toList ∧ component.toList.head? ≠ some '.' := by
  unfold isSafePathComponent at safe
  simp only [Bool.and_eq_true, bne_iff_ne, ne_eq, Bool.not_eq_true',
    List.contains_eq_mem, decide_eq_false_iff_not] at safe
  obtain ⟨⟨⟨⟨⟨⟨⟨filled, dot⟩, dots⟩, slash⟩, backslash⟩, _⟩, colon⟩, first⟩ := safe
  refine ⟨⟨?_, ?_, ?_, slash, backslash, colon⟩, first⟩
  · exact fun empty => filled (String.toList_inj.mp empty)
  · exact fun same => dot (String.toList_inj.mp same)
  · exact fun same => dots (String.toList_inj.mp same)

variable {platform : FilePath.Platform} {installRoot : List Component} {name : Name} {tree : Node}

theorem join_safe {path : List Component} {name : String} (safe : isSafePathComponent name = true) :
    join platform path name = path ++ [.normal (ofChars name.toList)] := by
  unfold join
  rw [(isSafePathComponent_plain safe).1.components_eq, push_normal]

theorem artifactDirPath_eq {path : List Component} {id version hostKey : String}
    (accepted : artifactDirPath platform installRoot id version hostKey = some path) :
    path = installRoot ++ [.normal (ofChars id.toList), .normal (ofChars version.toList),
      .normal (ofChars hostKey.toList)] ∧
      Plain id.toList ∧ Plain version.toList ∧ Plain hostKey.toList := by
  unfold artifactDirPath at accepted
  split at accepted
  · rename_i safe
    simp only [List.all_cons, List.all_nil, Bool.and_true, Bool.and_eq_true] at safe
    obtain ⟨first, second, third⟩ := safe
    cases accepted
    refine ⟨?_, (isSafePathComponent_plain first).1, (isSafePathComponent_plain second).1,
      (isSafePathComponent_plain third).1⟩
    rw [List.foldl_cons, List.foldl_cons, List.foldl_cons, List.foldl_nil, join_safe first,
      join_safe second, join_safe third, List.append_assoc, List.append_assoc]
    rfl
  · cases accepted

theorem artifactDirPath_injective {path : List Component}
    {id version hostKey id' version' hostKey' : String}
    (first : artifactDirPath platform installRoot id version hostKey = some path)
    (second : artifactDirPath platform installRoot id' version' hostKey' = some path) :
    (id, version, hostKey) = (id', version', hostKey') := by
  have same := (artifactDirPath_eq first).1.symm.trans (artifactDirPath_eq second).1
  have names := List.append_cancel_left same
  simp only [List.cons.injEq, Component.normal.injEq, and_true] at names
  obtain ⟨one, two, three⟩ := names
  rw [String.toList_inj.mp (ofChars_injective one), String.toList_inj.mp (ofChars_injective two),
    String.toList_inj.mp (ofChars_injective three)]

structure Clean (version : Node) : Prop where
  readable : ∀ path listing children, version.lookup path = some (.dir listing children) →
    listing.opens = true ∧ listing.fails = false ∧
      ∀ entry ∈ children, entry.2.1.listed = true ∧ entry.2.1.typed = true
  unstaged : ∀ path name below, version.lookup (path ++ [name]) = some below →
    ¬ ofChars STAGING_PREFIX.toList <+: name

theorem toStringLossy_ofChars (chars : List Char) : toStringLossy (ofChars chars) = chars := by
  unfold toStringLossy ofChars
  rw [List.map_map]
  exact List.map_id chars

theorem isStaging_of_begins (staging : ofChars STAGING_PREFIX.toList <+: name) :
    isStaging name = true := by
  obtain ⟨rest, rfl⟩ := staging
  unfold isStaging
  rw [List.isPrefixOf_iff_prefix]
  refine ⟨toStringLossy rest, ?_⟩
  have begins := toStringLossy_ofChars STAGING_PREFIX.toList
  unfold toStringLossy at begins ⊢
  rw [List.map_append, begins]

theorem stagingAmong_false {children : List (Name × Access × Node)}
    (none : stagingAmong children = false) :
    ∀ entry ∈ children, entry.2.1.listed = true ∧ entry.2.1.typed = true ∧
      isStaging entry.1 = false ∧
        (entry.2.2.isDir = true → containsStagingDirectory entry.2.2 = false) := by
  induction children with
  | nil => exact nofun
  | cons first rest ih =>
      obtain ⟨name, access, node⟩ := first
      rw [stagingAmong] at none
      split at none
      · cases none
      · rename_i listed
        split at none
        · cases none
        · rename_i plain
          split at none
          · cases none
          · rename_i typed
            split at none
            · cases none
            · rename_i inner
              refine List.forall_mem_cons.mpr ⟨?_, ih none⟩
              rw [Bool.not_eq_true', Bool.not_eq_false] at listed typed
              refine ⟨listed, typed, eq_false_of_ne_true plain, fun directory => ?_⟩
              exact eq_false_of_ne_true fun staged => inner (by rw [directory, staged]; rfl)

private theorem child_unstaged {version below : Node}
    (searched : containsStagingDirectory version = false)
    (found : version.child name = some below) :
    isStaging name = false ∧ (below.isDir = true → containsStagingDirectory below = false) := by
  cases version with
  | file => cases found
  | link => cases found
  | dir listing children =>
      rw [containsStagingDirectory, Bool.or_eq_false_iff, Bool.or_eq_false_iff] at searched
      obtain ⟨entry, among⟩ := FileTree.mem_of_childAmong found
      exact (stagingAmong_false searched.2.1 _ among).2.2

private theorem isDir_of_lookup {below : Node} {rest : List Name}
    (found : tree.lookup (name :: rest) = some below) : tree.isDir = true := by
  cases tree with
  | file => cases found
  | link => cases found
  | dir listing children => rfl

theorem clean_of_searched {version : Node}
    (searched : containsStagingDirectory version = false) : Clean version := by
  constructor
  · intro path
    induction path generalizing version with
    | nil =>
        intro listing children found
        cases found
        rw [containsStagingDirectory, Bool.or_eq_false_iff, Bool.or_eq_false_iff,
          Bool.not_eq_false'] at searched
        refine ⟨searched.1, searched.2.2, fun entry among => ?_⟩
        obtain ⟨listed, typed, _⟩ := stagingAmong_false searched.2.1 entry among
        exact ⟨listed, typed⟩
    | cons name rest ih =>
        intro listing children found
        obtain ⟨below, child, inner⟩ := Option.bind_eq_some_iff.mp found
        have directory : below.isDir = true := by
          cases rest with
          | nil =>
              cases inner
              rfl
          | cons next rest => exact isDir_of_lookup inner
        exact ih ((child_unstaged searched child).2 directory) listing children inner
  · intro path
    induction path generalizing version with
    | nil =>
        intro name below found staging
        obtain ⟨inner, child, _⟩ := Option.bind_eq_some_iff.mp found
        have plain := (child_unstaged searched child).1
        rw [isStaging_of_begins staging] at plain
        cases plain
    | cons first rest ih =>
        intro name below found
        obtain ⟨inner, child, deeper⟩ := Option.bind_eq_some_iff.mp found
        have directory : inner.isDir = true := by
          cases rest with
          | nil => exact isDir_of_lookup deeper
          | cons next rest => exact isDir_of_lookup deeper
        exact ih ((child_unstaged searched child).2 directory) name below deeper

/-- A version that may go: a child of the directory of its module with another name than the
pinned one and no hidden one, and clean if it is a directory. -/
structure Removable (tree : Node) (moduleRoot : List Name) (pinnedVersion : String)
    (place : List Name) : Prop where
  child : ∃ name, place = moduleRoot ++ [name] ∧ name ≠ ofChars pinnedVersion.toList ∧
    name.head? ≠ some (.char '.')
  clean : ∀ version, tree.lookup place = some version → version.isDir = true → Clean version

variable {disk : CacheDisk} {moduleRoot : List Name} {pinnedVersion : String}

theorem removable_of_not_kept {access : Access}
    (goes : keeps pinnedVersion name (standsFor disk tree (moduleRoot ++ [name]) access) = false) :
    Removable tree moduleRoot pinnedVersion (moduleRoot ++ [name]) := by
  unfold keeps at goes
  rw [Bool.or_eq_false_iff, Bool.or_eq_false_iff, Bool.or_eq_false_iff, Bool.not_eq_false',
    Bool.not_eq_false', decide_eq_false_iff_not] at goes
  obtain ⟨⟨⟨stands, other⟩, safe⟩, searched⟩ := goes
  refine ⟨⟨name, rfl, ?_, ?_⟩, ?_⟩
  · rintro rfl
    exact other (toStringLossy_ofChars _)
  · intro hidden
    refine (isSafePathComponent_plain safe).2 ?_
    rw [String.toList_ofList]
    cases name with
    | nil => cases hidden
    | cons first rest =>
        cases hidden
        rfl
  · intro version found directory
    refine clean_of_searched ?_
    unfold standsFor at stands searched
    split at searched
    · rename_i absent
      rw [if_pos absent] at stands
      cases stands
    · rw [found] at searched
      cases version with
      | file => cases directory
      | link => cases directory
      | dir listing children => exact searched

theorem Removable.of_removed {place : List Name}
    (known : Removable tree moduleRoot pinnedVersion (moduleRoot ++ [name]))
    (later : Removable (removeDirAll disk tree (moduleRoot ++ [name])) moduleRoot pinnedVersion
      place) : Removable tree moduleRoot pinnedVersion place := by
  obtain ⟨⟨other, rfl, pinned, hidden⟩, clean⟩ := later
  by_cases same : other = name
  · exact same ▸ known
  · have apart : ∀ left right : Name, left ≠ right →
        ¬ moduleRoot ++ [left] <+: moduleRoot ++ [right] := by
      intro left right different below
      have equal := below.eq_of_length (by simp)
      exact different (List.cons.inj (List.append_cancel_left equal)).1
    refine ⟨⟨other, rfl, pinned, hidden⟩, fun version found => clean version ?_⟩
    unfold removeDirAll
    rw [FileTree.lookup_removeAt (apart name other (Ne.symm same)) (apart other name same)]
    exact found

theorem pruneEntries_removes {after : Node} {entries : List (Name × Access × Node)}
    {removed : List (List Name)}
    (pruned : pruneEntries disk moduleRoot pinnedVersion tree entries = (after, removed)) :
    (∀ place ∈ removed, Removable tree moduleRoot pinnedVersion place) ∧
      ∀ other, (∀ place ∈ removed, ¬ place <+: other) →
        after.shapeAt other = tree.shapeAt other := by
  induction entries generalizing tree after removed with
  | nil =>
      cases pruned
      exact ⟨nofun, fun _ _ => rfl⟩
  | cons entry rest ih =>
      obtain ⟨name, access, node⟩ := entry
      rw [pruneEntries] at pruned
      split at pruned
      · exact ih pruned
      · dsimp only at pruned
        split at pruned
        · exact ih pruned
        · rename_i goes
          have known : Removable tree moduleRoot pinnedVersion (moduleRoot ++ [name]) :=
            removable_of_not_kept (eq_false_of_ne_true goes)
          generalize others : pruneEntries disk moduleRoot pinnedVersion
            (removeDirAll disk tree (moduleRoot ++ [name])) rest = result at pruned
          obtain ⟨later, gone⟩ := result
          cases pruned
          obtain ⟨each, frame⟩ := ih others
          refine ⟨List.forall_mem_cons.mpr ⟨known, fun place among =>
            known.of_removed (each place among)⟩, ?_⟩
          intro other clear
          obtain ⟨here, beyond⟩ := List.forall_mem_cons.mp clear
          rw [frame other beyond]
          exact FileTree.shapeAt_removeAt here

theorem pruneStaleVersions_removes {after : Node} {id : String} {removed : List (List Name)}
    (pruned : pruneStaleVersions platform disk tree installRoot id pinnedVersion =
      (after, removed)) :
    (∀ place ∈ removed, ∃ moduleRoot,
      disk.locate tree (installRoot ++ [.normal (ofChars id.toList)]) = some moduleRoot ∧
        Removable tree moduleRoot pinnedVersion place) ∧
      ∀ other, (∀ place ∈ removed, ¬ place <+: other) →
        after.shapeAt other = tree.shapeAt other := by
  have nothing : (after, removed) = (tree, []) → (∀ place ∈ removed, ∃ moduleRoot,
      disk.locate tree (installRoot ++ [.normal (ofChars id.toList)]) = some moduleRoot ∧
        Removable tree moduleRoot pinnedVersion place) ∧
      ∀ other, (∀ place ∈ removed, ¬ place <+: other) →
        after.shapeAt other = tree.shapeAt other := by
    intro same
    cases same
    exact ⟨nofun, fun _ _ => rfl⟩
  unfold pruneStaleVersions at pruned
  split at pruned
  · exact nothing pruned.symm
  · rename_i named
    rw [Bool.or_eq_true, not_or, Bool.not_eq_true', Bool.not_eq_false] at named
    rw [join_safe named.1] at pruned
    split at pruned
    · exact nothing pruned.symm
    · rename_i moduleRoot located
      split at pruned
      · split at pruned
        · obtain ⟨each, frame⟩ := pruneEntries_removes pruned
          exact ⟨fun place among => ⟨moduleRoot, located, each place among⟩, frame⟩
        · exact nothing pruned.symm
      · exact nothing pruned.symm

def Spared (tree : Node) (moduleRoot : List Name) (pinnedVersion : String) (name : Name) : Prop :=
  name = ofChars pinnedVersion.toList ∨ name.head? = some (.char '.') ∨
    ∃ version, tree.lookup (moduleRoot ++ [name]) = some version ∧ version.isDir = true ∧
      ¬ Clean version

theorem Removable.apart {place rest : List Name}
    (removable : Removable tree moduleRoot pinnedVersion place)
    (spared : Spared tree moduleRoot pinnedVersion name) :
    ¬ place <+: moduleRoot ++ name :: rest := by
  obtain ⟨⟨other, rfl, pinned, hidden⟩, clean⟩ := removable
  intro below
  rw [List.prefix_append_right_inj, List.cons_prefix_cons] at below
  obtain ⟨rfl, _⟩ := below
  rcases spared with same | dotted | ⟨version, found, directory, unclean⟩
  · exact pinned same
  · exact hidden dotted
  · exact unclean (clean version found directory)

/-- What a prune leaves as it was. -/
structure Untouched (tree after : Node) (moduleRoot : List Name) (pinnedVersion : String) :
    Prop where
  outside : ∀ other, ¬ moduleRoot <+: other → after.shapeAt other = tree.shapeAt other
  itself : after.shapeAt moduleRoot = tree.shapeAt moduleRoot
  spared : ∀ name rest, Spared tree moduleRoot pinnedVersion name →
    after.shapeAt (moduleRoot ++ name :: rest) = tree.shapeAt (moduleRoot ++ name :: rest)

end CachePruning

open CachePruning

/-- An artifact has a path three names below the root, and one of its own; and a prune only
removes children of the directory of the module, among them nothing that it has to spare. -/
theorem cache_paths_and_pruning (platform : FilePath.Platform) (installRoot : List Component) :
    (∀ id version hostKey path,
      artifactDirPath platform installRoot id version hostKey = some path →
        path = installRoot ++ [.normal (ofChars id.toList), .normal (ofChars version.toList),
            .normal (ofChars hostKey.toList)] ∧
          Plain id.toList ∧ Plain version.toList ∧ Plain hostKey.toList) ∧
      (∀ id version hostKey id' version' hostKey' path,
        artifactDirPath platform installRoot id version hostKey = some path →
          artifactDirPath platform installRoot id' version' hostKey' = some path →
            (id, version, hostKey) = (id', version', hostKey')) ∧
      ∀ disk tree id pinnedVersion after removed,
        pruneStaleVersions platform disk tree installRoot id pinnedVersion = (after, removed) →
          (∀ place ∈ removed, ∃ moduleRoot,
            disk.locate tree (installRoot ++ [.normal (ofChars id.toList)]) = some moduleRoot ∧
              Removable tree moduleRoot pinnedVersion place) ∧
            (∀ other, (∀ place ∈ removed, ¬ place <+: other) →
              after.shapeAt other = tree.shapeAt other) ∧
            ∀ moduleRoot,
              disk.locate tree (installRoot ++ [.normal (ofChars id.toList)]) = some moduleRoot →
                Untouched tree after moduleRoot pinnedVersion := by
  refine ⟨fun _ _ _ _ => artifactDirPath_eq, fun _ _ _ _ _ _ _ => artifactDirPath_injective, ?_⟩
  intro disk tree id pinnedVersion after removed pruned
  obtain ⟨each, frame⟩ := pruneStaleVersions_removes pruned
  refine ⟨each, frame, fun moduleRoot located => ?_⟩
  have below : ∀ place ∈ removed, Removable tree moduleRoot pinnedVersion place := by
    intro place among
    obtain ⟨other, found, removable⟩ := each place among
    cases located.symm.trans found
    exact removable
  refine ⟨?_, ?_, ?_⟩
  · intro other away
    refine frame other fun place among inside => away ?_
    obtain ⟨⟨name, rfl, _, _⟩, _⟩ := below place among
    exact (List.prefix_append _ _).trans inside
  · refine frame moduleRoot fun place among inside => ?_
    obtain ⟨⟨name, rfl, _, _⟩, _⟩ := below place among
    have shorter := inside.length_le
    rw [List.length_append, List.length_singleton] at shorter
    omega
  · intro name rest spared
    exact frame _ fun place among => (below place among).apart spared

def holding (entries : List (String × Node)) : Node :=
  FileTree.dir ⟨true, false⟩
    (entries.map (fun entry => (ofChars entry.1.toList, ⟨true, true, true⟩, entry.2)))

/-- A stale version, the pinned one, and two that are being staged. -/
def demoTree : Node :=
  holding [("demo", holding [("0.1", holding [("a.so", .file)]), ("0.2", holding []),
    ("0.3", holding [("linux", holding [(".staging-1", holding [])])]),
    (".staging-2", holding [])])]

def demoDisk : CacheDisk :=
  ⟨fun _ _ => some [ofChars "demo".toList], fun _ _ => none, fun _ _ => none⟩

theorem demo_pruned :
    (pruneStaleVersions .unix demoDisk demoTree [] "demo" "0.2").2 =
        [[ofChars "demo".toList, ofChars "0.1".toList]] ∧
      Untouched demoTree (pruneStaleVersions .unix demoDisk demoTree [] "demo" "0.2").1
        [ofChars "demo".toList] "0.2" :=
  ⟨by decide +kernel,
    ((cache_paths_and_pruning .unix []).2.2 demoDisk demoTree "demo" "0.2" _ _ rfl).2.2 _ rfl⟩

end TinyBus
