import Mathlib.Data.List.Basic

/-!
File paths, on Unix and on Windows.

A text is read as components: a drive, a root, and names between separators.  A path is
pushed on another one component by component.  A name that neither platform reads as more
than a name stays one, below whatever it is pushed on.
-/

namespace FilePath

/-- A character of a path, or bytes that are the text of none. -/
inductive Glyph where
  | char (value : Char)
  | bytes (raw : List UInt8)
  deriving DecidableEq

abbrev Text := List Glyph

def ofChars (chars : List Char) : Text := chars.map .char

inductive Platform where
  | unix
  | windows
  deriving DecidableEq

def Platform.isSeparator : Platform → Glyph → Bool
  | .unix, glyph => glyph == .char '/'
  | .windows, glyph => glyph == .char '/' || glyph == .char '\\'

def isVerbatimSeparator (glyph : Glyph) : Bool := glyph == .char '\\'

/-- What a path on Windows may begin with. -/
inductive Volume where
  | verbatim (name : Text)
  | verbatimUnc (server share : Text)
  | verbatimDisk (letter : Char)
  | deviceNs (name : Text)
  | unc (server share : Text)
  | disk (letter : Char)
  deriving DecidableEq

inductive Component where
  | drive (volume : Volume)
  | root
  | current
  | parent
  | normal (name : Text)
  deriving DecidableEq

namespace Volume

def isVerbatim : Volume → Bool
  | .verbatim _ | .verbatimUnc _ _ | .verbatimDisk _ => true
  | _ => false

/-- All but a plain drive letter lead to a root. -/
def hasImplicitRoot : Volume → Bool
  | .disk _ => false
  | _ => true

def shareLength (server share : Text) : Nat :=
  server.length + if share.isEmpty then 0 else 1 + share.length

def length : Volume → Nat
  | .verbatim name | .deviceNs name => 4 + name.length
  | .verbatimUnc server share => 8 + shareLength server share
  | .unc server share => 2 + shareLength server share
  | .verbatimDisk _ => 6
  | .disk _ => 2

def nextComponent (separates : Glyph → Bool) (text : Text) : Text × Text :=
  (text.takeWhile (fun glyph => !separates glyph),
    (text.dropWhile (fun glyph => !separates glyph)).drop 1)

def parseDrive : Text → Option Char
  | .char letter :: .char ':' :: _ => if letter.isAlpha then some letter.toUpper else none
  | _ => none

def parseDriveExact (text : Text) : Option Char :=
  if text[2]?.all isVerbatimSeparator then parseDrive text else none

/-- What follows two backslashes, a question mark and a backslash. -/
def parseVerbatim (text : Text) : Volume :=
  if text.take 3 = ofChars ['U', 'N', 'C'] ∧ text[3]?.any Platform.windows.isSeparator = true then
    let server := nextComponent isVerbatimSeparator (text.drop 4)
    .verbatimUnc server.1 (nextComponent isVerbatimSeparator server.2).1
  else
    match parseDriveExact text with
    | some letter => .verbatimDisk letter
    | none => .verbatim (nextComponent isVerbatimSeparator text).1

/-- What follows two separators of any kind. -/
def parseShare (text : Text) : Option Volume :=
  let separates := Platform.windows.isSeparator
  if text.head? = some (.char '.') ∧ text[1]?.any separates = true then
    some (.deviceNs (nextComponent separates (text.drop 2)).1)
  else
    let server := nextComponent separates text
    let share := nextComponent separates server.2
    if server.1.isEmpty || share.1.isEmpty then none else some (.unc server.1 share.1)

def parse (text : Text) : Option Volume :=
  if text.take 4 = ofChars ['\\', '\\', '?', '\\'] then some (parseVerbatim (text.drop 4))
  else if text.length < 2 ∨ (text.take 2).all Platform.windows.isSeparator = false then
    (parseDrive text).map .disk
  else parseShare (text.drop 2)

end Volume

def Platform.volume : Platform → Text → Option Volume
  | .unix, _ => none
  | .windows, text => Volume.parse text

/-- A piece between two separators; a single dot is a component only in some places. -/
def pieceComponent (dots : Bool) (piece : Text) : Option Component :=
  if piece = [] then none
  else if piece = ofChars ['.'] then if dots then some .current else none
  else if piece = ofChars ['.', '.'] then some .parent
  else some (.normal piece)

def Platform.components (platform : Platform) (text : Text) : List Component :=
  let volume := platform.volume text
  let verbatim := volume.any Volume.isVerbatim
  let separates := if verbatim then isVerbatimSeparator else platform.isSeparator
  let rest := text.drop (volume.elim 0 Volume.length)
  let physical := rest.head?.any separates
  let implicit := volume.any Volume.hasImplicitRoot
  let pieces := rest.splitOnP separates
  (volume.map .drive).toList ++
    (if physical || (implicit && !verbatim) then [.root] else []) ++
    (pieceComponent (verbatim || !(physical || implicit)) (pieces.headD [])).toList ++
    pieces.tail.filterMap (pieceComponent verbatim)

def isVerbatim : List Component → Bool
  | .drive volume :: _ => volume.isVerbatim
  | _ => false

/-- A component that is appended to a verbatim path, which stays normalized. -/
def pushVerbatim (path : List Component) : Component → List Component
  | .root => path.take 1 ++ [.root]
  | .current => path
  | .parent =>
      match path.getLast? with
      | some (.normal _) => path.dropLast
      | _ => path
  | component => path ++ [component]

/-- A dot is seen at the start of a path only. -/
def bare : List Component → Bool
  | [] => true
  | [.drive volume] => !volume.hasImplicitRoot
  | _ => false

/-- `PathBuf::push`, and so `Path::join`. -/
def push (path more : List Component) : List Component :=
  match more with
  | .drive _ :: _ => more
  | _ =>
    if isVerbatim path then more.foldl pushVerbatim path
    else
      match more with
      | .root :: _ => path.takeWhile (fun component => component matches .drive _) ++ more
      | _ => path ++ if bare path then more else more.filter (· != .current)

/-- A name of one component on every platform. -/
structure Plain (name : List Char) : Prop where
  filled : name ≠ []
  notDot : name ≠ ['.']
  notDots : name ≠ ['.', '.']
  noSlash : '/' ∉ name
  noBackslash : '\\' ∉ name
  noColon : ':' ∉ name

theorem ofChars_injective : Function.Injective ofChars :=
  List.map_injective_iff.mpr (fun _ _ same => Glyph.char.inj same)

namespace Plain

variable {name : List Char}

theorem separates (plain : Plain name) (platform : Platform) {glyph : Glyph}
    (among : glyph ∈ ofChars name) : platform.isSeparator glyph = false := by
  obtain ⟨char, within, rfl⟩ := List.mem_map.mp among
  have slash : char ≠ '/' := fun same => plain.noSlash (same ▸ within)
  have backslash : char ≠ '\\' := fun same => plain.noBackslash (same ▸ within)
  cases platform with
  | unix => simpa [Platform.isSeparator] using slash
  | windows => simpa [Platform.isSeparator] using ⟨slash, backslash⟩

theorem parseDrive_eq (plain : Plain name) : Volume.parseDrive (ofChars name) = none := by
  match name, plain with
  | [], _ => rfl
  | [_], _ => rfl
  | _ :: second :: _, plain =>
      have colon : second ≠ ':' := by
        rintro rfl
        exact plain.noColon (List.mem_cons_of_mem _ List.mem_cons_self)
      unfold Volume.parseDrive ofChars
      split
      · rename_i same
        simp only [List.map_cons, List.cons.injEq, Glyph.char.injEq] at same
        exact absurd same.2.1 colon
      · rfl

theorem volume_eq (plain : Plain name) (platform : Platform) :
    platform.volume (ofChars name) = none := by
  cases platform with
  | unix => rfl
  | windows =>
      have first : ∀ glyph ∈ (ofChars name).head?, Platform.windows.isSeparator glyph = false :=
        fun glyph among => plain.separates .windows (List.mem_of_mem_head? among)
      change Volume.parse (ofChars name) = none
      unfold Volume.parse
      cases name with
      | nil => exact absurd rfl plain.filled
      | cons head others =>
          have cut := first (.char head) rfl
          have ordinary : (ofChars (head :: others)).take 4 ≠ ofChars ['\\', '\\', '?', '\\'] := by
            intro same
            have is : Glyph.char head = .char '\\' := by
              simpa [ofChars] using congrArg List.head? same
            rw [is] at cut
            exact absurd cut (by decide)
          have unshared : (ofChars (head :: others)).length < 2 ∨
              ((ofChars (head :: others)).take 2).all Platform.windows.isSeparator = false := by
            cases others with
            | nil => exact .inl (Nat.lt_succ_self 1)
            | cons second rest =>
                right
                simp only [ofChars, List.map_cons, List.take_succ_cons, List.take_zero,
                  List.all_cons, cut, Bool.false_and]
          rw [if_neg ordinary, if_pos unshared, plain.parseDrive_eq]
          rfl

theorem pieceComponent_eq (plain : Plain name) (dots : Bool) :
    pieceComponent dots (ofChars name) = some (.normal (ofChars name)) := by
  have filled : ofChars name ≠ [] := fun same => plain.filled (List.map_eq_nil_iff.mp same)
  unfold pieceComponent
  rw [if_neg filled,
    if_neg (fun same => plain.notDot (ofChars_injective same)),
    if_neg (fun same => plain.notDots (ofChars_injective same))]

theorem components_eq (plain : Plain name) (platform : Platform) :
    platform.components (ofChars name) = [.normal (ofChars name)] := by
  have whole : (ofChars name).splitOnP platform.isSeparator = [ofChars name] :=
    List.splitOnP_eq_singleton (fun _ among => plain.separates platform among)
  have relative : (ofChars name).head?.any platform.isSeparator = false := by
    cases heads : (ofChars name).head? with
    | none => rfl
    | some glyph => exact plain.separates platform (List.mem_of_mem_head? heads)
  simp only [Platform.components, plain.volume_eq platform, Option.any_none, Option.elim_none,
    List.drop_zero, whole, relative, Option.map_none, Option.toList_none, List.headD_cons,
    List.tail_cons, List.filterMap_nil, plain.pieceComponent_eq, Bool.false_eq_true, if_false,
    Bool.false_or, Bool.false_and, List.nil_append, List.append_nil, Option.toList_some]

end Plain

theorem push_normal (path : List Component) (name : Text) :
    push path [.normal name] = path ++ [.normal name] := by
  unfold push
  by_cases verbatim : isVerbatim path = true
  · rw [if_pos verbatim]
    rfl
  · rw [if_neg verbatim]
    cases bare path <;> rfl

theorem foldl_push_normal (path : List Component) (names : List Text) :
    names.foldl (fun path name => push path [.normal name]) path =
      path ++ names.map .normal := by
  induction names generalizing path with
  | nil => exact (List.append_nil path).symm
  | cons name rest ih =>
      rw [List.foldl_cons, push_normal, ih, List.append_assoc]
      rfl

theorem push_normals (path : List Component) (names : List Text) :
    push path (names.map .normal) = path ++ names.map .normal := by
  have kept (rest : List Text) : (rest.map Component.normal).filter (· != .current) =
      rest.map .normal :=
    List.filter_eq_self.mpr (fun component among => by
      obtain ⟨name, _, rfl⟩ := List.mem_map.mp among
      rfl)
  have verbatim (base : List Component) (rest : List Text) :
      (rest.map Component.normal).foldl pushVerbatim base = base ++ rest.map .normal := by
    induction rest generalizing base with
    | nil => exact (List.append_nil base).symm
    | cons name others ih =>
        rw [List.map_cons, List.foldl_cons, ih]
        exact List.append_assoc base [.normal name] _
  unfold push
  cases names with
  | nil =>
      by_cases normalized : isVerbatim path = true
      · rw [List.map_nil]
        exact (if_pos normalized).trans (List.append_nil path).symm
      · rw [List.map_nil]
        refine (if_neg normalized).trans ?_
        cases bare path <;> rfl
  | cons name rest =>
      by_cases normalized : isVerbatim path = true
      · exact (if_pos normalized).trans (verbatim path (name :: rest))
      · refine (if_neg normalized).trans ?_
        cases bare path with
        | true => rfl
        | false => exact congrArg (path ++ ·) (kept (name :: rest))

/-- A path of which the other one is a directory on the way, and only names follow. -/
def Below (directory path : List Component) : Prop :=
  ∃ names : List Text, names ≠ [] ∧ path = directory ++ names.map .normal

end FilePath
