/-
Where an accepted path of a release archive leads.  Its components are the parts of the
entry's name, none of them is more than a name on any platform, and below a destination
it stays there.
-/

import TinyBus.ZipPlans
import TinyBus.Library.FilePaths
import TinyBus.Library.Separated

namespace TinyBus

namespace Zip

/-- The text of a component that is a name. -/
def Component.text : Component → List Char
  | .normal (some name) => name.toList
  | _ => []

/-- `PathBuf::push`, part by part. -/
def builtPath (platform : FilePath.Platform) (parts : List (List Char)) :
    List FilePath.Component :=
  parts.foldl (fun path part =>
    FilePath.push path (platform.components (FilePath.ofChars part))) []

def isNormal : FilePath.Component → Bool
  | .normal _ => true
  | _ => false

/-- `checked_path` to its end: the parts that passed are built into a path, and its
components are looked at once more. -/
def checkedPathBuf (platform : FilePath.Platform) (rules : PathRules) (original : String)
    (maxDepth : Nat) : Except Error (List FilePath.Component × Bool × Nat) := do
  let (parts, isDir, count) ← checkedPath rules original maxDepth
  let path := builtPath platform (parts.map Component.text)
  require (path.all isNormal) unsafePath
  return (path, isDir, count)

/-- The path of an entry, whose name is any bytes. -/
def RawPath.checked (platform : FilePath.Platform) (rules : PathRules) (maxDepth : Nat)
    (raw : RawPath) : Except Error (List FilePath.Component × Bool × Nat) := do
  let original ← raw.text
  checkedPathBuf platform rules original maxDepth

def deviceNames : List (List Char) :=
  ["CON", "PRN", "AUX", "NUL"].map String.toList ++
    ["COM", "LPT"].flatMap (fun start =>
      ['1', '2', '3', '4', '5', '6', '7', '8', '9'].map (fun number => start.toList ++ [number]))

def SpelledAs (written device : List Char) : Prop :=
  List.Forall₂ (fun char letter => char = letter ∨ char = letter.toLower) written device

/-- A name that stands for another one: Windows drops a dot or a space at its end, and
reads a device whatever extension follows it. -/
inductive ReadAsAnother : List Char → Prop
  | dot (start : List Char) : ReadAsAnother (start ++ ['.'])
  | space (start : List Char) : ReadAsAnother (start ++ [' '])
  | device {written device : List Char} (spaces : Nat) (extension : List Char)
      (known : device ∈ deviceNames) (spelled : SpelledAs written device)
      (apart : extension = [] ∨ extension.head? = some '.') :
      ReadAsAnother (written ++ List.replicate spaces ' ' ++ extension)

theorem device_letters :
    ∀ device ∈ deviceNames, ∀ letter ∈ device,
      letter.toUpper = letter ∧ letter.toLower.toUpper = letter ∧
        letter ≠ '.' ∧ letter ≠ ' ' ∧ letter.toLower ≠ '.' ∧ letter.toLower ≠ ' ' := by
  intro device known letter among
  have checked : deviceNames.all (fun device => device.all fun letter =>
      decide (letter.toUpper = letter ∧ letter.toLower.toUpper = letter ∧
        letter ≠ '.' ∧ letter ≠ ' ' ∧ letter.toLower ≠ '.' ∧ letter.toLower ≠ ' ')) = true := by
    decide
  exact of_decide_eq_true
    (List.all_eq_true.mp (List.all_eq_true.mp checked device known) letter among)

namespace SpelledAs

variable {written device : List Char}

theorem upper (spelled : SpelledAs written device)
    (letters : ∀ letter ∈ device, letter.toUpper = letter ∧ letter.toLower.toUpper = letter) :
    written.map Char.toUpper = device := by
  induction spelled with
  | nil => rfl
  | @cons char letter written device same rest ih =>
      have here := letters letter List.mem_cons_self
      have later := ih (fun other among => letters other (List.mem_cons_of_mem _ among))
      rw [List.map_cons, later]
      rcases same with rfl | rfl
      · rw [here.1]
      · rw [here.2]

theorem free (spelled : SpelledAs written device)
    (letters : ∀ letter ∈ device,
      letter ≠ '.' ∧ letter ≠ ' ' ∧ letter.toLower ≠ '.' ∧ letter.toLower ≠ ' ') :
    ∀ char ∈ written, char ≠ '.' ∧ char ≠ ' ' := by
  induction spelled with
  | nil => nofun
  | @cons char letter written device same rest ih =>
      have here := letters letter List.mem_cons_self
      have later := ih (fun other among => letters other (List.mem_cons_of_mem _ among))
      intro other among
      rcases List.mem_cons.mp among with rfl | within
      · rcases same with rfl | rfl
        · exact ⟨here.1, here.2.1⟩
        · exact here.2.2
      · exact later other within

end SpelledAs

theorem splitOn_headD {first rest : List Char} (free : '.' ∉ first)
    (apart : rest = [] ∨ rest.head? = some '.') :
    ((first ++ rest).splitOn '.').headD [] = first := by
  rcases apart with rfl | dotted
  · rw [List.append_nil, List.splitOn_eq_singleton free]
    rfl
  · cases rest with
    | nil => cases dotted
    | cons char others =>
        cases dotted
        rw [List.splitOn_append_cons_self_of_not_mem free]
        rfl

theorem trimEnd_eq {start ending : List Char} {dropped : Char → Bool}
    (trimmed : ∀ char ∈ ending, dropped char = true)
    (kept : ∀ char ∈ start, dropped char = false) :
    ((start ++ ending).reverse.dropWhile dropped).reverse = start := by
  have stops : start.reverse.dropWhile dropped = start.reverse := by
    cases turned : start.reverse with
    | nil => rfl
    | cons char others =>
        have among : char ∈ start :=
          List.mem_reverse.mp (turned ▸ List.mem_cons_self)
        exact List.dropWhile_cons_of_neg (by rw [kept char among]; exact Bool.false_ne_true)
  rw [List.reverse_append, List.dropWhile_append_of_pos, stops, List.reverse_reverse]
  intro char among
  exact trimmed char (List.mem_reverse.mp among)

theorem known_devices : ∀ device ∈ deviceNames,
    (["CON", "PRN", "AUX", "NUL"].any (fun name => device == name.toList) ||
      ["COM", "LPT"].any (fun start => start.toList.isPrefixOf device &&
        ["1", "2", "3", "4", "5", "6", "7", "8", "9", "¹", "²", "³"].any
          (fun number => device.drop start.toList.length == number.toList))) = true := by
  decide

theorem isWindowsDeviceName_of_device {written device : List Char} (spaces : Nat)
    {extension : List Char} (known : device ∈ deviceNames) (spelled : SpelledAs written device)
    (apart : extension = [] ∨ extension.head? = some '.') :
    isWindowsDeviceName (written ++ List.replicate spaces ' ' ++ extension) = true := by
  have letters := device_letters device known
  have free := spelled.free (fun letter among => (letters letter among).2.2)
  have undotted : '.' ∉ written ++ List.replicate spaces ' ' := by
    intro among
    rcases List.mem_append.mp among with within | blank
    · exact (free '.' within).1 rfl
    · exact absurd (List.eq_of_mem_replicate blank) (by decide)
  have stem : ((written ++ List.replicate spaces ' ').reverse.dropWhile
      (fun char => char == '.' || char == ' ')).reverse = written :=
    trimEnd_eq (fun char among => by rw [List.eq_of_mem_replicate among]; rfl)
      (fun char among => by
        obtain ⟨dot, space⟩ := free char among
        rw [beq_false_of_ne dot, beq_false_of_ne space]
        rfl)
  have upper := spelled.upper (fun letter among => ⟨(letters letter among).1,
    (letters letter among).2.1⟩)
  unfold isWindowsDeviceName
  rw [splitOn_headD undotted apart]
  dsimp only
  rw [stem, upper]
  exact known_devices device known

structure Parted (original : String) (maxDepth : Nat) (parts : List (List Char))
    (isDir : Bool) : Prop where
  whole : original.toList = ['/'].intercalate parts ++ if isDir then ['/'] else []
  within : parts.length ≤ maxDepth
  some : parts ≠ []
  plain : ∀ part ∈ parts, FilePath.Plain part
  itself : ∀ part ∈ parts, ¬ReadAsAnother part

theorem not_readAsAnother {part : List Char}
    (checked : (part.getLast? == some '.' || part.getLast? == some ' ' ||
      isWindowsDeviceName part) = false) : ¬ReadAsAnother part := by
  rw [Bool.or_eq_false_iff, Bool.or_eq_false_iff] at checked
  intro another
  cases another with
  | dot start =>
      rw [List.getLast?_concat] at checked
      exact Bool.noConfusion checked.1.1
  | space start =>
      rw [List.getLast?_concat] at checked
      exact Bool.noConfusion checked.1.2
  | device spaces extension known spelled apart =>
      rw [isWindowsDeviceName_of_device spaces known spelled apart] at checked
      exact Bool.noConfusion checked.2

theorem parts_whole (chars : List Char) :
    chars = ['/'].intercalate
        ((if chars.getLast? == some '/' then chars.dropLast else chars).splitOn '/') ++
      if chars.getLast? == some '/' then ['/'] else [] := by
  rw [List.intercalate_splitOn]
  by_cases slash : chars.getLast? = some '/'
  · rw [if_pos (beq_iff_eq.mpr slash), if_pos (beq_iff_eq.mpr slash)]
    exact (List.dropLast_append_getLast? '/' slash).symm
  · rw [if_neg (fun same => slash (beq_iff_eq.mp same)),
      if_neg (fun same => slash (beq_iff_eq.mp same)), List.append_nil]

theorem mem_of_part {chars part : List Char} {char : Char}
    (among : part ∈ (if chars.getLast? == some '/' then chars.dropLast else chars).splitOn '/')
    (within : char ∈ part) : char ∈ chars := by
  have inside := Separated.mem_of_splitOn among within
  by_cases slash : chars.getLast? = some '/'
  · rw [if_pos (beq_iff_eq.mpr slash)] at inside
    exact List.dropLast_subset _ inside
  · rwa [if_neg (fun same => slash (beq_iff_eq.mp same))] at inside

variable {isDir : Bool} {parts : List (List Char)}

theorem checkedPath_ok {rules : PathRules} {original : String} {maxDepth count : Nat}
    {path : List Component}
    (succeeds : checkedPath rules original maxDepth = .ok (path, isDir, count)) :
    ∃ parts, Parted original maxDepth parts isDir ∧
      path = parts.map (fun part => .normal (some (String.ofList part))) ∧
      count = parts.length := by
  unfold checkedPath at succeeds
  obtain ⟨_, characters, succeeds⟩ := bind_ok succeeds
  obtain ⟨_, _, succeeds⟩ := bind_ok succeeds
  obtain ⟨_, depth, succeeds⟩ := bind_ok succeeds
  obtain ⟨_, _, succeeds⟩ := bind_ok succeeds
  obtain ⟨_, named, succeeds⟩ := bind_ok succeeds
  obtain ⟨_, spared, succeeds⟩ := bind_ok succeeds
  cases succeeds
  replace characters := require_ok characters
  replace depth := of_decide_eq_true (require_ok depth)
  replace named := require_ok named
  replace spared := require_ok spared
  simp only [Bool.not_eq_true', Bool.or_eq_false_iff] at characters named
  rw [Bool.not_eq_true'] at spared
  obtain ⟨⟨⟨_, backslash⟩, colon⟩, _⟩ := characters
  obtain ⟨some, named⟩ := named
  refine ⟨_, ⟨parts_whole _, depth, ?_, ?_, ?_⟩, rfl, rfl⟩
  · exact fun empty => by rw [empty] at some; cases some
  · intro part among
    have checked := List.any_eq_false.mp named part among
    simp only [Bool.or_eq_true, not_or, beq_iff_eq, List.isEmpty_iff] at checked
    exact
      { filled := checked.1.1
        notDot := checked.1.2
        notDots := checked.2
        noSlash := Separated.splitOn_free among
        noBackslash := fun within => by
          have found := List.contains_iff_mem.mpr (mem_of_part among within)
          rw [backslash] at found
          cases found
        noColon := fun within => by
          have found := List.contains_iff_mem.mpr (mem_of_part among within)
          rw [colon] at found
          cases found }
  · intro part among
    exact not_readAsAnother (Bool.eq_false_iff.mpr (List.any_eq_false.mp spared part among))

theorem builtPath_eq (platform : FilePath.Platform) (plain : ∀ part ∈ parts, FilePath.Plain part) :
    builtPath platform parts = parts.map (fun part => .normal (FilePath.ofChars part)) := by
  have pushed := FilePath.foldl_push_normal [] (parts.map FilePath.ofChars)
  rw [List.foldl_map, List.nil_append, List.map_map] at pushed
  refine Eq.trans (List.foldl_ext _ _ [] ?_) pushed
  intro path part among
  rw [(plain part among).components_eq platform]

theorem checkedPathBuf_eq (platform : FilePath.Platform) (rules : PathRules) (original : String)
    (maxDepth : Nat) :
    checkedPathBuf platform rules original maxDepth =
      (checkedPath rules original maxDepth).map (fun (parts, isDir, count) =>
        (parts.map (fun part => .normal (FilePath.ofChars part.text)), isDir, count)) := by
  unfold checkedPathBuf
  cases succeeds : checkedPath rules original maxDepth with
  | error error => rfl
  | ok result =>
      obtain ⟨components, isDir, count⟩ := result
      obtain ⟨parts, parted, rfl, rfl⟩ := checkedPath_ok succeeds
      have texts : (parts.map (fun part => Component.normal (some (String.ofList part)))).map
          Component.text = parts := by
        rw [List.map_map]
        exact (List.map_congr_left (fun part _ => String.toList_ofList)).trans (List.map_id _)
      have normal : (parts.map (fun part =>
          FilePath.Component.normal (FilePath.ofChars part))).all isNormal = true := by
        rw [List.all_map]
        exact List.all_eq_true.mpr (fun _ _ => rfl)
      dsimp only [bind, Except.bind, Except.map]
      rw [texts, builtPath_eq platform parted.plain, normal]
      refine congrArg (fun path => Except.ok (path, isDir, parts.length)) ?_
      rw [List.map_map]
      exact List.map_congr_left (fun part _ =>
        congrArg (fun text => FilePath.Component.normal (FilePath.ofChars text))
          String.toList_ofList.symm)

/-- A path that stays where it is put: names only, the parts of the entry's name. -/
structure Confined (original : String) (maxDepth : Nat) (path : List FilePath.Component)
    (isDir : Bool) : Prop where
  normal : ∀ component ∈ path, isNormal component = true
  depth : 0 < path.length ∧ path.length ≤ maxDepth
  parts : ∃ parts, Parted original maxDepth parts isDir ∧
    path = parts.map (fun part => .normal (FilePath.ofChars part))
  below : ∀ destination, FilePath.Below destination (FilePath.push destination path)

theorem checkedPathBuf_ok {platform : FilePath.Platform} {rules : PathRules} {original : String}
    {maxDepth count : Nat} {path : List FilePath.Component}
    (succeeds : checkedPathBuf platform rules original maxDepth = .ok (path, isDir, count)) :
    ∃ parts, Parted original maxDepth parts isDir ∧
      path = parts.map (fun part => .normal (FilePath.ofChars part)) ∧ count = parts.length := by
  rw [checkedPathBuf_eq] at succeeds
  cases checked : checkedPath rules original maxDepth with
  | error error =>
      rw [checked] at succeeds
      cases succeeds
  | ok result =>
      obtain ⟨components, directory, total⟩ := result
      obtain ⟨parts, parted, rfl, rfl⟩ := checkedPath_ok checked
      rw [checked] at succeeds
      cases succeeds
      refine ⟨parts, parted, ?_, rfl⟩
      rw [List.map_map]
      exact List.map_congr_left (fun part _ =>
        congrArg (fun text => FilePath.Component.normal (FilePath.ofChars text))
          String.toList_ofList)

theorem Parted.confined {original : String} {maxDepth : Nat}
    (parted : Parted original maxDepth parts isDir) :
    Confined original maxDepth (parts.map (fun part => .normal (FilePath.ofChars part)))
      isDir where
  normal := by
    intro component among
    obtain ⟨part, _, rfl⟩ := List.mem_map.mp among
    rfl
  depth := by
    rw [List.length_map]
    exact ⟨List.length_pos_iff.mpr parted.some, parted.within⟩
  parts := ⟨parts, parted, rfl⟩
  below := fun destination => by
    refine ⟨parts.map FilePath.ofChars, ?_, ?_⟩
    · exact fun none => parted.some (List.map_eq_nil_iff.mp none)
    · have pushed := FilePath.push_normals destination (parts.map FilePath.ofChars)
      rwa [List.map_map] at pushed ⊢

theorem Parted.name_eq {first second : String} {firstDepth secondDepth : Nat}
    (parted : Parted first firstDepth parts isDir)
    (other : Parted second secondDepth parts isDir) : second = first :=
  String.toList_inj.mp (other.whole.trans parted.whole.symm)

theorem RawPath.checked_ok {platform : FilePath.Platform} {rules : PathRules} {raw : RawPath}
    {maxDepth : Nat} {path : List FilePath.Component} {count : Nat}
    (accepts : raw.checked platform rules maxDepth = .ok (path, isDir, count)) :
    ∃ original, raw = .utf8 original ∧
      checkedPathBuf platform rules original maxDepth = .ok (path, isDir, count) := by
  obtain ⟨original, read, succeeds⟩ := bind_ok accepts
  cases raw with
  | utf8 text =>
      cases read
      exact ⟨_, rfl, succeeds⟩
  | other bytes => cases read

/-- The checked path of an entry is confined, and no other entry has the same one. -/
theorem checked_confined (platform : FilePath.Platform) (rules : PathRules) (maxDepth : Nat)
    (raw : RawPath) (path : List FilePath.Component) (isDir : Bool) (count : Nat)
    (accepts : raw.checked platform rules maxDepth = .ok (path, isDir, count)) :
    (∃ original, raw = .utf8 original ∧ Confined original maxDepth path isDir) ∧
      ∀ other depth total, RawPath.checked platform rules depth other = .ok (path, isDir, total) →
        other = raw := by
  obtain ⟨original, rfl, succeeds⟩ := RawPath.checked_ok accepts
  obtain ⟨parts, parted, rfl, rfl⟩ := checkedPathBuf_ok succeeds
  refine ⟨⟨original, rfl, parted.confined⟩, ?_⟩
  intro other depth total again
  obtain ⟨second, rfl, repeated⟩ := RawPath.checked_ok again
  obtain ⟨others, reparted, same, _⟩ := checkedPathBuf_ok repeated
  have equal : others = parts := by
    refine (List.map_injective_iff.mpr ?_ same).symm
    exact fun _ _ one => FilePath.ofChars_injective (FilePath.Component.normal.inj one)
  rw [equal] at reparted
  exact congrArg RawPath.utf8 (parted.name_eq reparted)

/-- A reader whose normalization leaves a name as it is. -/
def asIs : PathRules :=
  { folding := ⟨id, id⟩
    tryNormalize := some }

def toolPath : List FilePath.Component :=
  [.normal (FilePath.ofChars ['b', 'i', 'n']), .normal (FilePath.ofChars ['t', '.', 's', 'o'])]

theorem tool_confined :
    (∃ original, RawPath.utf8 "bin/t.so" = .utf8 original ∧
      Confined original 8 toolPath false) ∧
      ∀ other depth total,
        RawPath.checked .windows asIs depth other = .ok (toolPath, false, total) →
          other = .utf8 "bin/t.so" :=
  checked_confined .windows asIs 8 (.utf8 "bin/t.so") toolPath false 2 rfl

end Zip

end TinyBus
