/-
What is left of a version and of a range when they are written out and read again.
A version is written with `-` before its tag, whichever separator it was read with; a
range is written as a list of bounds, so that its tags meet the list's own separator.
-/

import Mathlib.Data.List.TakeWhile
import TinyBus.Version
import TinyBus.Library.Decimal
import TinyBus.Library.Separated

namespace TinyBus

open Decimal

theorem isDigitRun_of_canonical {digits : List Char} (canonical : Canonical digits) :
    isDigitRun digits = true := by
  unfold isDigitRun
  rw [Bool.and_eq_true, List.all_eq_true]
  refine ⟨?_, canonical.2.1⟩
  cases digits with
  | nil => exact absurd rfl canonical.1
  | cons first rest => rfl

theorem parseU64_digits {digits : List Char} (run : isDigitRun digits = true) :
    parseU64 digits =
      if value digits < 2 ^ 64 then some (UInt64.ofNat (value digits)) else none := by
  unfold parseU64
  cases digits with
  | nil => exact absurd run (by decide)
  | cons first rest =>
      have digit : first.isDigit = true := by
        unfold isDigitRun at run
        rw [Bool.and_eq_true, List.all_eq_true] at run
        exact run.2 first List.mem_cons_self
      have plain : first ≠ '+' := by
        rintro rfl
        exact absurd digit (by decide)
      dsimp only
      split
      · rename_i same
        exact absurd (List.cons.inj same).1 plain
      · rw [if_pos run]
        rfl

theorem parseU64_toDigits (number : UInt64) :
    parseU64 (Nat.toDigits 10 number.toNat) = some number := by
  have run : isDigitRun (Nat.toDigits 10 number.toNat) = true := by
    unfold isDigitRun
    rw [Bool.and_eq_true, List.all_eq_true]
    refine ⟨?_, fun c among => isDigit_of_mem_toDigits among⟩
    cases written : Nat.toDigits 10 number.toNat with
    | nil => exact absurd written Nat.toDigits_ne_nil
    | cons first rest => rfl
  rw [parseU64_digits run, value_toDigits, if_pos number.toNat_lt, UInt64.ofNat_toNat]

theorem toDigits_of_parseU64 {digits : List Char} {number : UInt64}
    (canonical : Canonical digits) (read : parseU64 digits = some number) :
    Nat.toDigits 10 number.toNat = digits := by
  rw [parseU64_digits (isDigitRun_of_canonical canonical)] at read
  by_cases fits : value digits < 2 ^ 64
  · rw [if_pos fits] at read
    obtain rfl := Option.some.inj read
    rw [UInt64.toNat_ofNat_of_lt' fits, toDigits_value canonical]
  · rw [if_neg fits] at read
    cases read

namespace Version

variable {input : String} {version : Version}

def coreText (version : Version) : List Char :=
  Nat.toDigits 10 version.major.toNat ++ '.' ::
    (Nat.toDigits 10 version.minor.toNat ++ '.' :: Nat.toDigits 10 version.patch.toNat)

def tagText (version : Version) : List Char :=
  match version.tag with
  | some tag => '-' :: tag.toList
  | none => []

/-- The three components of a version text are canonical numerals. -/
def HasCanonicalCore (input : String) : Prop :=
  ∀ component ∈ (splitTag input.toList).1.splitOn '.', Canonical component

instance (input : String) : Decidable (HasCanonicalCore input) :=
  inferInstanceAs (Decidable (∀ component ∈ (splitTag input.toList).1.splitOn '.', _))

/-- The separator that the tag of a version text begins after. -/
def separator (input : String) : Option Char := input.toList.find? isTagStart

theorem text_toList (version : Version) :
    version.text.toList = version.coreText ++ version.tagText := by
  unfold text coreText tagText
  cases version.tag with
  | none => simp
  | some tag => simp

theorem parse_ok_iff : parse input = .ok version ↔
    ∃ major minor patch,
      (splitTag input.toList).1.splitOn '.' = [major, minor, patch] ∧
        parseU64 major = some version.major ∧ parseU64 minor = some version.minor ∧
        parseU64 patch = some version.patch ∧ (splitTag input.toList).2 = version.tag := by
  unfold parse
  constructor
  · intro read
    dsimp only at read
    split at read
    · rename_i major minor patch split
      split at read
      · rename_i first second third readMajor readMinor readPatch
        cases read
        exact ⟨major, minor, patch, split, readMajor, readMinor, readPatch, rfl⟩
      · cases read
    · cases read
  · rintro ⟨major, minor, patch, split, readMajor, readMinor, readPatch, tag⟩
    simp only [split, readMajor, readMinor, readPatch, tag]

theorem splitTag_cases (input : List Char) :
    input.find? isTagStart = none ∧ splitTag input = (input, none) ∨
      ∃ core mark tag, input = core ++ mark :: tag ∧ input.find? isTagStart = some mark ∧
        isTagStart mark = true ∧ splitTag input = (core, some (String.ofList tag)) := by
  unfold splitTag
  have joined := @List.takeWhile_append_dropWhile _ (fun c => !isTagStart c) input
  have found := input.find?_eq_head?_dropWhile_not isTagStart
  cases rest : input.dropWhile (fun c => !isTagStart c) with
  | nil =>
      rw [rest] at found
      exact .inl ⟨found, rfl⟩
  | cons mark tag =>
      rw [rest] at found joined
      exact .inr ⟨input.takeWhile (fun c => !isTagStart c), mark, tag, joined.symm, found,
        List.find?_some found, rfl⟩

private theorem not_mark_of_isDigit {c : Char} (digit : c.isDigit = true) :
    isTagStart c = false := by
  unfold isTagStart
  rw [Bool.or_eq_false_iff, beq_eq_false_iff_ne, beq_eq_false_iff_ne]
  constructor
  · rintro rfl
    exact absurd digit (by decide)
  · rintro rfl
    exact absurd digit (by decide)

theorem coreText_plain (version : Version) :
    ∀ c ∈ version.coreText, isTagStart c = false := by
  intro c among
  unfold coreText at among
  rw [List.mem_append, List.mem_cons, List.mem_append, List.mem_cons] at among
  rcases among with digit | rfl | digit | rfl | digit
  · exact not_mark_of_isDigit (isDigit_of_mem_toDigits digit)
  · rfl
  · exact not_mark_of_isDigit (isDigit_of_mem_toDigits digit)
  · rfl
  · exact not_mark_of_isDigit (isDigit_of_mem_toDigits digit)

theorem splitTag_text (version : Version) :
    splitTag version.text.toList = (version.coreText, version.tag) := by
  have passed : ∀ c ∈ version.coreText, (!isTagStart c) = true := by
    intro c among
    rw [coreText_plain version c among]
    rfl
  rw [text_toList]
  unfold splitTag tagText
  cases version.tag with
  | none =>
      rw [List.append_nil, List.dropWhile_eq_nil_iff.mpr passed]
  | some tag =>
      have stop : (!isTagStart '-') = false := rfl
      rw [List.dropWhile_append_of_pos passed, List.takeWhile_append_of_pos passed,
        List.dropWhile_cons_of_neg (by rw [stop]; decide),
        List.takeWhile_cons_of_neg (by rw [stop]; decide), List.append_nil]
      simp

private theorem splitOn_coreText (version : Version) :
    version.coreText.splitOn '.' =
      [Nat.toDigits 10 version.major.toNat, Nat.toDigits 10 version.minor.toNat,
        Nat.toDigits 10 version.patch.toNat] := by
  have dotless : ∀ number : Nat, '.' ∉ Nat.toDigits 10 number :=
    fun number => not_mem_toDigits (by rfl)
  unfold coreText
  rw [List.splitOn_append_cons_self_of_not_mem (dotless _),
    List.splitOn_append_cons_self_of_not_mem (dotless _),
    List.splitOn_eq_singleton (dotless _)]

theorem parse_text (version : Version) : parse version.text = .ok version := by
  rw [parse_ok_iff, splitTag_text]
  exact ⟨_, _, _, splitOn_coreText version, parseU64_toDigits _, parseU64_toDigits _,
    parseU64_toDigits _, rfl⟩

theorem coreText_of_parse (accepted : parse input = .ok version)
    (canonical : HasCanonicalCore input) :
    version.coreText = (splitTag input.toList).1 ∧ version.tag = (splitTag input.toList).2 := by
  obtain ⟨major, minor, patch, split, readMajor, readMinor, readPatch, tag⟩ :=
    parse_ok_iff.mp accepted
  unfold HasCanonicalCore at canonical
  rw [split] at canonical
  have joined : ['.'].intercalate ((splitTag input.toList).1.splitOn '.') =
      (splitTag input.toList).1 := List.intercalate_splitOn '.'
  rw [split] at joined
  refine ⟨?_, tag.symm⟩
  unfold coreText
  rw [toDigits_of_parseU64 (canonical major (by simp)) readMajor,
    toDigits_of_parseU64 (canonical minor (by simp)) readMinor,
    toDigits_of_parseU64 (canonical patch (by simp)) readPatch, ← joined]
  simp [List.intercalate]

theorem text_eq_iff (accepted : parse input = .ok version)
    (canonical : HasCanonicalCore input) :
    version.text = input ↔ separator input ≠ some '+' := by
  obtain ⟨core, tag⟩ := coreText_of_parse accepted canonical
  rw [← String.toList_inj, text_toList]
  unfold separator tagText
  rcases splitTag_cases input.toList with
    ⟨absent, whole⟩ | ⟨front, mark, rest, joined, found, isMark, parts⟩
  · rw [whole] at core tag
    rw [core, tag, absent]
    simp
  · rw [parts] at core tag
    rw [core, tag, found, joined]
    have only : mark = '-' ∨ mark = '+' := by simpa [isTagStart] using isMark
    rcases only with rfl | rfl
    · simp
    · simp

end Version

/-- A text that can stand in a list: the separator of the list is not in it, and
trimming takes nothing from its end. -/
structure Tidy (text : List Char) : Prop where
  comma : ',' ∉ text
  ending : ∀ last ∈ text.getLast?, isWhitespace last = false

instance (text : List Char) : Decidable (Tidy text) :=
  haveI : Decidable (∀ last ∈ text.getLast?, isWhitespace last = false) :=
    Option.decidableForallMem text.getLast?
  decidable_of_iff (',' ∉ text ∧ ∀ last ∈ text.getLast?, isWhitespace last = false)
    ⟨fun both => ⟨both.1, both.2⟩, fun tidy => ⟨tidy.comma, tidy.ending⟩⟩

theorem trimChars_of_ending {text : List Char}
    (ending : ∀ last ∈ text.getLast?, isWhitespace last = false) :
    trimChars text = text.dropWhile isWhitespace := by
  have joined := @List.takeWhile_append_dropWhile _ isWhitespace text
  unfold trimChars
  rw [List.dropWhile_eq_self_iff.mpr, List.reverse_reverse]
  intro some
  have last : text.getLast? = (text.dropWhile isWhitespace).getLast? := by
    conv_lhs => rw [← joined]
    rw [List.getLast?_append]
    cases final : (text.dropWhile isWhitespace).getLast? with
    | none =>
        rw [List.getLast?_eq_none_iff] at final
        rw [final] at some
        exact absurd some (by decide)
    | some c => rfl
  rw [ending _ (by rw [last, Option.mem_def, ← List.head?_reverse, List.head?_eq_getElem?,
    List.getElem?_eq_getElem some])]
  decide

namespace Tidy

variable {front back text : List Char}

theorem append (tidyFront : Tidy front) (tidyBack : Tidy back) : Tidy (front ++ back) := by
  refine ⟨?_, ?_⟩
  · rw [List.mem_append]
    rintro (among | among)
    · exact tidyFront.comma among
    · exact tidyBack.comma among
  · intro last final
    rw [List.getLast?_append] at final
    cases ending : back.getLast? with
    | none =>
        rw [ending] at final
        exact tidyFront.ending last final
    | some c =>
        rw [ending] at final
        exact tidyBack.ending last (by rw [ending]; exact final)

theorem of_append (tidy : Tidy (front ++ back)) : Tidy back := by
  refine ⟨fun among => tidy.comma (List.mem_append_right front among), ?_⟩
  intro last final
  apply tidy.ending last
  rw [List.getLast?_append]
  rw [Option.mem_def] at final
  rw [final]
  rfl

theorem of_digits (number : Nat) : Tidy (Nat.toDigits 10 number) := by
  refine ⟨not_mem_toDigits (by rfl), ?_⟩
  intro last final
  have digit := isDigit_of_mem_toDigits (List.mem_of_getLast? final)
  have dark : ∀ place < 10, isWhitespace (Nat.digitChar place) = false := by decide
  rw [← digitChar_of_isDigit digit]
  exact dark _ (digit_lt digit)

theorem trimChars (comma : ',' ∉ text) : Tidy (trimChars text) := by
  unfold TinyBus.trimChars
  refine ⟨?_, ?_⟩
  · intro among
    exact comma (List.dropWhile_subset _ (List.mem_reverse.mp
      (List.dropWhile_subset _ (List.mem_reverse.mp among))))
  · intro last final
    rw [List.getLast?_reverse, Option.mem_def] at final
    have dark := List.head?_dropWhile_not isWhitespace
      (text.dropWhile isWhitespace).reverse
    rw [final] at dark
    simpa using dark

end Tidy

/-- No tag, or one that can stand in a list. -/
def Version.Kept (version : Version) : Prop := ∀ tag ∈ version.tag, Tidy tag.toList

instance (version : Version) : Decidable version.Kept :=
  inferInstanceAs (Decidable (∀ tag ∈ version.tag, _))

/-- Both bounds can stand in a list. -/
def VersionRange.Kept (range : VersionRange) : Prop :=
  range.min.Kept ∧ ∀ max ∈ range.maxExclusive, max.Kept

instance (range : VersionRange) : Decidable range.Kept :=
  inferInstanceAs (Decidable (_ ∧ ∀ max ∈ range.maxExclusive, _))

namespace Version

variable {input : String} {version : Version}

theorem tidy_coreText (version : Version) : Tidy version.coreText := by
  have dot : Tidy ['.'] := by decide
  have joined : version.coreText = Nat.toDigits 10 version.major.toNat ++ (['.'] ++
      (Nat.toDigits 10 version.minor.toNat ++ (['.'] ++
        Nat.toDigits 10 version.patch.toNat))) := rfl
  rw [joined]
  exact (Tidy.of_digits _).append (dot.append ((Tidy.of_digits _).append
    (dot.append (Tidy.of_digits _))))

theorem tidy_text (kept : version.Kept) : Tidy version.text.toList := by
  have dash : Tidy ['-'] := by decide
  rw [text_toList]
  unfold tagText
  cases tagged : version.tag with
  | none =>
      rw [List.append_nil]
      exact tidy_coreText version
  | some tag => exact (tidy_coreText version).append (dash.append (kept tag tagged))

theorem kept_of_parse (tidy : Tidy input.toList) (accepted : parse input = .ok version) :
    version.Kept := by
  obtain ⟨_, _, _, _, _, _, _, tagged⟩ := parse_ok_iff.mp accepted
  intro tag among
  rw [← tagged] at among
  rcases splitTag_cases input.toList with
    ⟨_, whole⟩ | ⟨front, mark, rest, joined, _, _, parts⟩
  · rw [whole] at among
    cases among
  · rw [parts, Option.mem_def, Option.some.injEq] at among
    rw [← among, String.toList_ofList]
    have split : input.toList = (front ++ [mark]) ++ rest := by
      rw [joined, List.append_assoc]
      rfl
    rw [split] at tidy
    exact tidy.of_append

theorem text_ne_nil (version : Version) : version.text.toList ≠ [] := by
  rw [text_toList, coreText]
  simp

theorem dropWhile_text (version : Version) :
    version.text.toList.dropWhile isWhitespace = version.text.toList := by
  rw [List.dropWhile_eq_self_iff]
  intro some
  have first : version.text.toList[0] ∈ Nat.toDigits 10 version.major.toNat := by
    have positive : 0 < (Nat.toDigits 10 version.major.toNat).length :=
      Nat.length_toDigits_pos
    simp only [text_toList, coreText, List.append_assoc]
    rw [List.getElem_append_left positive]
    exact List.getElem_mem positive
  have dark : ∀ place < 10, isWhitespace (Nat.digitChar place) = false := by decide
  have digit := isDigit_of_mem_toDigits first
  rw [← digitChar_of_isDigit digit, dark _ (digit_lt digit)]
  decide

theorem trim_text (kept : version.Kept) : trim version.text = version.text := by
  unfold trim
  rw [trimChars_of_ending (tidy_text kept).ending, dropWhile_text, String.ofList_toList]

end Version

namespace VersionRange

variable {input : String} {range : VersionRange}

theorem caret_kept (version : Version) : version.caret.Kept := by
  constructor
  · intro tag among
    cases among
  · intro max among
    cases among
    unfold Version.nextBreaking
    split
    · intro tag among
      cases among
    · intro tag among
      cases among

theorem kept_of_parseClauses {clauses : List String} {min max : Option Version}
    (comma : ∀ clause ∈ clauses, ',' ∉ clause.toList)
    (keptMin : ∀ bound ∈ min, bound.Kept) (keptMax : ∀ bound ∈ max, bound.Kept)
    (accepted : parseClauses input min max clauses = .ok range) : range.Kept := by
  induction clauses generalizing min max with
  | nil =>
      unfold parseClauses at accepted
      cases min with
      | none => cases accepted
      | some least =>
          cases accepted
          exact ⟨keptMin least rfl, keptMax⟩
  | cons clause rest ih =>
      have later : ∀ clause ∈ rest, ',' ∉ clause.toList :=
        fun clause among => comma clause (List.mem_cons_of_mem _ among)
      have trimmed : ',' ∉ (trim clause).toList := by
        unfold trim
        rw [String.toList_ofList]
        exact (Tidy.trimChars (comma clause List.mem_cons_self)).comma
      -- What is left of a clause after its operator has no separator either.
      have tidy : ∀ {mark bound : List Char}, (trim clause).toList = mark ++ bound →
          Tidy (trim (String.ofList bound)).toList := by
        intro mark bound split
        unfold trim
        rw [String.toList_ofList, String.toList_ofList]
        refine Tidy.trimChars fun among => trimmed ?_
        rw [split]
        exact List.mem_append_right mark among
      unfold parseClauses at accepted
      split at accepted
      · rename_i bound split
        split at accepted
        · rename_i version read
          refine ih later ?_ keptMax accepted
          rintro _ ⟨⟩
          exact Version.kept_of_parse (@tidy ['>', '='] bound split) read
        · cases accepted
      · rename_i bound split
        split at accepted
        · rename_i version read
          refine ih later keptMin ?_ accepted
          rintro _ ⟨⟩
          exact Version.kept_of_parse (@tidy ['<'] bound split) read
        · cases accepted
      · cases accepted

theorem kept_of_parse (accepted : parse input = .ok range) : range.Kept := by
  have careted : ∀ text, (Version.parse text).map Version.caret = .ok range → range.Kept := by
    intro text read
    cases parsed : Version.parse text with
    | error refusal =>
        rw [parsed] at read
        cases read
    | ok version =>
        rw [parsed] at read
        cases read
        exact caret_kept version
  unfold parse at accepted
  dsimp only at accepted
  split at accepted
  · exact careted _ accepted
  · split at accepted
    · refine kept_of_parseClauses ?_ (by simp) (by simp) accepted
      intro clause among
      obtain ⟨piece, within, rfl⟩ := List.mem_map.mp among
      rw [String.toList_ofList]
      exact Separated.splitOn_free within
    · exact careted _ accepted

theorem text_toList (range : VersionRange) :
    range.text.toList = '>' :: '=' :: range.min.text.toList ++
      match range.maxExclusive with
      | some max => ',' :: ' ' :: '<' :: max.text.toList
      | none => [] := by
  unfold text
  cases range.maxExclusive with
  | none => simp
  | some max => simp

theorem trim_text (kept : range.Kept) : trim range.text = range.text := by
  have least := Version.tidy_text kept.1
  have ending : ∀ last ∈ range.text.toList.getLast?, isWhitespace last = false := by
    rw [text_toList]
    cases bounded : range.maxExclusive with
    | none =>
        rw [List.append_nil]
        have opened : Tidy ['>', '='] := by decide
        exact (opened.append least).ending
    | some max =>
        -- The range ends the way its upper bound does.
        have last : ('>' :: '=' :: range.min.text.toList ++ ',' :: ' ' :: '<' ::
            max.text.toList).getLast? = max.text.toList.getLast? := by
          have cut : '>' :: '=' :: range.min.text.toList ++ ',' :: ' ' :: '<' ::
              max.text.toList = ('>' :: '=' :: range.min.text.toList ++ [',', ' ', '<']) ++
              max.text.toList := by simp
          rw [cut, List.getLast?_append]
          cases final : max.text.toList.getLast? with
          | none => exact absurd (List.getLast?_eq_none_iff.mp final) max.text_ne_nil
          | some c => rfl
        change ∀ last ∈ ('>' :: '=' :: range.min.text.toList ++ ',' :: ' ' :: '<' ::
          max.text.toList).getLast?, _
        rw [last]
        exact (Version.tidy_text (kept.2 max bounded)).ending
  unfold trim
  rw [trimChars_of_ending ending, List.dropWhile_eq_self_iff.mpr, String.ofList_toList]
  intro some
  simp only [text_toList]
  change ¬ isWhitespace '>' = true
  decide

theorem splitOn_text (kept : range.Kept) : range.text.toList.splitOn ',' =
    ('>' :: '=' :: range.min.text.toList) ::
      match range.maxExclusive with
      | some max => [' ' :: '<' :: max.text.toList]
      | none => [] := by
  have whole : ∀ mark : List Char, ',' ∉ mark → ∀ version : Version, version.Kept →
      ',' ∉ mark ++ version.text.toList := by
    intro mark free version tidy among
    rcases List.mem_append.mp among with front | back
    · exact free front
    · exact (Version.tidy_text tidy).comma back
  have least : ',' ∉ '>' :: '=' :: range.min.text.toList :=
    whole ['>', '='] (by decide) range.min kept.1
  rw [text_toList]
  cases bounded : range.maxExclusive with
  | none =>
      rw [List.append_nil]
      exact List.splitOn_eq_singleton least
  | some max =>
      have most : ',' ∉ ' ' :: '<' :: max.text.toList :=
        whole [' ', '<'] (by decide) max (kept.2 max bounded)
      change (('>' :: '=' :: range.min.text.toList) ++ ',' ::
        (' ' :: '<' :: max.text.toList)).splitOn ',' = _
      rw [List.splitOn_append_cons_self_of_not_mem least]
      exact congrArg _ (List.splitOn_eq_singleton most)

variable {version : Version}

private theorem trim_least (kept : version.Kept) :
    (trim (String.ofList ('>' :: '=' :: version.text.toList))).toList =
      '>' :: '=' :: version.text.toList := by
  have opened : Tidy ['>', '='] := by decide
  have tidy : Tidy ('>' :: '=' :: version.text.toList) :=
    opened.append (Version.tidy_text kept)
  unfold trim
  rw [String.toList_ofList, String.toList_ofList, trimChars_of_ending tidy.ending]
  rfl

private theorem trim_most (kept : version.Kept) :
    (trim (String.ofList (' ' :: '<' :: version.text.toList))).toList =
      '<' :: version.text.toList := by
  have opened : Tidy [' ', '<'] := by decide
  have tidy : Tidy (' ' :: '<' :: version.text.toList) :=
    opened.append (Version.tidy_text kept)
  unfold trim
  rw [String.toList_ofList, String.toList_ofList, trimChars_of_ending tidy.ending]
  rfl

private theorem parseClauses_least {clause : String} {rest : List String} {min max : Option Version}
    (kept : version.Kept) (is : clause = String.ofList ('>' :: '=' :: version.text.toList)) :
    parseClauses input min max (clause :: rest) =
      parseClauses input (some version) max rest := by
  have read : Version.parse (trim (String.ofList version.text.toList)) = .ok version := by
    rw [String.ofList_toList, Version.trim_text kept, Version.parse_text]
  rw [parseClauses, is, trim_least kept]
  simp only [read]

private theorem parseClauses_most {clause : String} {rest : List String} {min max : Option Version}
    (kept : version.Kept) (is : clause = String.ofList (' ' :: '<' :: version.text.toList)) :
    parseClauses input min max (clause :: rest) =
      parseClauses input min (some version) rest := by
  have read : Version.parse (trim (String.ofList version.text.toList)) = .ok version := by
    rw [String.ofList_toList, Version.trim_text kept, Version.parse_text]
  rw [parseClauses, is, trim_most kept]
  simp only [read]

theorem parse_text (kept : range.Kept) : parse range.text = .ok range := by
  have opened : ∃ rest, range.text.toList = '>' :: rest := ⟨_, text_toList range⟩
  obtain ⟨rest, begins⟩ := opened
  unfold parse
  rw [trim_text kept]
  dsimp only
  rw [begins]
  split
  · rename_i same
    cases same
  · rw [if_pos (by simp), ← begins, splitOn_text kept, List.map_cons,
      parseClauses_least kept.1 rfl]
    cases bounded : range.maxExclusive with
    | none =>
        rw [List.map_nil, parseClauses]
        cases range
        cases bounded
        rfl
    | some max =>
        rw [List.map_cons, List.map_nil, parseClauses_most (kept.2 max bounded) rfl,
          parseClauses]
        cases range
        cases bounded
        rfl

theorem parse_text_iff (range : VersionRange) :
    parse range.text = .ok range ↔ range.Kept := ⟨kept_of_parse, parse_text⟩

end VersionRange

/-- Versions and ranges that were read are read back from what they are written as.
The text of a version is the one that was read unless its tag began after `+`, and a
range put together from versions is read back exactly if its tags can stand in a list. -/
theorem Version.texts_read_back (versionText rangeText : String) (range : VersionRange) :
    (∀ version, Version.parse versionText = .ok version → HasCanonicalCore versionText →
      Version.parse version.text = .ok version ∧
        (version.text = versionText ↔ separator versionText ≠ some '+')) ∧
    (∀ parsed, VersionRange.parse rangeText = .ok parsed →
      VersionRange.parse parsed.text = .ok parsed) ∧
    (VersionRange.parse range.text = .ok range ↔ range.Kept) := by
  refine ⟨?_, ?_, range.parse_text_iff⟩
  · intro version accepted canonical
    exact ⟨version.parse_text, text_eq_iff accepted canonical⟩
  · intro parsed accepted
    exact VersionRange.parse_text (VersionRange.kept_of_parse accepted)

theorem Version.texts_of_build_metadata :
    (∀ version, Version.parse "1.2.3+build" = .ok version →
      HasCanonicalCore "1.2.3+build" →
      Version.parse version.text = .ok version ∧
        (version.text = "1.2.3+build" ↔ separator "1.2.3+build" ≠ some '+')) ∧
    (∀ parsed, VersionRange.parse ">=1.2.3-rc.1, <2.0.0+b" = .ok parsed →
      VersionRange.parse parsed.text = .ok parsed) ∧
    (VersionRange.parse (VersionRange.mk ⟨1, 0, 0, some "a,b"⟩ none).text =
        .ok ⟨⟨1, 0, 0, some "a,b"⟩, none⟩ ↔
      (VersionRange.mk ⟨1, 0, 0, some "a,b"⟩ none).Kept) :=
  texts_read_back "1.2.3+build" ">=1.2.3-rc.1, <2.0.0+b" ⟨⟨1, 0, 0, some "a,b"⟩, none⟩

/-- Build metadata comes back as a pre-release, and a range whose lower bound carries a
comma in its tag is not read back at all. -/
theorem Version.build_metadata_rewritten :
    (Version.parse "1.2.3+build" = .ok ⟨1, 2, 3, some "build"⟩ ∧
      HasCanonicalCore "1.2.3+build" ∧
      Version.text ⟨1, 2, 3, some "build"⟩ = "1.2.3-build") ∧
    Version.parse "1.0.0-a,b" = .ok ⟨1, 0, 0, some "a,b"⟩ ∧
      VersionRange.parse (VersionRange.mk ⟨1, 0, 0, some "a,b"⟩ none).text =
        .error ⟨"version range", ">=1.0.0-a,b", "clauses must be `>=x.y.z` or `<x.y.z`"⟩ := by
  decide +kernel

end TinyBus
