/-
What redaction leaves of a rejected string.  A deserializer quotes what it rejects in
one of two ways: between backticks as it is, or debug-formatted, where the delimiter
cannot occur unescaped.  The scanner is a transducer of two kinds of quoted spans.
-/

import TinyBus.Error
import TinyBus.Library.Decimal

namespace TinyBus

namespace Quoting

/-- Where the scanner is after a character. -/
def step : Quoting → Char → Quoting
  | .outside, c => if c = '`' || c = '"' then .inside c false else .outside
  | .inside delimiter escaped, c =>
      if delimiter = '"' && escaped then .inside delimiter false
      else if delimiter = '"' && c = '\\' then .inside delimiter true
      else if c = delimiter then .outside
      else .inside delimiter escaped

/-- What the scanner writes at a character. -/
def emit : Quoting → Char → List Char
  | .outside, c => if c = '`' || c = '"' then [c, '…'] else [c]
  | .inside delimiter escaped, c =>
      if delimiter = '"' && escaped then []
      else if delimiter = '"' && c = '\\' then []
      else if c = delimiter then [delimiter]
      else []

def scan (quoting : Quoting) (text : List Char) : Quoting := text.foldl step quoting

end Quoting

open Quoting

theorem redactFrom_cons (quoting : Quoting) (c : Char) (rest : List Char) :
    redactFrom quoting (c :: rest) = quoting.emit c ++ redactFrom (quoting.step c) rest := by
  cases quoting with
  | outside =>
      simp only [redactFrom, emit, step]
      split <;> rfl
  | inside delimiter escaped =>
      simp only [redactFrom, emit, step]
      split
      · rfl
      · split
        · rfl
        · split <;> rfl

theorem redactFrom_append (quoting : Quoting) (front back : List Char) :
    redactFrom quoting (front ++ back) =
      redactFrom quoting front ++ redactFrom (quoting.scan front) back := by
  induction front generalizing quoting with
  | nil =>
      cases quoting <;> rfl
  | cons c rest ih =>
      rw [List.cons_append, redactFrom_cons, ih, redactFrom_cons, List.append_assoc]
      rfl

theorem redactFrom_backticked {text : List Char} (free : '`' ∉ text) (rest : List Char) :
    redactFrom (.inside '`' false) (text ++ rest) = redactFrom (.inside '`' false) rest := by
  induction text with
  | nil => rfl
  | cons c later ih =>
      have other : c ≠ '`' := fun same => free (same ▸ List.mem_cons_self)
      rw [List.cons_append, redactFrom_cons]
      simp [emit, step, other, ih (fun among => free (List.mem_cons_of_mem c among))]

/-- One character of a debug-formatted string, where `printed` tells the characters that
stand for themselves. -/
def escapeWith (printed : Char → Bool) (c : Char) : List Char :=
  if c = '"' then ['\\', '"']
  else if c = '\\' then ['\\', '\\']
  else if c = '\t' then ['\\', 't']
  else if c = '\n' then ['\\', 'n']
  else if c = '\r' then ['\\', 'r']
  else if c.toNat = 0 then ['\\', '0']
  else if printed c then [c]
  else '\\' :: 'u' :: '\x7b' :: (Nat.toDigits 16 c.toNat ++ ['\x7d'])

def debugWith (printed : Char → Bool) (text : String) : List Char :=
  '"' :: (text.toList.flatMap (escapeWith printed) ++ ['"'])

private theorem redactFrom_escaped (c : Char) (rest : List Char) :
    redactFrom (.inside '"' false) ('\\' :: c :: rest) =
      redactFrom (.inside '"' false) rest := by
  rw [redactFrom_cons, redactFrom_cons]
  simp [emit, step]

private theorem redactFrom_plain {text : List Char}
    (plain : ∀ c ∈ text, c ≠ '"' ∧ c ≠ '\\') (rest : List Char) :
    redactFrom (.inside '"' false) (text ++ rest) = redactFrom (.inside '"' false) rest := by
  induction text with
  | nil => rfl
  | cons c later ih =>
      obtain ⟨quote, backslash⟩ := plain c List.mem_cons_self
      rw [List.cons_append, redactFrom_cons]
      simp [emit, step, quote, backslash,
        ih (fun other among => plain other (List.mem_cons_of_mem c among))]

private theorem hexDigits_plain (number : Nat) :
    ∀ c ∈ Nat.toDigits 16 number ++ ['\x7d'], c ≠ '"' ∧ c ≠ '\\' := by
  intro c among
  rcases List.mem_append.mp among with digit | last
  · have shape : ∀ place < 16, Nat.digitChar place ≠ '"' ∧ Nat.digitChar place ≠ '\\' := by
      decide
    obtain ⟨place, small, rfl⟩ := Decimal.digit_of_mem_toDigits (by decide) digit
    exact shape place small
  · rw [List.mem_singleton.mp last]
    decide

theorem redactFrom_escapeWith (printed : Char → Bool) (c : Char) (rest : List Char) :
    redactFrom (.inside '"' false) (escapeWith printed c ++ rest) =
      redactFrom (.inside '"' false) rest := by
  unfold escapeWith
  split
  · exact redactFrom_escaped _ rest
  · rename_i quote
    split
    · exact redactFrom_escaped _ rest
    · rename_i backslash
      split
      · exact redactFrom_escaped _ rest
      · split
        · exact redactFrom_escaped _ rest
        · split
          · exact redactFrom_escaped _ rest
          · split
            · exact redactFrom_escaped _ rest
            · split
              · refine redactFrom_plain ?_ rest
                intro other among
                rw [List.mem_singleton.mp among]
                exact ⟨quote, backslash⟩
              · rw [List.cons_append, List.cons_append, redactFrom_escaped]
                refine redactFrom_plain ?_ rest
                intro other among
                rcases List.mem_cons.mp among with rfl | digit
                · decide
                · exact hexDigits_plain _ other digit

theorem redactFrom_debugWith (printed : Char → Bool) (text : String) (rest : List Char) :
    redactFrom .outside (debugWith printed text ++ rest) =
      '"' :: '…' :: '"' :: redactFrom .outside rest := by
  -- The body is passed over by its characters, one escape at a time.
  have passed : ∀ body : List Char,
      redactFrom (.inside '"' false) (body.flatMap (escapeWith printed) ++ '"' :: rest) =
        '"' :: redactFrom .outside rest := by
    intro body
    induction body with
    | nil => rfl
    | cons c later ih =>
        rw [List.flatMap_cons, List.append_assoc, redactFrom_escapeWith, ih]
  unfold debugWith
  rw [List.cons_append, List.append_assoc, redactFrom_cons]
  exact congrArg (fun tail => '"' :: '…' :: tail) (passed text.toList)

def backticked (text : String) : String := "`" ++ text ++ "`"

def oneOf : List String → String
  | [name] => backticked name
  | [first, second] => backticked first ++ " or " ++ backticked second
  | names => "one of " ++ ", ".intercalate (names.map backticked)

/-- What was wrong with a string, and what was expected in its place. -/
inductive Complaint where
  | unknownVariant (names : List String)
  | unknownField (names : List String)
  | invalidType (expected : String)
  | invalidValue (expected : String)

namespace Complaint

def expectation (absent : String) (names : List String) : String :=
  if names = [] then ", there are no " ++ absent else ", expected " ++ oneOf names

/-- The complaint about a value, in the words of the deserializer. -/
def message (printed : Char → Bool) (value : String) : Complaint → String
  | .unknownVariant names =>
      "unknown variant " ++ backticked value ++ expectation "variants" names
  | .unknownField names =>
      "unknown field " ++ backticked value ++ expectation "fields" names
  | .invalidType expected =>
      "invalid type: string " ++ String.ofList (debugWith printed value) ++
        ", expected " ++ expected
  | .invalidValue expected =>
      "invalid value: string " ++ String.ofList (debugWith printed value) ++
        ", expected " ++ expected

def IsVerbatim : Complaint → Prop
  | .unknownVariant _ => True
  | .unknownField _ => True
  | .invalidType _ => False
  | .invalidValue _ => False

instance : (complaint : Complaint) → Decidable complaint.IsVerbatim
  | .unknownVariant _ => inferInstanceAs (Decidable True)
  | .unknownField _ => inferInstanceAs (Decidable True)
  | .invalidType _ => inferInstanceAs (Decidable False)
  | .invalidValue _ => inferInstanceAs (Decidable False)

/-- The names that the complaint lists. -/
def names : Complaint → List String
  | .unknownVariant names => names
  | .unknownField names => names
  | .invalidType _ => []
  | .invalidValue _ => []

/-- The quotes of the complaint hold the value together: it is debug-formatted, or no
backtick is in it. -/
def Shelters (complaint : Complaint) (value : String) : Prop :=
  complaint.IsVerbatim → '`' ∉ value.toList

instance (complaint : Complaint) (value : String) : Decidable (complaint.Shelters value) :=
  inferInstanceAs (Decidable (_ → _))

/-- No name that was expected holds a backtick of its own. -/
def PlainNames (complaint : Complaint) : Prop :=
  ∀ name ∈ complaint.names, '`' ∉ name.toList

def front : Complaint → List Char
  | .unknownVariant _ => "unknown variant ".toList
  | .unknownField _ => "unknown field ".toList
  | .invalidType _ => "invalid type: string ".toList
  | .invalidValue _ => "invalid value: string ".toList

def back : Complaint → List Char
  | .unknownVariant names => (expectation "variants" names).toList
  | .unknownField names => (expectation "fields" names).toList
  | .invalidType expected => (", expected " ++ expected).toList
  | .invalidValue expected => (", expected " ++ expected).toList

def quoted (printed : Char → Bool) (value : String) (complaint : Complaint) : List Char :=
  if complaint.IsVerbatim then '`' :: (value.toList ++ ['`']) else debugWith printed value

variable {printed : Char → Bool} {complaint : Complaint} {value other : String}

private theorem toList_three (first second third : String) :
    (first ++ second ++ third).toList =
      first.toList ++ (second.toList ++ third.toList) := by
  rw [String.toList_append, String.toList_append, List.append_assoc]

theorem backticked_toList (text : String) :
    (backticked text).toList = '`' :: (text.toList ++ ['`']) := toList_three "`" text "`"

theorem message_toList (printed : Char → Bool) (complaint : Complaint) (value : String) :
    (complaint.message printed value).toList =
      complaint.front ++ (complaint.quoted printed value ++ complaint.back) := by
  have debugged : ∀ opening expected : String,
      (opening ++ String.ofList (debugWith printed value) ++ ", expected " ++
        expected).toList = opening.toList ++ (debugWith printed value ++
          (", expected " ++ expected).toList) := by
    intro opening expected
    rw [String.append_assoc, toList_three, String.toList_ofList]
  cases complaint with
  | unknownVariant names =>
      unfold message
      rw [toList_three, backticked_toList]
      rfl
  | unknownField names =>
      unfold message
      rw [toList_three, backticked_toList]
      rfl
  | invalidType expected => exact debugged _ expected
  | invalidValue expected => exact debugged _ expected

theorem redactFrom_front (complaint : Complaint) (rest : List Char) :
    redactFrom .outside (complaint.front ++ rest) =
      complaint.front ++ redactFrom .outside rest := by
  rw [redactFrom_append]
  cases complaint <;> rfl

theorem redactFrom_sheltered {text : List Char} (free : '`' ∉ text) (rest : List Char) :
    redactFrom .outside ('`' :: (text ++ '`' :: rest)) =
      '`' :: '…' :: '`' :: redactFrom .outside rest := by
  rw [redactFrom_cons]
  exact congrArg (fun tail => '`' :: '…' :: tail) (redactFrom_backticked free _)

theorem redacted_of_shelters (safe : complaint.Shelters value)
    (safeOther : complaint.Shelters other) :
    redactValues (complaint.message printed value) =
      redactValues (complaint.message printed other) := by
  have spans : redactFrom .outside (complaint.quoted printed value ++ complaint.back) =
      redactFrom .outside (complaint.quoted printed other ++ complaint.back) := by
    unfold quoted
    by_cases verbatim : complaint.IsVerbatim
    · have opened : ∀ text : List Char, '`' :: (text ++ ['`']) ++ complaint.back =
          '`' :: (text ++ '`' :: complaint.back) := by simp
      rw [if_pos verbatim, if_pos verbatim, opened, opened]
      exact (redactFrom_sheltered (safe verbatim) _).trans
        (redactFrom_sheltered (safeOther verbatim) _).symm
    · rw [if_neg verbatim, if_neg verbatim, redactFrom_debugWith, redactFrom_debugWith]
  unfold redactValues
  rw [message_toList, message_toList, redactFrom_front, redactFrom_front, spans]

def Balanced (text : List Char) : Prop :=
  Quoting.outside.scan text = .outside ∧ '"' ∉ redactFrom .outside text

instance (text : List Char) : Decidable (Balanced text) :=
  inferInstanceAs (Decidable (_ ∧ _))

theorem Balanced.append {first second : List Char} (balanced : Balanced first)
    (balancedSecond : Balanced second) : Balanced (first ++ second) := by
  obtain ⟨outside, written⟩ := balanced
  obtain ⟨outsideSecond, writtenSecond⟩ := balancedSecond
  unfold scan at outside outsideSecond
  refine ⟨?_, ?_⟩
  · unfold scan
    rw [List.foldl_append, outside, outsideSecond]
  · rw [redactFrom_append]
    unfold scan
    rw [outside, List.mem_append]
    rintro (among | among)
    · exact written among
    · exact writtenSecond among

private theorem scan_backticked {text : List Char} (free : '`' ∉ text) :
    (Quoting.inside '`' false).scan text = .inside '`' false := by
  induction text with
  | nil => rfl
  | cons c later ih =>
      have other : c ≠ '`' := fun same => free (same ▸ List.mem_cons_self)
      have stays : (Quoting.inside '`' false).step c = .inside '`' false := by
        simp [step, other]
      unfold scan at ih ⊢
      rw [List.foldl_cons, stays, ih (fun among => free (List.mem_cons_of_mem c among))]

theorem balanced_backticked {name : String} (free : '`' ∉ name.toList) :
    Balanced (backticked name).toList := by
  rw [backticked_toList]
  refine ⟨?_, ?_⟩
  · unfold scan
    rw [List.foldl_cons, List.foldl_append]
    change (Quoting.scan ((Quoting.inside '`' false).scan name.toList) ['`']) = _
    rw [scan_backticked free]
    rfl
  · rw [redactFrom_sheltered free]
    decide

private theorem balanced_list {names : List String}
    (plain : ∀ name ∈ names, '`' ∉ name.toList) :
    Balanced (", ".intercalate (names.map backticked)).toList := by
  have between : Balanced ", ".toList := by decide
  rw [String.toList_intercalate, List.map_map]
  induction names with
  | nil => decide
  | cons name rest ih =>
      have quoted := balanced_backticked (plain name List.mem_cons_self)
      have later := ih fun other among => plain other (List.mem_cons_of_mem name among)
      cases rest with
      | nil =>
          rw [List.map_cons, List.map_nil, List.intercalate_singleton]
          exact quoted
      | cons next others =>
          rw [List.map_cons, List.map_cons, List.intercalate_cons_cons, List.append_assoc]
          exact quoted.append (between.append later)

theorem balanced_expectation {absent : String} {names : List String}
    (words : Balanced (", there are no " ++ absent).toList)
    (plain : ∀ name ∈ names, '`' ∉ name.toList) :
    Balanced (expectation absent names).toList := by
  have opening : Balanced ", expected ".toList := by decide
  unfold expectation
  match names, plain with
  | [], _ => exact words
  | [name], plain =>
      rw [if_neg (by simp), String.toList_append]
      exact opening.append (balanced_backticked (plain name (by simp)))
  | [first, second], plain =>
      have between : Balanced " or ".toList := by decide
      rw [if_neg (by simp), String.toList_append]
      refine opening.append ?_
      unfold oneOf
      rw [toList_three]
      exact (balanced_backticked (plain first (by simp))).append
        (between.append (balanced_backticked (plain second (by simp))))
  | first :: second :: third :: rest, plain =>
      have several : Balanced "one of ".toList := by decide
      rw [if_neg (by simp), String.toList_append]
      refine opening.append ?_
      unfold oneOf
      rw [String.toList_append]
      exact several.append (balanced_list plain)

theorem count_redactFrom {quoting : Quoting} {text : List Char}
    (plain : quoting = .outside ∨ quoting = .inside '`' false)
    (written : '"' ∉ redactFrom quoting text) :
    (redactFrom quoting text).count '`' = text.count '`' := by
  induction text generalizing quoting with
  | nil => cases quoting <;> rfl
  | cons c rest ih =>
      rw [redactFrom_cons, List.mem_append, not_or] at written
      rw [redactFrom_cons, List.count_append]
      rcases plain with rfl | rfl
      · by_cases backtick : c = '`'
        · subst backtick
          have opens : Quoting.outside.step '`' = .inside '`' false := rfl
          rw [opens] at written ⊢
          rw [ih (.inr rfl) written.2, List.count_cons_self, Nat.add_comm]
          rfl
        · by_cases double : c = '"'
          · subst double
            exact absurd (List.mem_cons_self) written.1
          · have stays : Quoting.outside.step c = .outside := by simp [step, backtick, double]
            rw [stays] at written ⊢
            rw [ih (.inl rfl) written.2]
            simp [emit, backtick, double]
      · by_cases backtick : c = '`'
        · subst backtick
          have closes : (Quoting.inside '`' false).step '`' = .outside := rfl
          rw [closes] at written ⊢
          rw [ih (.inl rfl) written.2, List.count_cons_self, Nat.add_comm]
          rfl
        · have stays : (Quoting.inside '`' false).step c = .inside '`' false := by
            simp [step, backtick]
          rw [stays] at written ⊢
          rw [ih (.inr rfl) written.2]
          simp [emit, backtick]

theorem redactFrom_leak_ne {rest back : List Char} (balanced : Balanced back) :
    redactFrom .outside (rest ++ '`' :: back) ≠ redactFrom .outside back := by
  intro same
  have counted := count_redactFrom (.inl rfl) balanced.2
  have leaked := @count_redactFrom .outside (rest ++ '`' :: back) (.inl rfl)
    (by rw [same]; exact balanced.2)
  rw [same, counted, List.count_append, List.count_cons_self] at leaked
  omega

theorem balanced_back (verbatim : complaint.IsVerbatim) (plain : complaint.PlainNames) :
    Balanced complaint.back := by
  cases complaint with
  | unknownVariant names => exact balanced_expectation (by decide) plain
  | unknownField names => exact balanced_expectation (by decide) plain
  | invalidType expected => exact absurd verbatim id
  | invalidValue expected => exact absurd verbatim id

theorem redacted_of_leak (plain : complaint.PlainNames) (leaks : ¬ complaint.Shelters value) :
    redactValues (complaint.message printed value) ≠
      redactValues (complaint.message printed "") := by
  unfold Shelters at leaks
  rw [Classical.not_imp, not_not] at leaks
  obtain ⟨verbatim, among⟩ := leaks
  obtain ⟨sheltered, leaked, split, free⟩ := List.eq_append_cons_of_mem among
  have opened : '`' :: (value.toList ++ ['`']) ++ complaint.back =
      '`' :: (sheltered ++ '`' :: (leaked ++ '`' :: complaint.back)) := by
    rw [split]
    simp
  intro same
  unfold redactValues at same
  rw [String.ofList_inj, message_toList, message_toList, redactFrom_front, redactFrom_front] at same
  have spans := List.append_cancel_left same
  unfold quoted at spans
  rw [if_pos verbatim, if_pos verbatim, opened, redactFrom_sheltered free] at spans
  have empty : redactFrom .outside ('`' :: ("".toList ++ ['`']) ++ complaint.back) =
      '`' :: '…' :: '`' :: redactFrom .outside complaint.back :=
    @redactFrom_sheltered [] (by simp) complaint.back
  rw [empty] at spans
  simp only [List.cons.injEq, true_and] at spans
  exact redactFrom_leak_ne (balanced_back verbatim plain) spans

/-- Two rejected values that their quotes hold together leave the same error; and where
the expected names are plain, a value leaves the error that all of those leave exactly if
its own quotes hold it together. -/
theorem badArguments_alike (printed : Char → Bool) (member : MemberName)
    (complaint : Complaint) (value : String) :
    (∀ other, complaint.Shelters value → complaint.Shelters other →
      Error.badArgumentsFrom member (complaint.message printed value) =
        Error.badArgumentsFrom member (complaint.message printed other)) ∧
    (complaint.PlainNames →
      ((∀ other, complaint.Shelters other →
        Error.badArgumentsFrom member (complaint.message printed value) =
          Error.badArgumentsFrom member (complaint.message printed other)) ↔
        complaint.Shelters value)) := by
  refine ⟨?_, ?_⟩
  · intro other safe safeOther
    unfold Error.badArgumentsFrom
    rw [redacted_of_shelters safe safeOther]
  · intro plain
    constructor
    · intro alike
      by_contra leaks
      have empty : complaint.Shelters "" := fun _ => by simp
      have same := alike "" empty
      unfold Error.badArgumentsFrom at same
      exact redacted_of_leak plain leaks (Error.badArguments.inj same).2
    · intro safe other safeOther
      unfold Error.badArgumentsFrom
      rw [redacted_of_shelters safe safeOther]

theorem mode_alike :
    (∀ other, (unknownVariant ["off", "on"]).Shelters "secret" →
      (unknownVariant ["off", "on"]).Shelters other →
      Error.badArgumentsFrom ⟨"SetMode", by rfl⟩
          ((unknownVariant ["off", "on"]).message (fun _ => true) "secret") =
        Error.badArgumentsFrom ⟨"SetMode", by rfl⟩
          ((unknownVariant ["off", "on"]).message (fun _ => true) other)) ∧
    ((unknownVariant ["off", "on"]).PlainNames →
      ((∀ other, (unknownVariant ["off", "on"]).Shelters other →
        Error.badArgumentsFrom ⟨"SetMode", by rfl⟩
            ((unknownVariant ["off", "on"]).message (fun _ => true) "secret") =
          Error.badArgumentsFrom ⟨"SetMode", by rfl⟩
            ((unknownVariant ["off", "on"]).message (fun _ => true) other)) ↔
        (unknownVariant ["off", "on"]).Shelters "secret")) :=
  badArguments_alike (fun _ => true) ⟨"SetMode", by rfl⟩ (unknownVariant ["off", "on"]) "secret"

/-- A variant name with a backtick in it: what follows the backtick is in the error. -/
theorem backtick_leaks :
    (Error.badArgumentsFrom ⟨"SetMode", by rfl⟩
        ((unknownVariant ["off", "on"]).message (fun _ => true) "a`secret") =
      .badArguments ⟨"SetMode", by rfl⟩
        "unknown variant `…`secret`…`off`…`on`…") ∧
    Error.badArgumentsFrom ⟨"SetMode", by rfl⟩
        ((unknownVariant ["off", "on"]).message (fun _ => true) "other") =
      .badArguments ⟨"SetMode", by rfl⟩
        "unknown variant `…`, expected `…` or `…`" := by
  decide +kernel

end Complaint

end TinyBus
