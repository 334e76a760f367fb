import TinyBus.Library.Separated
import TinyBus.Name

/-
The grammars of the four kinds of names, as the protocol documents them, and what the
validators accept.  They agree on every text but the unique names over the length cap.
-/

namespace TinyBus

namespace Grammar

def Digit (c : Char) : Prop := '0' ≤ c ∧ c ≤ '9'

def Letter (c : Char) : Prop := ('A' ≤ c ∧ c ≤ 'Z') ∨ ('a' ≤ c ∧ c ≤ 'z')

/-- `[A-Za-z_]` -/
def Start (c : Char) : Prop := Letter c ∨ c = '_'

/-- `[A-Za-z0-9_]` -/
def Plain (c : Char) : Prop := Letter c ∨ Digit c ∨ c = '_'

/-- `[A-Za-z0-9_-]` -/
def Hyphenated (c : Char) : Prop := Plain c ∨ c = '-'

/-- At least one character of a kind. -/
def Run (Of : Char → Prop) (text : List Char) : Prop := text ≠ [] ∧ ∀ c ∈ text, Of c

def Word (Of : Char → Prop) (text : List Char) : Prop :=
  ∃ first rest, text = first :: rest ∧ Start first ∧ ∀ c ∈ rest, Of c

def Dotted (text : List Char) : Prop :=
  ∃ count, 2 ≤ count ∧ Separated '.' (Word Hyphenated) count text

def Unique (text : List Char) : Prop :=
  ∃ count rest, text = ':' :: rest ∧ Separated '.' (Run Digit) count rest

def Path (text : List Char) : Prop :=
  text = ['/'] ∨ ∃ count rest, text = '/' :: rest ∧ Separated '/' (Run Plain) count rest

/-- A component of an address, which is capped. -/
structure Component (Form : List Char → Prop) (input : String) : Prop where
  form : Form input.toList
  capped : input.utf8ByteSize ≤ 255

def BusName (input : String) : Prop := Component (fun text => Unique text ∨ Dotted text) input

def ObjectPath (input : String) : Prop := Component Path input

def InterfaceName (input : String) : Prop := Component Dotted input

def MemberName (input : String) : Prop := Component (Word Plain) input

end Grammar

open Grammar

theorem isDigit_iff {c : Char} : c.isDigit = true ↔ Digit c := by
  unfold Char.isDigit Digit
  simp [Char.le_def]

theorem isAlpha_iff {c : Char} : c.isAlpha = true ↔ Letter c := by
  unfold Char.isAlpha Char.isUpper Char.isLower Letter
  simp [Char.le_def]

theorem isNameStart_iff {c : Char} : isNameStart c = true ↔ Start c := by
  unfold isNameStart Start
  rw [Bool.or_eq_true, isAlpha_iff, beq_iff_eq]

theorem isWordChar_iff {c : Char} : isWordChar c = true ↔ Plain c := by
  unfold isWordChar Char.isAlphanum Plain
  rw [Bool.or_eq_true, Bool.or_eq_true, isAlpha_iff, isDigit_iff, beq_iff_eq, or_assoc]

theorem isDottedChar_iff {c : Char} : isDottedChar c = true ↔ Hyphenated c := by
  unfold isDottedChar Hyphenated
  rw [Bool.or_eq_true, isWordChar_iff, beq_iff_eq]

theorem not_hyphenated_dot : ¬ Hyphenated '.' := by
  rw [← isDottedChar_iff]
  decide

theorem not_start_dot : ¬ Start '.' := by
  rw [← isNameStart_iff]
  decide

theorem not_plain_slash : ¬ Plain '/' := by
  rw [← isWordChar_iff]
  decide

theorem not_digit_dot : ¬ Digit '.' := by
  rw [← isDigit_iff]
  decide

theorem find?_none_iff {Of : Char → Prop} {allowed : Char → Bool}
    (meaning : ∀ {c}, allowed c = true ↔ Of c) {text : List Char} :
    text.find? (fun c => !allowed c) = none ↔ ∀ c ∈ text, Of c := by
  rw [List.find?_eq_none]
  constructor
  · intro never c among
    exact meaning.mp (by simpa using never c among)
  · intro every c among
    simpa using meaning.mpr (every c among)

variable {element rest : List Char} {input : String}

theorem dotless_of_word (word : Word Hyphenated element) :
    '.' ∉ element := by
  obtain ⟨first, rest, rfl, starts, others⟩ := word
  intro among
  rcases List.mem_cons.mp among with rfl | later
  · exact not_start_dot starts
  · exact not_hyphenated_dot (others '.' later)

theorem word_cons {Of : Char → Prop} {first : Char} :
    Word Of (first :: rest) ↔ Start first ∧ ∀ c ∈ rest, Of c := by
  constructor
  · rintro ⟨_, _, same, starts, others⟩
    cases same
    exact ⟨starts, others⟩
  · rintro ⟨starts, others⟩
    exact ⟨first, rest, rfl, starts, others⟩

theorem not_word_nil {Of : Char → Prop} : ¬ Word Of [] := by
  rintro ⟨first, rest, impossible, _⟩
  cases impossible

theorem validateElement_ok_iff (kind input : String) :
    validateElement kind input element = .ok () ↔ Word Hyphenated element := by
  cases element with
  | nil => simp [validateElement, not_word_nil]
  | cons first rest =>
      rw [validateElement, word_cons, ← isNameStart_iff, ← find?_none_iff isDottedChar_iff]
      by_cases starts : isNameStart first = true
      · rw [if_pos starts]
        cases found : rest.find? (fun c => !isDottedChar c) with
        | none => simp [starts]
        | some c => simp
      · rw [if_neg starts]
        simp [starts]

theorem validateElements_ok_iff (kind input : String) {elements : List (List Char)} :
    validateElements kind input elements = .ok () ↔
      ∀ element ∈ elements, Word Hyphenated element := by
  induction elements with
  | nil => simp [validateElements]
  | cons element rest ih =>
      unfold validateElements
      rw [List.forall_mem_cons, ← ih, ← validateElement_ok_iff kind input]
      cases validateElement kind input element with
      | ok _ => simp
      | error refusal => simp

theorem dotted_iff {text : List Char} :
    Dotted text ↔ 2 ≤ (text.splitOn '.').length ∧
      ∀ element ∈ text.splitOn '.', Word Hyphenated element := by
  unfold Dotted
  constructor
  · rintro ⟨count, several, separated⟩
    obtain ⟨rfl, words⟩ := (Separated.iff_splitOn fun _ => dotless_of_word).mp separated
    exact ⟨several, words⟩
  · rintro ⟨several, words⟩
    exact ⟨_, several, (Separated.iff_splitOn fun _ => dotless_of_word).mpr ⟨rfl, words⟩⟩

theorem validateDotted_ok_iff {kind : String} :
    validateDotted kind input = .ok () ↔ Component Dotted input := by
  have parts : Component Dotted input ↔ Dotted input.toList ∧ input.utf8ByteSize ≤ 255 :=
    ⟨fun component => ⟨component.form, component.capped⟩, fun both => ⟨both.1, both.2⟩⟩
  rw [parts, dotted_iff, ← validateElements_ok_iff kind input]
  unfold validateDotted maxNameLen
  by_cases empty : input.toList = []
  · simp [empty]
  · rw [if_neg empty]
    by_cases long : 255 < input.utf8ByteSize
    · rw [if_pos long]
      simp [Nat.not_le.mpr long]
    · rw [if_neg long]
      by_cases few : (input.toList.splitOn '.').length < 2
      · rw [if_pos few]
        simp [Nat.not_le.mpr few]
      · rw [if_neg few]
        simp [Nat.not_lt.mp few, Nat.not_lt.mp long]

theorem isDigitRun_iff : isDigitRun element = true ↔ Run Digit element := by
  unfold isDigitRun Run
  rw [Bool.and_eq_true, List.all_eq_true]
  simp only [isDigit_iff, Bool.not_eq_true', List.isEmpty_eq_false_iff, ne_eq]

theorem dotless_of_digits (run : Run Digit element) : '.' ∉ element :=
  fun among => not_digit_dot (run.2 '.' among)

theorem unique_cons :
    Unique (':' :: rest) ↔ (rest.splitOn '.').all isDigitRun = true := by
  rw [List.all_eq_true]
  simp only [isDigitRun_iff]
  constructor
  · rintro ⟨count, _, same, separated⟩
    cases same
    exact ((Separated.iff_splitOn fun _ => dotless_of_digits).mp separated).2
  · intro runs
    exact ⟨_, rest, rfl, (Separated.iff_splitOn fun _ => dotless_of_digits).mpr ⟨rfl, runs⟩⟩

theorem not_dotted_colon : ¬ Dotted (':' :: rest) := by
  rintro ⟨count, _, separated⟩
  have begins : Start ':' := by
    generalize whole : ':' :: rest = text at separated
    cases separated with
    | one is =>
        obtain ⟨first, others, rfl, starts, _⟩ := is
        cases whole
        exact starts
    | more is _ =>
        obtain ⟨first, others, rfl, starts, _⟩ := is
        cases whole
        exact starts
  rw [← isNameStart_iff] at begins
  exact absurd begins (by decide)

theorem busName_check_iff :
    BusName.check input = .ok () ↔ Unique input.toList ∨ Component Dotted input := by
  unfold BusName.check
  split
  · rename_i rest begins
    have plain : ¬ Component Dotted input := by
      intro component
      have form := component.form
      rw [begins] at form
      exact not_dotted_colon form
    rw [begins, unique_cons]
    by_cases alone : rest = []
    · rw [if_pos alone, alone]
      simp [plain, isDigitRun, List.splitOn_nil]
    · rw [if_neg alone]
      by_cases runs : (rest.splitOn '.').all isDigitRun = true
      · rw [if_pos runs]
        exact ⟨fun _ => .inl runs, fun _ => rfl⟩
      · rw [if_neg runs]
        simp [plain, runs]
  · rename_i other
    have named : ¬ Unique input.toList := by
      rintro ⟨_, rest, begins, _⟩
      exact other rest begins
    rw [validateDotted_ok_iff]
    exact ⟨.inr, fun either => either.resolve_left named⟩

theorem slashless_of_run (run : Run Plain element) : '/' ∉ element :=
  fun among => not_plain_slash (run.2 '/' among)

theorem validatePathElements_ok_iff {elements : List (List Char)} :
    validatePathElements input elements = .ok () ↔
      ∀ element ∈ elements, Run Plain element := by
  induction elements with
  | nil => simp [validatePathElements]
  | cons element rest ih =>
      unfold validatePathElements
      rw [List.forall_mem_cons, ← ih]
      unfold Run
      rw [← find?_none_iff isWordChar_iff]
      by_cases empty : element = []
      · simp [empty]
      · rw [if_neg empty]
        cases found : element.find? (fun c => !isWordChar c) with
        | none => simp [empty]
        | some c => simp

theorem path_cons (more : rest ≠ []) :
    Path ('/' :: rest) ↔ ∀ element ∈ rest.splitOn '/', Run Plain element := by
  unfold Grammar.Path
  constructor
  · rintro (root | ⟨count, _, same, separated⟩)
    · cases root
      exact absurd rfl more
    · cases same
      exact ((Separated.iff_splitOn fun _ => slashless_of_run).mp separated).2
  · intro runs
    exact .inr ⟨_, rest, rfl, (Separated.iff_splitOn fun _ => slashless_of_run).mpr ⟨rfl, runs⟩⟩

theorem not_path_of_trailing (trailing : rest.getLast? = some '/') :
    ¬ ∀ element ∈ rest.splitOn '/', Run Plain element := by
  obtain ⟨early, rfl⟩ := List.getLast?_eq_some_iff.mp trailing
  intro runs
  have last : ([] : List Char) ∈ (early ++ ['/']).splitOn '/' := by
    rw [List.splitOn_append_cons_self]
    exact List.mem_append_right _ (by rw [List.splitOn_nil]; exact List.mem_singleton.mpr rfl)
  exact (runs [] last).1 rfl

theorem objectPath_check_iff :
    ObjectPath.check input = .ok () ↔ Grammar.ObjectPath input := by
  have parts : Grammar.ObjectPath input ↔ Path input.toList ∧ input.utf8ByteSize ≤ 255 :=
    ⟨fun component => ⟨component.form, component.capped⟩, fun both => ⟨both.1, both.2⟩⟩
  rw [parts]
  unfold ObjectPath.check maxNameLen
  by_cases long : 255 < input.utf8ByteSize
  · rw [if_pos long]
    simp [Nat.not_le.mpr long]
  · rw [if_neg long]
    by_cases root : input = "/"
    · rw [if_pos root]
      have form : Path input.toList := .inl (congrArg String.toList root)
      exact ⟨fun _ => ⟨form, Nat.not_lt.mp long⟩, fun _ => rfl⟩
    · rw [if_neg root]
      split
      · rename_i rest begins
        have more : rest ≠ [] := by
          rintro rfl
          exact root (String.toList_inj.mp begins)
        rw [begins, path_cons more]
        by_cases trailing : rest.getLast? = some '/'
        · rw [if_pos trailing]
          simp [not_path_of_trailing trailing]
        · rw [if_neg trailing, validatePathElements_ok_iff]
          exact ⟨fun runs => ⟨runs, Nat.not_lt.mp long⟩, And.left⟩
      · rename_i other
        have form : ¬ Path input.toList := by
          rintro (same | ⟨_, rest, begins, _⟩)
          · exact other [] same
          · exact other rest begins
        simp [form]

theorem memberName_check_iff :
    MemberName.check input = .ok () ↔ Grammar.MemberName input := by
  have parts : Grammar.MemberName input ↔
      Word Plain input.toList ∧ input.utf8ByteSize ≤ 255 :=
    ⟨fun component => ⟨component.form, component.capped⟩, fun both => ⟨both.1, both.2⟩⟩
  rw [parts]
  unfold MemberName.check maxNameLen
  split
  · rename_i empty
    rw [empty]
    simp [not_word_nil]
  · rename_i first rest begins
    rw [begins, word_cons, ← isNameStart_iff, ← find?_none_iff isWordChar_iff]
    by_cases long : 255 < input.utf8ByteSize
    · rw [if_pos long]
      simp [Nat.not_le.mpr long]
    · rw [if_neg long]
      by_cases starts : isNameStart first = true
      · rw [if_pos starts]
        cases found : rest.find? (fun c => !isWordChar c) with
        | none => simp [starts, Nat.not_lt.mp long]
        | some c => simp
      · rw [if_neg starts]
        simp [starts]

theorem checked_isOk {Name : Type} {check : Except InvalidName Unit}
    (name : check = .ok () → Name) :
    (match accepted : check with
      | .ok () => Except.ok (name accepted)
      | .error refusal => Except.error refusal).isOk = true ↔ check = .ok () := by
  cases check with
  | ok _ => exact ⟨fun _ => rfl, fun _ => rfl⟩
  | error refusal => simp [Except.isOk, Except.toBool]

theorem BusName.new_isOk :
    (BusName.new input).isOk = true ↔ BusName.check input = .ok () :=
  checked_isOk (BusName.mk input)

theorem ObjectPath.new_isOk :
    (ObjectPath.new input).isOk = true ↔ ObjectPath.check input = .ok () :=
  checked_isOk (ObjectPath.mk input)

theorem InterfaceName.new_isOk :
    (InterfaceName.new input).isOk = true ↔ InterfaceName.check input = .ok () :=
  checked_isOk (InterfaceName.mk input)

theorem MemberName.new_isOk :
    (MemberName.new input).isOk = true ↔ MemberName.check input = .ok () :=
  checked_isOk (MemberName.mk input)

theorem checked_ok_iff {Name : Type} {check : Except InvalidName Unit}
    (name : check = .ok () → Name) (made : Name) :
    (match accepted : check with
      | .ok () => Except.ok (name accepted)
      | .error refusal => Except.error refusal) = .ok made ↔
      ∃ accepted, name accepted = made := by
  cases check with
  | ok _ => exact ⟨fun new => ⟨rfl, Except.ok.inj new⟩, fun ⟨_, same⟩ => congrArg _ same⟩
  | error refusal => simp

theorem ObjectPath.new_ok_iff {path : ObjectPath} :
    ObjectPath.new input = .ok path ↔ path.text = input := by
  refine (checked_ok_iff (ObjectPath.mk input) path).trans ⟨?_, ?_⟩
  · rintro ⟨_, rfl⟩
    rfl
  · rintro rfl
    exact ⟨path.valid, rfl⟩

theorem InterfaceName.new_ok_iff {interface : InterfaceName} :
    InterfaceName.new input = .ok interface ↔ interface.text = input := by
  refine (checked_ok_iff (InterfaceName.mk input) interface).trans ⟨?_, ?_⟩
  · rintro ⟨_, rfl⟩
    rfl
  · rintro rfl
    exact ⟨interface.valid, rfl⟩

theorem MemberName.new_ok_iff {member : MemberName} :
    MemberName.new input = .ok member ↔ member.text = input := by
  refine (checked_ok_iff (MemberName.mk input) member).trans ⟨?_, ?_⟩
  · rintro ⟨_, rfl⟩
    rfl
  · rintro rfl
    exact ⟨member.valid, rfl⟩

/-- Each constructor accepts a text exactly if the grammar of its kind generates it. -/
structure NamesAgree (input : String) : Prop where
  busName : (BusName.new input).isOk = true ↔ Grammar.BusName input
  objectPath : (ObjectPath.new input).isOk = true ↔ Grammar.ObjectPath input
  interfaceName : (InterfaceName.new input).isOk = true ↔ Grammar.InterfaceName input
  memberName : (MemberName.new input).isOk = true ↔ Grammar.MemberName input

/-- Of the form of a unique name, over the cap. -/
structure LongUnique (input : String) : Prop where
  unique : Unique input.toList
  long : 255 < input.utf8ByteSize

theorem busName_agrees_iff :
    ((BusName.new input).isOk = true ↔ Grammar.BusName input) ↔ ¬ LongUnique input := by
  rw [BusName.new_isOk, busName_check_iff]
  constructor
  · intro agrees longUnique
    have capped := (agrees.mp (.inl longUnique.unique)).capped
    exact absurd longUnique.long (Nat.not_lt.mpr capped)
  · intro short
    constructor
    · rintro (unique | dotted)
      · exact ⟨.inl unique, Nat.not_lt.mp fun long => short ⟨unique, long⟩⟩
      · exact ⟨.inr dotted.form, dotted.capped⟩
    · rintro ⟨unique | dotted, capped⟩
      · exact .inl unique
      · exact .inr ⟨dotted, capped⟩

/-- The constructors agree with the grammars on all texts but the long unique names. -/
theorem names_agree_iff (input : String) : NamesAgree input ↔ ¬ LongUnique input := by
  rw [← busName_agrees_iff]
  constructor
  · exact NamesAgree.busName
  · intro busName
    refine ⟨busName, ?_, ?_, ?_⟩
    · rw [ObjectPath.new_isOk, objectPath_check_iff]
    · rw [InterfaceName.new_isOk]
      exact validateDotted_ok_iff
    · rw [MemberName.new_isOk, memberName_check_iff]

/-- A unique name of 256 bytes. -/
def longName : String := String.ofList (':' :: List.replicate 255 '1')

theorem longName_accepted :
    (BusName.new longName).isOk = true ∧ ¬ Grammar.BusName longName := by
  have size : longName.utf8ByteSize = 256 := by decide +kernel
  have unique : Unique longName.toList := by
    unfold longName
    rw [String.toList_ofList, unique_cons]
    decide +kernel
  refine ⟨BusName.new_isOk.mpr (busName_check_iff.mpr (.inl unique)), ?_⟩
  intro named
  have capped := named.capped
  omega

end TinyBus
