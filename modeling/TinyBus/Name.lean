/-
The four validated address types.  A value of one of them carries the success
of its grammar check, so no later stage can meet a malformed address.
-/

namespace TinyBus

/-- Why a string is not a name of the required kind. -/
structure InvalidName where
  kind : String
  input : String
  reason : String
  deriving DecidableEq, Repr

/-- The cap on any single address component, in bytes. -/
def maxNameLen : Nat := 255

def tooLong : String := "is longer than " ++ toString maxNameLen ++ " bytes"

def isNameStart (c : Char) : Bool := c.isAlpha || c == '_'

def isWordChar (c : Char) : Bool := c.isAlphanum || c == '_'

def isDottedChar (c : Char) : Bool := isWordChar c || c == '-'

def validateElement (kind input : String) :
    List Char → Except InvalidName Unit
  | [] => .error ⟨kind, input, "has an empty element"⟩
  | first :: rest =>
      if isNameStart first then
        match rest.find? (fun c => !isDottedChar c) with
        | none => .ok ()
        | some c =>
            .error ⟨kind, input, "element `" ++ String.ofList (first :: rest) ++
              "` contains `" ++ c.toString ++ "`"⟩
      else
        .error ⟨kind, input, "element `" ++ String.ofList (first :: rest) ++
          "` must start with a letter or underscore"⟩

def validateElements (kind input : String) :
    List (List Char) → Except InvalidName Unit
  | [] => .ok ()
  | element :: rest =>
      match validateElement kind input element with
      | .ok () => validateElements kind input rest
      | .error refusal => .error refusal

/-- Elements of a dotted name: a letter or underscore, then letters, digits,
underscores and hyphens. -/
def validateDotted (kind input : String) : Except InvalidName Unit :=
  if input.toList = [] then
    .error ⟨kind, input, "is empty"⟩
  else if maxNameLen < input.utf8ByteSize then
    .error ⟨kind, input, tooLong⟩
  else if (input.toList.splitOn '.').length < 2 then
    .error ⟨kind, input, "needs at least two dot-separated elements"⟩
  else
    validateElements kind input (input.toList.splitOn '.')

def isDigitRun (element : List Char) : Bool :=
  !element.isEmpty && element.all Char.isDigit

/-- A unique name is `:` and dot-separated digit runs; any other bus name is
dotted.  Only the latter is bounded in length. -/
def BusName.check (input : String) : Except InvalidName Unit :=
  match input.toList with
  | ':' :: rest =>
      if rest = [] then
        .error ⟨"bus name", input, "is just `:`"⟩
      else if (rest.splitOn '.').all isDigitRun then
        .ok ()
      else
        .error ⟨"bus name", input,
          "a unique name is `:` followed by dot-separated digits"⟩
  | _ => validateDotted "bus name" input

structure BusName where
  text : String
  valid : BusName.check text = .ok ()
  deriving DecidableEq

namespace BusName

@[ext] theorem ext {left right : BusName} (same : left.text = right.text) :
    left = right := by
  cases left
  cases right
  cases same
  rfl

def new (input : String) : Except InvalidName BusName :=
  match accepted : check input with
  | .ok () => .ok ⟨input, accepted⟩
  | .error refusal => .error refusal

def isUnique (name : BusName) : Bool := name.text.toList.head? == some ':'

theorem new_ok_iff {input : String} {name : BusName} :
    new input = .ok name ↔ name.text = input := by
  unfold new
  split
  · rename_i accepted
    constructor
    · intro same
      cases same
      rfl
    · intro same
      subst input
      rfl
  · rename_i refusal refused
    constructor
    · intro impossible
      cases impossible
    · intro same
      rw [← same, name.valid] at refused
      cases refused

private theorem digits_isDigit {c : Char} {id : Nat}
    (member : c ∈ (Nat.repr id).toList) : c.isDigit = true := by
  rw [Nat.toList_repr] at member
  exact Nat.isDigit_of_mem_toDigits (by decide) (by decide) member

private theorem digits_isDigitRun (id : Nat) :
    isDigitRun (Nat.repr id).toList = true := by
  have nonempty : (Nat.repr id).toList ≠ [] := by
    rw [Nat.toList_repr]
    exact Nat.toDigits_ne_nil
  rw [isDigitRun, Bool.and_eq_true, List.all_eq_true]
  refine ⟨?_, fun c member => digits_isDigit member⟩
  cases split : (Nat.repr id).toList with
  | nil => exact absurd split nonempty
  | cons head tail => rfl

private theorem unique_text_toList (id : Nat) :
    (":1." ++ Nat.repr id).toList = ':' :: (['1'] ++ '.' :: (Nat.repr id).toList) := by
  rw [String.toList_append]
  rfl

private theorem unique_check (id : Nat) :
    check (":1." ++ Nat.repr id) = .ok () := by
  have absent : '.' ∉ (Nat.repr id).toList :=
    fun member => absurd (digits_isDigit member) (by decide)
  have elements : (['1'] ++ '.' :: (Nat.repr id).toList).splitOn '.' =
      [['1'], (Nat.repr id).toList] := by
    rw [List.splitOn_append_cons_self_of_not_mem (by decide),
      List.splitOn_eq_singleton absent]
  unfold check
  rw [unique_text_toList]
  simp only [elements]
  rw [if_neg (by simp), if_pos]
  rw [List.all_cons, List.all_cons, digits_isDigitRun]
  rfl

/-- The unique name the broker mints for peer `id`. -/
def unique (id : Nat) : BusName := ⟨":1." ++ Nat.repr id, unique_check id⟩

@[simp] theorem isUnique_unique (id : Nat) : (unique id).isUnique = true := by
  rw [isUnique, unique, unique_text_toList]
  rfl

theorem repr_injective {left right : Nat} (same : Nat.repr left = Nat.repr right) :
    left = right := by
  have digits : Nat.toDigits 10 left = Nat.toDigits 10 right := by
    rw [← Nat.toList_repr, ← Nat.toList_repr, same]
  calc
    left = Nat.ofDigitChars 10 (Nat.toDigits 10 left) 0 :=
      Nat.ofDigitChars_ten_toDigits.symm
    _ = Nat.ofDigitChars 10 (Nat.toDigits 10 right) 0 := by rw [digits]
    _ = right := Nat.ofDigitChars_ten_toDigits

theorem unique_injective {left right : Nat} (same : unique left = unique right) :
    left = right := by
  have texts : ":1." ++ Nat.repr left = ":1." ++ Nat.repr right :=
    congrArg BusName.text same
  exact repr_injective (String.append_right_inj _ |>.mp texts)

@[simp] theorem unique_inj {left right : Nat} :
    unique left = unique right ↔ left = right :=
  ⟨unique_injective, congrArg unique⟩

end BusName

/-- The name of the broker's own service. -/
def busName : BusName := ⟨"ai.tinyhumans.tinybus.Bus", by rfl⟩

@[simp] theorem busName_not_unique : busName.isUnique = false := by decide

theorem unique_ne_busName (id : Nat) : BusName.unique id ≠ busName := by
  intro same
  have kinds := congrArg BusName.isUnique same
  rw [BusName.isUnique_unique, busName_not_unique] at kinds
  cases kinds

def validatePathElements (input : String) :
    List (List Char) → Except InvalidName Unit
  | [] => .ok ()
  | element :: rest =>
      if element = [] then
        .error ⟨"object path", input, "has an empty element"⟩
      else
        match element.find? (fun c => !isWordChar c) with
        | none => validatePathElements input rest
        | some c =>
            .error ⟨"object path", input, "element `" ++ String.ofList element ++
              "` contains `" ++ c.toString ++ "`"⟩

def ObjectPath.check (input : String) : Except InvalidName Unit :=
  if maxNameLen < input.utf8ByteSize then
    .error ⟨"object path", input, tooLong⟩
  else if input = "/" then
    .ok ()
  else
    match input.toList with
    | '/' :: elements =>
        if elements.getLast? = some '/' then
          .error ⟨"object path", input, "must not end with `/`"⟩
        else
          validatePathElements input (elements.splitOn '/')
    | _ => .error ⟨"object path", input, "must start with `/`"⟩

structure ObjectPath where
  text : String
  valid : ObjectPath.check text = .ok ()
  deriving DecidableEq

namespace ObjectPath

def new (input : String) : Except InvalidName ObjectPath :=
  match accepted : check input with
  | .ok () => .ok ⟨input, accepted⟩
  | .error refusal => .error refusal

def root : ObjectPath := ⟨"/", by rfl⟩

/-- Whether `path` is `other` or lives beneath it.  The character after the
prefix is read only where a proper prefix leaves one. -/
def startsWith (path other : ObjectPath) : Bool :=
  if other.text = "/" then
    true
  else
    path.text = other.text ||
      (other.text.toList.isPrefixOf path.text.toList &&
        path.text.toList[other.text.toList.length]? == some '/')

end ObjectPath

/-- The path the broker's own service is exported at. -/
def busPath : ObjectPath := ⟨"/ai/tinyhumans/tinybus/Bus", by rfl⟩

def InterfaceName.check (input : String) : Except InvalidName Unit :=
  validateDotted "interface name" input

structure InterfaceName where
  text : String
  valid : InterfaceName.check text = .ok ()
  deriving DecidableEq

def InterfaceName.new (input : String) : Except InvalidName InterfaceName :=
  match accepted : check input with
  | .ok () => .ok ⟨input, accepted⟩
  | .error refusal => .error refusal

/-- The broker's own interface. -/
def busInterface : InterfaceName := ⟨"ai.tinyhumans.tinybus.Bus", by rfl⟩

def MemberName.check (input : String) : Except InvalidName Unit :=
  match input.toList with
  | [] => .error ⟨"member name", input, "is empty"⟩
  | first :: rest =>
      if maxNameLen < input.utf8ByteSize then
        .error ⟨"member name", input, tooLong⟩
      else if isNameStart first then
        match rest.find? (fun c => !isWordChar c) with
        | none => .ok ()
        | some c =>
            .error ⟨"member name", input, "contains `" ++ c.toString ++ "`"⟩
      else
        .error ⟨"member name", input, "must start with a letter or underscore"⟩

structure MemberName where
  text : String
  valid : MemberName.check text = .ok ()
  deriving DecidableEq

def MemberName.new (input : String) : Except InvalidName MemberName :=
  match accepted : check input with
  | .ok () => .ok ⟨input, accepted⟩
  | .error refusal => .error refusal

end TinyBus
