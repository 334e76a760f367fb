/-
Values as JSON.  A text keeps an object's fields as they come; a value holds them in a
sorted map, where a later field replaces an earlier one of its name.
-/

import Mathlib.Data.String.Basic
import TinyBus.Library.Json
import TinyBus.Value

namespace TinyBus

/-- How numbers that are no 64-bit integers are written and read. -/
structure FloatText where
  write : UInt64 → List Char
  read : List Char → Option UInt64

namespace Number

def token (floats : FloatText) : Number → List Char
  | .posInt value => Nat.toDigits 10 value.toNat
  | .negInt value =>
      if value.toInt < 0 then '-' :: Nat.toDigits 10 value.toInt.natAbs
      else Nat.toDigits 10 value.toInt.natAbs
  | .float bits => floats.write bits

def ofToken (floats : FloatText) (token : List Char) : Option Number :=
  let (sign, digits) := Json.readSign token
  let amount := Decimal.value digits
  if digits.all Char.isDigit = true ∧ sign = [] ∧ amount < 2 ^ 64 then
    some (.posInt (.ofNat amount))
  else if digits.all Char.isDigit = true ∧ sign ≠ [] ∧ 0 < amount ∧ amount ≤ 2 ^ 63 then
    some (.negInt (.ofInt (-amount)))
  else (floats.read token).map .float

/-- A number as the JSON library builds it, and no float. -/
def Plain : Number → Prop
  | .posInt _ => True
  | .negInt value => value.toInt < 0
  | .float _ => False

end Number

namespace Value

mutual

def toJson (floats : FloatText) : Value → Json
  | .null => .null
  | .bool value => .bool value
  | .number value => .number (value.token floats)
  | .string value => .string value.toList
  | .array items => .array (toJsonItems floats items)
  | .object fields => .object (toJsonFields floats fields)

def toJsonItems (floats : FloatText) : List Value → List Json
  | [] => []
  | item :: rest => toJson floats item :: toJsonItems floats rest

def toJsonFields (floats : FloatText) : List (String × Value) → List (List Char × Json)
  | [] => []
  | (key, value) :: rest => (key.toList, toJson floats value) :: toJsonFields floats rest

end

def insertField (map : List (String × Value)) (key : String) (value : Value) :
    List (String × Value) :=
  match map with
  | [] => [(key, value)]
  | entry :: rest =>
      if key < entry.1 then (key, value) :: entry :: rest
      else if key = entry.1 then (key, value) :: rest
      else entry :: insertField rest key value

mutual

def ofJson (floats : FloatText) : Json → Option Value
  | .null => some .null
  | .bool value => some (.bool value)
  | .number token => (Number.ofToken floats token).map .number
  | .string text => some (.string (String.ofList text))
  | .array items => (ofJsonItems floats items).map .array
  | .object fields => (ofJsonFields floats [] fields).map .object

def ofJsonItems (floats : FloatText) : List Json → Option (List Value)
  | [] => some []
  | item :: rest =>
      match ofJson floats item, ofJsonItems floats rest with
      | some first, some others => some (first :: others)
      | _, _ => none

def ofJsonFields (floats : FloatText) (map : List (String × Value)) :
    List (List Char × Json) → Option (List (String × Value))
  | [] => some map
  | (key, value) :: rest =>
      match ofJson floats value with
      | some value => ofJsonFields floats (insertField map (String.ofList key) value) rest
      | none => none

end

mutual

/-- A value as the JSON library builds it, with no float in it. -/
def Plain : Value → Prop
  | .number value => value.Plain
  | .array items => PlainItems items
  | .object fields => (fields.map Prod.fst).Pairwise (· < ·) ∧ PlainFields fields
  | _ => True

def PlainItems : List Value → Prop
  | [] => True
  | item :: rest => Plain item ∧ PlainItems rest

def PlainFields : List (String × Value) → Prop
  | [] => True
  | (_, value) :: rest => Plain value ∧ PlainFields rest

end

mutual

/-- The arrays and objects inside one another. -/
def nesting : Value → Nat
  | .array items => nestingItems items + 1
  | .object fields => nestingFields fields + 1
  | _ => 0

def nestingItems : List Value → Nat
  | [] => 0
  | item :: rest => max (nesting item) (nestingItems rest)

def nestingFields : List (String × Value) → Nat
  | [] => 0
  | (_, value) :: rest => max (nesting value) (nestingFields rest)

end

end Value

section Text

variable (floats : FloatText)

theorem readSign_toDigits (number : Nat) :
    Json.readSign (Nat.toDigits 10 number) = ([], Nat.toDigits 10 number) := by
  have digits := Decimal.all_toDigits number
  cases written : Nat.toDigits 10 number with
  | nil => rfl
  | cons c rest =>
      refine if_neg ?_
      rintro rfl
      rw [written] at digits
      exact absurd digits (by simp)

theorem Number.ofToken_token {number : Number} (plain : number.Plain) :
    Number.ofToken floats (number.token floats) = some number := by
  unfold Number.ofToken
  cases number with
  | posInt value =>
      unfold Number.token
      dsimp only
      rw [readSign_toDigits]
      dsimp only
      rw [Decimal.value_toDigits, if_pos ⟨Decimal.all_toDigits _, rfl, value.toNat_lt⟩,
        UInt64.ofNat_toNat]
  | negInt value =>
      have negative : value.toInt < 0 := plain
      have low := value.le_toInt
      have same : -(value.toInt.natAbs : Int) = value.toInt := by omega
      have sign : Json.readSign ('-' :: Nat.toDigits 10 value.toInt.natAbs) =
          (['-'], Nat.toDigits 10 value.toInt.natAbs) := rfl
      unfold Number.token
      dsimp only
      rw [if_pos negative, sign]
      dsimp only
      rw [Decimal.value_toDigits, if_neg (fun both => nomatch both.2.1),
        if_pos ⟨Decimal.all_toDigits _, List.cons_ne_nil _ _, by omega, by omega⟩, same,
        Int64.ofInt_toInt]
  | float bits => exact plain.elim

theorem Number.whole_token {number : Number} (plain : number.Plain) :
    Json.Whole (number.token floats) := by
  cases number with
  | posInt value => exact ⟨[], _, .inl rfl, Decimal.canonical_toDigits _, rfl⟩
  | negInt value =>
      have negative : value.toInt < 0 := plain
      refine ⟨['-'], _, .inr rfl, Decimal.canonical_toDigits value.toInt.natAbs, ?_⟩
      exact if_pos negative
  | float bits => exact plain.elim

namespace Value

theorem insertField_last {map : List (String × Value)} {key : String}
    (last : ∀ entry ∈ map, entry.1 < key) (value : Value) :
    insertField map key value = map ++ [(key, value)] := by
  induction map with
  | nil => rfl
  | cons entry rest ih =>
      have before := last entry List.mem_cons_self
      unfold insertField
      rw [if_neg (lt_asymm before), if_neg (ne_of_gt before),
        ih (fun other among => last other (List.mem_cons_of_mem _ among))]
      rfl

mutual

theorem ofJson_toJson : ∀ value : Value, Plain value →
    ofJson floats (toJson floats value) = some value
  | .null, _ => rfl
  | .bool flag, _ => rfl
  | .number amount, plain => by
      unfold toJson ofJson
      rw [Number.ofToken_token floats plain]
      rfl
  | .string text, _ => by
      unfold toJson ofJson
      rw [String.ofList_toList]
  | .array items, plain => by
      unfold toJson ofJson
      rw [ofJsonItems_toJson items plain]
      rfl
  | .object fields, plain => by
      unfold toJson ofJson
      rw [ofJsonFields_toJson fields [] plain.1 plain.2]
      rfl

theorem ofJsonItems_toJson : ∀ items : List Value, PlainItems items →
    ofJsonItems floats (toJsonItems floats items) = some items
  | [], _ => rfl
  | item :: rest, plain => by
      unfold toJsonItems ofJsonItems
      rw [ofJson_toJson item plain.1, ofJsonItems_toJson rest plain.2]

theorem ofJsonFields_toJson : ∀ (fields map : List (String × Value)),
    ((map ++ fields).map Prod.fst).Pairwise (· < ·) → PlainFields fields →
    ofJsonFields floats map (toJsonFields floats fields) = some (map ++ fields)
  | [], map, _, _ => by
      rw [List.append_nil]
      rfl
  | (key, value) :: rest, map, sorted, plain => by
      have last : ∀ entry ∈ map, entry.1 < key := by
        intro entry among
        rw [List.map_append] at sorted
        exact (List.pairwise_append.mp sorted).2.2 _ (List.mem_map_of_mem among) _
          List.mem_cons_self
      have whole : map ++ (key, value) :: rest = map ++ [(key, value)] ++ rest := by
        rw [List.append_assoc]
        rfl
      rw [whole] at sorted ⊢
      unfold toJsonFields ofJsonFields
      rw [ofJson_toJson value plain.1]
      dsimp only
      rw [String.ofList_toList, insertField_last last]
      exact ofJsonFields_toJson rest _ sorted plain.2

end

mutual

theorem integral_toJson : ∀ value : Value, Plain value → Json.Integral (toJson floats value)
  | .null, _ => trivial
  | .bool _, _ => trivial
  | .number _, plain => Number.whole_token floats plain
  | .string _, _ => trivial
  | .array items, plain => integralItems_toJson items plain
  | .object fields, plain => integralFields_toJson fields plain.2

theorem integralItems_toJson : ∀ items : List Value, PlainItems items →
    Json.IntegralItems (toJsonItems floats items)
  | [], _ => trivial
  | item :: rest, plain => ⟨integral_toJson item plain.1, integralItems_toJson rest plain.2⟩

theorem integralFields_toJson : ∀ fields : List (String × Value), PlainFields fields →
    Json.IntegralFields (toJsonFields floats fields)
  | [], _ => trivial
  | (_, value) :: rest, plain =>
      ⟨integral_toJson value plain.1, integralFields_toJson rest plain.2⟩

end

mutual

theorem nesting_toJson : ∀ value : Value, Json.nesting (toJson floats value) = nesting value
  | .null => rfl
  | .bool _ => rfl
  | .number _ => rfl
  | .string _ => rfl
  | .array items => congrArg (· + 1) (nestingItems_toJson items)
  | .object fields => congrArg (· + 1) (nestingFields_toJson fields)

theorem nestingItems_toJson : ∀ items : List Value,
    Json.nestingItems (toJsonItems floats items) = nestingItems items
  | [] => rfl
  | item :: rest => by
      unfold toJsonItems Json.nestingItems nestingItems
      rw [nesting_toJson item, nestingItems_toJson rest]

theorem nestingFields_toJson : ∀ fields : List (String × Value),
    Json.nestingFields (toJsonFields floats fields) = nestingFields fields
  | [] => rfl
  | (_, value) :: rest => by
      unfold toJsonFields Json.nestingFields nestingFields
      rw [nesting_toJson value, nestingFields_toJson rest]

end

end Value

end Text

end TinyBus
