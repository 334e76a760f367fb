import TinyBus.ConfigScan
import TinyBus.ValueText

/-
What the fingerprint of a configuration tells apart.  Two configurations are hashed alike
where they are equal as JSON values: their texts are the same but for the signs of zeros,
a text stands for one value, and the scan takes these signs away and nothing else.
-/

namespace TinyBus

/-- The bits of the zero with a sign. -/
def signedZero : UInt64 := 0x8000000000000000

namespace FloatText

def isFinite (bits : UInt64) : Bool := (bits >>> 52) &&& 0x7FF ≠ 0x7FF

/-- What the JSON library promises of its floats: each finite one has a text of its own,
which no integer has. -/
structure Lawful (floats : FloatText) : Prop where
  numeral : ∀ bits, isFinite bits = true → Json.Numeral (floats.write bits)
  fractional : ∀ bits, isFinite bits = true → ∃ c ∈ floats.write bits, c = '.' ∨ c = 'e'
  injective : ∀ left right, isFinite left = true → isFinite right = true →
    floats.write left = floats.write right → left = right
  zero : floats.write 0 = ['0', '.', '0']
  negative : floats.write signedZero = ['-', '0', '.', '0']

end FloatText

namespace Number

/-- A number as the JSON library builds it. -/
def Built : Number → Prop
  | .posInt _ => True
  | .negInt value => value.toInt < 0
  | .float bits => FloatText.isFinite bits = true

def isZero (bits : UInt64) : Bool := bits = 0 || bits = signedZero

/-- The equality of numbers: kind by kind, and that of floats knows one zero. -/
def equal : Number → Number → Bool
  | .posInt left, .posInt right => left = right
  | .negInt left, .negInt right => left = right
  | .float left, .float right => left = right || isZero left && isZero right
  | _, _ => false

def unsigned : Number → Number
  | .float bits => .float (if bits = signedZero then 0 else bits)
  | number => number

theorem equal_iff (left right : Number) :
    left.equal right = true ↔ left.unsigned = right.unsigned := by
  cases left with
  | posInt left =>
      cases right with
      | posInt right => simp [equal, unsigned]
      | _ => simp [equal, unsigned]
  | negInt left =>
      cases right with
      | negInt right => simp [equal, unsigned]
      | _ => simp [equal, unsigned]
  | float left =>
      cases right with
      | float right =>
          have apart : (0 : UInt64) ≠ signedZero := by decide
          simp only [equal, unsigned, isZero, Number.float.injEq, Bool.or_eq_true,
            Bool.and_eq_true, decide_eq_true_eq]
          grind
      | _ => simp [equal, unsigned]

theorem Built.unsigned {number : Number} (built : number.Built) : number.unsigned.Built := by
  cases number with
  | posInt value => exact built
  | negInt value => exact built
  | float bits =>
      change FloatText.isFinite (if bits = signedZero then 0 else bits) = true
      split
      · decide
      · exact built

section

variable {floats : FloatText} {number : Number}

private theorem numeral_digits (number : Nat) : Json.Numeral (Nat.toDigits 10 number) := by
  refine ⟨Nat.toDigits_ne_nil, fun c member => ?_⟩
  unfold Json.isNumeral
  rw [Decimal.isDigit_of_mem_toDigits member]
  rfl

private theorem token_negInt {value : Int64} (negative : value.toInt < 0) :
    (Number.negInt value).token floats = '-' :: Nat.toDigits 10 value.toInt.natAbs :=
  if_pos negative

theorem numeral_token (lawful : floats.Lawful) (built : number.Built) :
    Json.Numeral (number.token floats) := by
  cases number with
  | posInt value => exact numeral_digits _
  | negInt value =>
      rw [token_negInt built]
      exact ⟨List.cons_ne_nil _ _, List.forall_mem_cons.mpr ⟨by decide, (numeral_digits _).2⟩⟩
  | float bits => exact lawful.numeral bits built

private theorem whole_plain {number : Number} (whole : ∀ bits, number ≠ .float bits) :
    ∀ c ∈ number.token floats, c ≠ '.' ∧ c ≠ 'e' := by
  have digits {amount : Nat} : ∀ c ∈ Nat.toDigits 10 amount, c ≠ '.' ∧ c ≠ 'e' := by
    intro c member
    constructor
    · rintro rfl
      exact Decimal.not_mem_toDigits (by decide) member
    · rintro rfl
      exact Decimal.not_mem_toDigits (by decide) member
  cases number with
  | posInt value => exact digits
  | negInt value =>
      change ∀ c ∈ (if value.toInt < 0 then '-' :: Nat.toDigits 10 value.toInt.natAbs
        else Nat.toDigits 10 value.toInt.natAbs), c ≠ '.' ∧ c ≠ 'e'
      split
      · exact List.forall_mem_cons.mpr ⟨by decide, digits⟩
      · exact digits
  | float bits => exact absurd rfl (whole bits)

private theorem float_ne_whole (lawful : floats.Lawful) {bits : UInt64}
    (finite : FloatText.isFinite bits = true) {number : Number}
    (whole : ∀ bits, number ≠ .float bits) : floats.write bits ≠ number.token floats := by
  intro same
  obtain ⟨c, member, point⟩ := lawful.fractional bits finite
  rw [same] at member
  obtain ⟨other, another⟩ := whole_plain whole c member
  rcases point with rfl | rfl
  · exact other rfl
  · exact another rfl

private theorem toDigits_inj {left right : Nat}
    (same : Nat.toDigits 10 left = Nat.toDigits 10 right) : left = right := by
  rw [← Decimal.value_toDigits left, same, Decimal.value_toDigits]

private theorem digits_ne_negative {left right : Nat} :
    Nat.toDigits 10 left ≠ '-' :: Nat.toDigits 10 right := by
  intro same
  have sign : '-' ∈ Nat.toDigits 10 left := by
    rw [same]
    exact List.mem_cons_self
  exact Decimal.not_mem_toDigits (by decide) sign

theorem token_inj (lawful : floats.Lawful) {left right : Number} (built : left.Built)
    (also : right.Built) (same : left.token floats = right.token floats) : left = right := by
  cases left with
  | posInt left =>
      cases right with
      | posInt right => exact congrArg Number.posInt (UInt64.toNat_inj.mp (toDigits_inj same))
      | negInt right =>
          rw [token_negInt also] at same
          exact absurd same digits_ne_negative
      | float bits => exact absurd same.symm (float_ne_whole lawful also nofun)
  | negInt left =>
      rw [token_negInt built] at same
      cases right with
      | posInt right => exact absurd same.symm digits_ne_negative
      | negInt right =>
          rw [token_negInt also] at same
          have amount := toDigits_inj (List.cons.inj same).2
          have negative : left.toInt < 0 := built
          have other : right.toInt < 0 := also
          exact congrArg Number.negInt (Int64.toInt_inj.mp (by omega))
      | float bits =>
          rw [← token_negInt built] at same
          exact absurd same.symm (float_ne_whole lawful also nofun)
  | float bits =>
      cases right with
      | float other => exact congrArg Number.float (lawful.injective bits other built also same)
      | _ => exact absurd same (float_ne_whole lawful built nofun)

theorem token_unsigned (lawful : floats.Lawful) (built : number.Built) :
    number.unsigned.token floats = ConfigFingerprint.unsignedToken (number.token floats) := by
  have zero : FloatText.isFinite signedZero = true := by decide
  have whole (other : ∀ bits, number ≠ .float bits) :
      number.token floats ≠ ConfigFingerprint.negativeZeroToken := by
    intro same
    exact float_ne_whole lawful zero other (lawful.negative.trans same.symm)
  cases number with
  | posInt value => exact (if_neg (whole nofun)).symm
  | negInt value => exact (if_neg (whole nofun)).symm
  | float bits =>
      change floats.write (if bits = signedZero then 0 else bits) =
        ConfigFingerprint.unsignedToken (floats.write bits)
      by_cases signed : bits = signedZero
      · rw [if_pos signed, signed, lawful.negative, lawful.zero]
        rfl
      · rw [if_neg signed]
        refine (if_neg ?_).symm
        intro same
        exact signed (lawful.injective bits signedZero built zero (same.trans lawful.negative.symm))

end

end Number

namespace Value

mutual

/-- A value as the JSON library builds it, with its keys in order. -/
def Built : Value → Prop
  | .number value => value.Built
  | .array items => BuiltItems items
  | .object fields => (fields.map Prod.fst).Pairwise (· < ·) ∧ BuiltFields fields
  | _ => True

def BuiltItems : List Value → Prop
  | [] => True
  | item :: rest => Built item ∧ BuiltItems rest

def BuiltFields : List (String × Value) → Prop
  | [] => True
  | (_, value) :: rest => Built value ∧ BuiltFields rest

end

mutual

/-- The equality of JSON values; two maps list their keys in the same order. -/
def equal : Value → Value → Bool
  | .null, .null => true
  | .bool left, .bool right => left = right
  | .number left, .number right => left.equal right
  | .string left, .string right => left = right
  | .array left, .array right => equalItems left right
  | .object left, .object right => equalFields left right
  | _, _ => false

def equalItems : List Value → List Value → Bool
  | [], [] => true
  | item :: rest, other :: more => equal item other && equalItems rest more
  | _, _ => false

def equalFields : List (String × Value) → List (String × Value) → Bool
  | [], [] => true
  | (key, value) :: rest, (name, other) :: more =>
      key = name && equal value other && equalFields rest more
  | _, _ => false

end

mutual

def unsigned : Value → Value
  | .number value => .number value.unsigned
  | .array items => .array (unsignedItems items)
  | .object fields => .object (unsignedFields fields)
  | value => value

def unsignedItems : List Value → List Value
  | [] => []
  | item :: rest => unsigned item :: unsignedItems rest

def unsignedFields : List (String × Value) → List (String × Value)
  | [] => []
  | (key, value) :: rest => (key, unsigned value) :: unsignedFields rest

end

/-- `serde_json::to_vec`. -/
def toVec (floats : FloatText) (value : Value) : Bytes :=
  Json.encode (Json.write (toJson floats value))

mutual

theorem equal_iff : ∀ left right : Value,
    equal left right = true ↔ unsigned left = unsigned right
  | .null, right => by cases right <;> simp [equal, unsigned]
  | .bool left, right => by cases right <;> simp [equal, unsigned]
  | .number left, right => by
      cases right with
      | number right => simp only [equal, unsigned, Number.equal_iff, Value.number.injEq]
      | _ => simp [equal, unsigned]
  | .string left, right => by cases right <;> simp [equal, unsigned]
  | .array left, right => by
      cases right with
      | array right => simp only [equal, unsigned, equalItems_iff left right, Value.array.injEq]
      | _ => simp [equal, unsigned]
  | .object left, right => by
      cases right with
      | object right => simp only [equal, unsigned, equalFields_iff left right, Value.object.injEq]
      | _ => simp [equal, unsigned]

theorem equalItems_iff : ∀ left right : List Value,
    equalItems left right = true ↔ unsignedItems left = unsignedItems right
  | [], right => by cases right <;> simp [equalItems, unsignedItems]
  | item :: rest, right => by
      cases right with
      | nil => simp [equalItems, unsignedItems]
      | cons other more =>
          simp only [equalItems, unsignedItems, Bool.and_eq_true, List.cons.injEq,
            equal_iff item other, equalItems_iff rest more]

theorem equalFields_iff : ∀ left right : List (String × Value),
    equalFields left right = true ↔ unsignedFields left = unsignedFields right
  | [], right => by cases right <;> simp [equalFields, unsignedFields]
  | (key, value) :: rest, right => by
      cases right with
      | nil => simp [equalFields, unsignedFields]
      | cons field more =>
          obtain ⟨name, other⟩ := field
          simp only [equalFields, unsignedFields, Bool.and_eq_true, List.cons.injEq,
            Prod.mk.injEq, decide_eq_true_eq, equal_iff value other, equalFields_iff rest more]

end

private theorem unsigned_keys (fields : List (String × Value)) :
    (unsignedFields fields).map Prod.fst = fields.map Prod.fst := by
  induction fields with
  | nil => rfl
  | cons field rest ih => exact congrArg (List.cons field.1) ih

mutual

theorem Built.unsigned : ∀ {value : Value}, Built value → Built (unsigned value)
  | .null, _ => trivial
  | .bool _, _ => trivial
  | .number _, built => Number.Built.unsigned built
  | .string _, _ => trivial
  | .array _, built => BuiltItems.unsigned built
  | .object fields, built => by
      refine ⟨?_, BuiltFields.unsigned built.2⟩
      rw [unsigned_keys fields]
      exact built.1

theorem BuiltItems.unsigned : ∀ {items : List Value}, BuiltItems items →
    BuiltItems (unsignedItems items)
  | [], _ => trivial
  | _ :: _, built => ⟨built.1.unsigned, BuiltItems.unsigned built.2⟩

theorem BuiltFields.unsigned : ∀ {fields : List (String × Value)}, BuiltFields fields →
    BuiltFields (unsignedFields fields)
  | [], _ => trivial
  | (_, _) :: _, built => ⟨built.1.unsigned, BuiltFields.unsigned built.2⟩

end

variable {floats : FloatText}

mutual

theorem spelled_toJson (lawful : floats.Lawful) : ∀ {value : Value}, Built value →
    Json.Spelled (toJson floats value)
  | .null, _ => trivial
  | .bool _, _ => trivial
  | .number _, built => Number.numeral_token lawful built
  | .string _, _ => trivial
  | .array _, built => spelledItems_toJson lawful built
  | .object _, built => spelledFields_toJson lawful built.2

theorem spelledItems_toJson (lawful : floats.Lawful) : ∀ {items : List Value},
    BuiltItems items → Json.SpelledItems (toJsonItems floats items)
  | [], _ => trivial
  | _ :: _, built => ⟨spelled_toJson lawful built.1, spelledItems_toJson lawful built.2⟩

theorem spelledFields_toJson (lawful : floats.Lawful) : ∀ {fields : List (String × Value)},
    BuiltFields fields → Json.SpelledFields (toJsonFields floats fields)
  | [], _ => trivial
  | (_, _) :: _, built => ⟨spelled_toJson lawful built.1, spelledFields_toJson lawful built.2⟩

end

mutual

theorem toJson_unsigned (lawful : floats.Lawful) : ∀ {value : Value}, Built value →
    toJson floats (unsigned value) = ConfigFingerprint.unsigned (toJson floats value)
  | .null, _ => rfl
  | .bool _, _ => rfl
  | .number _, built => congrArg Json.number (Number.token_unsigned lawful built)
  | .string _, _ => rfl
  | .array _, built => congrArg Json.array (toJsonItems_unsigned lawful built)
  | .object _, built => congrArg Json.object (toJsonFields_unsigned lawful built.2)

theorem toJsonItems_unsigned (lawful : floats.Lawful) : ∀ {items : List Value},
    BuiltItems items → toJsonItems floats (unsignedItems items) =
      ConfigFingerprint.unsignedItems (toJsonItems floats items)
  | [], _ => rfl
  | item :: rest, built => by
      have first := toJson_unsigned lawful built.1
      have others := toJsonItems_unsigned lawful built.2
      exact congrArg₂ List.cons first others

theorem toJsonFields_unsigned (lawful : floats.Lawful) : ∀ {fields : List (String × Value)},
    BuiltFields fields → toJsonFields floats (unsignedFields fields) =
      ConfigFingerprint.unsignedFields (toJsonFields floats fields)
  | [], _ => rfl
  | (key, value) :: rest, built => by
      have first := toJson_unsigned lawful built.1
      have others := toJsonFields_unsigned lawful built.2
      exact congrArg₂ List.cons (congrArg (Prod.mk key.toList) first) others

end

mutual

theorem toJson_inj (lawful : floats.Lawful) : ∀ {left right : Value}, Built left →
    Built right → toJson floats left = toJson floats right → left = right
  | .null, right, _, _, same => by cases right <;> first | rfl | cases same
  | .bool _, right, _, _, same => by cases right <;> cases same; rfl
  | .number left, right, built, also, same => by
      cases right with
      | number right =>
          exact congrArg Value.number (Number.token_inj lawful built also (Json.number.inj same))
      | _ => cases same
  | .string left, right, _, _, same => by
      cases right with
      | string right => exact congrArg Value.string (String.toList_inj.mp (Json.string.inj same))
      | _ => cases same
  | .array left, right, built, also, same => by
      cases right with
      | array right =>
          exact congrArg Value.array (toJsonItems_inj lawful built also (Json.array.inj same))
      | _ => cases same
  | .object left, right, built, also, same => by
      cases right with
      | object right =>
          exact congrArg Value.object
            (toJsonFields_inj lawful built.2 also.2 (Json.object.inj same))
      | _ => cases same

theorem toJsonItems_inj (lawful : floats.Lawful) : ∀ {left right : List Value},
    BuiltItems left → BuiltItems right →
      toJsonItems floats left = toJsonItems floats right → left = right
  | [], [], _, _, _ => rfl
  | [], _ :: _, _, _, same => nomatch same
  | _ :: _, [], _, _, same => nomatch same
  | _ :: _, _ :: _, built, also, same =>
      congrArg₂ List.cons (toJson_inj lawful built.1 also.1 (List.cons.inj same).1)
        (toJsonItems_inj lawful built.2 also.2 (List.cons.inj same).2)

theorem toJsonFields_inj (lawful : floats.Lawful) : ∀ {left right : List (String × Value)},
    BuiltFields left → BuiltFields right →
      toJsonFields floats left = toJsonFields floats right → left = right
  | [], [], _, _, _ => rfl
  | [], (_, _) :: _, _, _, same => nomatch same
  | (_, _) :: _, [], _, _, same => nomatch same
  | (_, _) :: _, (_, _) :: _, built, also, same => by
      obtain ⟨field, others⟩ := List.cons.inj same
      obtain ⟨key, value⟩ := Prod.mk.inj field
      exact congrArg₂ List.cons
        (Prod.ext (String.toList_inj.mp key) (toJson_inj lawful built.1 also.1 value))
        (toJsonFields_inj lawful built.2 also.2 others)

end

theorem toVec_inj (lawful : floats.Lawful) {left right : Value} (built : Built left)
    (also : Built right) (same : toVec floats left = toVec floats right) : left = right := by
  have text := Json.encode_inj same
  have trees := Json.write_inj (toJson floats left) (toJson floats right) [] []
    (spelled_toJson lawful built) (spelled_toJson lawful also) .nil .nil
    (by rw [List.append_nil, List.append_nil]; exact text)
  exact toJson_inj lawful built also trees.1

theorem hashedBytes_toVec (lawful : floats.Lawful) {value : Value} (built : Built value) :
    ConfigFingerprint.hashedBytes (toVec floats value) = toVec floats (unsigned value) := by
  have swept := ConfigFingerprint.sweep_write (toJson floats value) none []
    (spelled_toJson lawful built) rfl nofun
  rw [List.append_nil] at swept
  rw [ConfigFingerprint.hashedBytes_eq]
  refine swept.trans ?_
  rw [toVec, toJson_unsigned lawful built]
  exact List.append_nil _

end Value

/-- The host hashes the same bytes for two configurations just where these are equal, and
changes nothing else in them than the sign of a zero. -/
theorem config_fingerprint_canonical {floats : FloatText} (lawful : floats.Lawful) :
    (∀ value : Value, value.Built →
      ConfigFingerprint.hashedBytes (value.toVec floats) = value.unsigned.toVec floats) ∧
    ∀ left right : Value, left.Built → right.Built →
      (ConfigFingerprint.hashedBytes (left.toVec floats) =
        ConfigFingerprint.hashedBytes (right.toVec floats) ↔ left.equal right = true) := by
  refine ⟨fun value built => Value.hashedBytes_toVec lawful built, ?_⟩
  intro left right built also
  rw [Value.hashedBytes_toVec lawful built, Value.hashedBytes_toVec lawful also,
    Value.equal_iff]
  constructor
  · exact fun same => Value.toVec_inj lawful built.unsigned also.unsigned same
  · exact fun same => congrArg (Value.toVec floats) same

/-- A notation for floats, by their bits, that writes the two zeros as the library does. -/
def bitNotation : FloatText where
  write := fun bits =>
    (if bits.toNat < 2 ^ 63 then [] else ['-']) ++
      (Nat.toDigits 10 (bits.toNat % 2 ^ 63) ++ ['.', '0'])
  read := fun _ => none

theorem bitNotation_lawful : bitNotation.Lawful where
  numeral := by
    intro bits _
    have digits : ∀ c ∈ Nat.toDigits 10 (bits.toNat % 2 ^ 63) ++ ['.', '0'],
        Json.isNumeral c = true := by
      refine List.forall_mem_append.mpr ⟨fun c member => ?_, Json.forall_of_all (by decide)⟩
      unfold Json.isNumeral
      rw [Decimal.isDigit_of_mem_toDigits member]
      rfl
    refine ⟨by simp [bitNotation], List.forall_mem_append.mpr ⟨?_, digits⟩⟩
    split <;> exact Json.forall_of_all (by decide)
  fractional := by
    intro bits _
    exact ⟨'.', List.mem_append_right _ (List.mem_append_right _ List.mem_cons_self), .inl rfl⟩
  injective := by
    intro left right _ _ same
    have plain (amount : Nat) : '-' ∉ Nat.toDigits 10 amount ++ ['.', '0'] := by
      intro member
      rcases List.mem_append.mp member with digits | point
      · exact Decimal.not_mem_toDigits (by decide) digits
      · exact absurd point (by decide)
    have magnitude {left right : Nat}
        (same : Nat.toDigits 10 left ++ ['.', '0'] = Nat.toDigits 10 right ++ ['.', '0']) :
        left = right := by
      have digits := List.append_cancel_right same
      rw [← Decimal.value_toDigits left, digits, Decimal.value_toDigits]
    have low := left.toNat_lt
    have high := right.toNat_lt
    apply UInt64.toNat_inj.mp
    unfold bitNotation at same
    dsimp only at same
    by_cases positive : left.toNat < 2 ^ 63
    · by_cases also : right.toNat < 2 ^ 63
      · rw [if_pos positive, if_pos also] at same
        have amount := magnitude same
        omega
      · rw [if_pos positive, if_neg also] at same
        exact absurd (same ▸ List.mem_cons_self) (plain (left.toNat % 2 ^ 63))
    · by_cases also : right.toNat < 2 ^ 63
      · rw [if_neg positive, if_pos also] at same
        exact absurd (same ▸ List.mem_cons_self) (plain (right.toNat % 2 ^ 63))
      · rw [if_neg positive, if_neg also] at same
        have amount := magnitude (List.cons.inj same).2
        omega
  zero := by decide
  negative := by decide

/-- A configuration whose strings look like numbers. -/
def gainConfig (level : Number) (label : String) : Value :=
  .object [("\\\"-0.0", .array [.number level, .string label])]

theorem gainConfig_canonical :
    ConfigFingerprint.hashedBytes ((gainConfig (.float signedZero) "-0.0").toVec bitNotation) =
        ConfigFingerprint.hashedBytes ((gainConfig (.float 0) "-0.0").toVec bitNotation) ∧
      ConfigFingerprint.hashedBytes ((gainConfig (.float 0) "-0.0").toVec bitNotation) ≠
        ConfigFingerprint.hashedBytes ((gainConfig (.float 0) "0.0").toVec bitNotation) := by
  have canonical := (config_fingerprint_canonical bitNotation_lawful).2
  have built (bits : UInt64) (finite : FloatText.isFinite bits = true) (label : String) :
      (gainConfig (.float bits) label).Built :=
    ⟨List.pairwise_singleton _ _, ⟨⟨finite, trivial, trivial⟩, trivial⟩⟩
  refine ⟨(canonical _ _ (built _ (by decide) _) (built _ (by decide) _)).mpr (by decide), ?_⟩
  intro same
  exact absurd ((canonical _ _ (built _ (by decide) _) (built _ (by decide) _)).mp same)
    (by decide)

end TinyBus
