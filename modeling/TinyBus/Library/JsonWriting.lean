import TinyBus.Library.Json

/-!
A JSON text stands for one tree: where two trees are written alike, and what follows
them cannot belong to either, they are the same tree and the same follows.  Numbers are
any tokens made of the characters of numbers.
-/

namespace Json

def isNumeral (c : Char) : Bool :=
  c.isDigit || c = '-' || c = '+' || c = '.' || c = 'e' || c = 'E'

/-- What a number may be written as. -/
def Numeral (token : List Char) : Prop := token ≠ [] ∧ ∀ c ∈ token, isNumeral c = true

mutual

/-- Every number in the tree is written as one. -/
def Spelled : Json → Prop
  | .number token => Numeral token
  | .array items => SpelledItems items
  | .object fields => SpelledFields fields
  | _ => True

def SpelledItems : List Json → Prop
  | [] => True
  | item :: rest => Spelled item ∧ SpelledItems rest

def SpelledFields : List (List Char × Json) → Prop
  | [] => True
  | (_, value) :: rest => Spelled value ∧ SpelledFields rest

end

/-- What may come behind a value. -/
def Tail (rest : List Char) : Prop := ∀ c ∈ rest.head?, c = ',' ∨ c = ']' ∨ c = '}'

theorem Tail.nil : Tail [] := nofun

theorem Tail.cons {c : Char} (ends : c = ',' ∨ c = ']' ∨ c = '}') (rest : List Char) :
    Tail (c :: rest) := by
  intro d among
  cases among
  exact ends

theorem tail_items (items : List Json) (rest : List Char) :
    Tail (writeItems items ++ rest) := by
  cases items with
  | nil => exact .cons (by decide) _
  | cons item more => exact .cons (by decide) _

theorem tail_fields (fields : List (List Char × Json)) (rest : List Char) :
    Tail (writeFields fields ++ rest) := by
  cases fields with
  | nil => exact .cons (by decide) _
  | cons field more => exact .cons (by decide) _

theorem Tail.takeWhile {token rest : List Char} (tail : Tail rest) (numeral : Numeral token) :
    (token ++ rest).takeWhile isNumeral = token := by
  rw [List.takeWhile_append_of_pos numeral.2]
  cases rest with
  | nil => exact List.append_nil token
  | cons c more =>
      have other : ¬ isNumeral c = true := by
        rcases tail c rfl with rfl | rfl | rfl <;> decide
      rw [List.takeWhile_cons_of_neg other]
      exact List.append_nil token

variable {before after : List Char}

theorem numeral_inj {left right : List Char} (spelled : Numeral left) (also : Numeral right)
    (ends : Tail before) (tail : Tail after)
    (same : left ++ before = right ++ after) : left = right ∧ before = after := by
  have token : left = right := by
    rw [← ends.takeWhile spelled, same, tail.takeWhile also]
  subst token
  exact ⟨rfl, List.append_cancel_left same⟩

private theorem behind_first {c d : Char} {left right : List Char}
    (same : c :: left ++ before = d :: right ++ after) : left ++ before = right ++ after :=
  (List.cons.inj same).2

theorem writeString_inj {left right : List Char}
    (same : writeString left ++ before = writeString right ++ after) :
    left = right ∧ before = after := by
  have opened : left.flatMap escapeChar ++ '"' :: before =
      right.flatMap escapeChar ++ '"' :: after := by
    have closed := behind_first same
    rw [List.append_assoc, List.append_assoc] at closed
    exact closed
  have reads := readString_write left (Nat.lt_succ_of_le (Nat.le_max_left left.length right.length))
    before
  rw [opened, readString_write right
    (Nat.lt_succ_of_le (Nat.le_max_right left.length right.length))] at reads
  cases reads
  exact ⟨rfl, rfl⟩

inductive Shape where
  | null
  | yes
  | no
  | number
  | text
  | array
  | object

def shape : Json → Shape
  | .null => .null
  | .bool true => .yes
  | .bool false => .no
  | .number _ => .number
  | .string _ => .text
  | .array _ => .array
  | .object _ => .object

/-- The first character of a value tells what kind it is of. -/
def shapeOf (c : Char) : Option Shape :=
  if c = 'n' then some .null
  else if c = 't' then some .yes
  else if c = 'f' then some .no
  else if c = '"' then some .text
  else if c = '[' then some .array
  else if c = '{' then some .object
  else if isNumeral c then some .number
  else none

theorem shapeOf_numeral {c : Char} (numeral : isNumeral c = true) :
    shapeOf c = some .number := by
  have other {d : Char} (apart : isNumeral d = false) : c ≠ d := by
    rintro rfl
    rw [apart] at numeral
    cases numeral
  unfold shapeOf
  rw [if_neg (other (by decide)), if_neg (other (by decide)), if_neg (other (by decide)),
    if_neg (other (by decide)), if_neg (other (by decide)), if_neg (other (by decide)),
    if_pos numeral]

theorem write_shape {value : Json} (spelled : Spelled value) :
    ∃ c more, write value = c :: more ∧ shapeOf c = some value.shape := by
  cases value with
  | null => exact ⟨_, _, rfl, rfl⟩
  | bool flag => cases flag <;> exact ⟨_, _, rfl, rfl⟩
  | number token =>
      obtain ⟨c, more, rfl⟩ := List.exists_cons_of_ne_nil spelled.1
      exact ⟨c, more, rfl, shapeOf_numeral (spelled.2 c List.mem_cons_self)⟩
  | string text => exact ⟨_, _, rfl, rfl⟩
  | array items => cases items <;> exact ⟨_, _, rfl, rfl⟩
  | object fields => cases fields <;> exact ⟨_, _, rfl, rfl⟩

theorem shape_eq {left right : Json} (spelled : Spelled left) (also : Spelled right)
    (same : write left ++ before = write right ++ after) :
    left.shape = right.shape := by
  obtain ⟨c, _, starts, kind⟩ := write_shape spelled
  obtain ⟨d, _, begins, sort⟩ := write_shape also
  rw [starts, begins] at same
  rw [(List.cons.inj same).1, sort] at kind
  exact (Option.some.inj kind).symm

theorem write_ne_close {value : Json} {c : Char} (spelled : Spelled value)
    (closes : shapeOf c = none) :
    write value ++ before ≠ c :: after := by
  intro same
  obtain ⟨d, _, starts, kind⟩ := write_shape spelled
  rw [starts] at same
  rw [(List.cons.inj same).1, closes] at kind
  cases kind

mutual

theorem write_inj : ∀ (left right : Json) (before after : List Char), Spelled left →
    Spelled right → Tail before → Tail after → write left ++ before = write right ++ after →
      left = right ∧ before = after
  | .null, right, before, after, spelled, also, _, _, same => by
      have kind := shape_eq spelled also same
      cases right with
      | null => exact ⟨rfl, List.append_cancel_left same⟩
      | bool flag => cases flag <;> cases kind
      | _ => cases kind
  | .bool true, right, before, after, spelled, also, _, _, same => by
      have kind := shape_eq spelled also same
      cases right with
      | bool flag =>
          cases flag with
          | true => exact ⟨rfl, List.append_cancel_left same⟩
          | false => cases kind
      | _ => cases kind
  | .bool false, right, before, after, spelled, also, _, _, same => by
      have kind := shape_eq spelled also same
      cases right with
      | bool flag =>
          cases flag with
          | true => cases kind
          | false => exact ⟨rfl, List.append_cancel_left same⟩
      | _ => cases kind
  | .number token, right, before, after, spelled, also, ends, tail, same => by
      have kind := shape_eq spelled also same
      cases right with
      | number other =>
          obtain ⟨rfl, rfl⟩ := numeral_inj spelled also ends tail same
          exact ⟨rfl, rfl⟩
      | bool flag => cases flag <;> cases kind
      | _ => cases kind
  | .string text, right, before, after, spelled, also, _, _, same => by
      have kind := shape_eq spelled also same
      cases right with
      | string other =>
          obtain ⟨rfl, rfl⟩ := writeString_inj same
          exact ⟨rfl, rfl⟩
      | bool flag => cases flag <;> cases kind
      | _ => cases kind
  | .array [], right, before, after, spelled, also, _, _, same => by
      have kind := shape_eq spelled also same
      cases right with
      | array items =>
          cases items with
          | nil => exact ⟨rfl, List.append_cancel_left same⟩
          | cons item rest =>
              have inner := behind_first same
              rw [List.append_assoc] at inner
              exact absurd inner.symm (write_ne_close also.1 (by decide))
      | bool flag => cases flag <;> cases kind
      | _ => cases kind
  | .array (item :: rest), right, before, after, spelled, also, ends, tail, same => by
      have kind := shape_eq spelled also same
      cases right with
      | array items =>
          cases items with
          | nil =>
              have inner := behind_first same
              rw [List.append_assoc] at inner
              exact absurd inner (write_ne_close spelled.1 (by decide))
          | cons other more =>
              have inner := behind_first same
              rw [List.append_assoc, List.append_assoc] at inner
              obtain ⟨rfl, behind⟩ := write_inj item other _ _ spelled.1 also.1
                (tail_items rest before) (tail_items more after) inner
              obtain ⟨rfl, rfl⟩ := writeItems_inj rest more before after spelled.2 also.2 behind
              exact ⟨rfl, rfl⟩
      | bool flag => cases flag <;> cases kind
      | _ => cases kind
  | .object [], right, before, after, spelled, also, _, _, same => by
      have kind := shape_eq spelled also same
      cases right with
      | object fields =>
          cases fields with
          | nil => exact ⟨rfl, List.append_cancel_left same⟩
          | cons field rest => cases (List.cons.inj (List.cons.inj same).2).1
      | bool flag => cases flag <;> cases kind
      | _ => cases kind
  | .object ((key, value) :: rest), right, before, after, spelled, also, ends, tail, same => by
      have kind := shape_eq spelled also same
      cases right with
      | object fields =>
          cases fields with
          | nil => cases (List.cons.inj (List.cons.inj same).2).1
          | cons field more =>
              obtain ⟨name, other⟩ := field
              have inner := behind_first same
              rw [List.append_assoc, List.append_assoc] at inner
              obtain ⟨rfl, named⟩ := writeString_inj inner
              have colon := behind_first named
              rw [List.append_assoc, List.append_assoc] at colon
              obtain ⟨rfl, behind⟩ := write_inj value other _ _ spelled.1 also.1
                (tail_fields rest before) (tail_fields more after) colon
              obtain ⟨rfl, rfl⟩ := writeFields_inj rest more before after spelled.2 also.2 behind
              exact ⟨rfl, rfl⟩
      | bool flag => cases flag <;> cases kind
      | _ => cases kind

theorem writeItems_inj : ∀ (left right : List Json) (before after : List Char),
    SpelledItems left → SpelledItems right →
      writeItems left ++ before = writeItems right ++ after → left = right ∧ before = after
  | [], [], _, _, _, _, same => ⟨rfl, (List.cons.inj same).2⟩
  | [], _ :: _, _, _, _, _, same => by cases (List.cons.inj same).1
  | _ :: _, [], _, _, _, _, same => by cases (List.cons.inj same).1
  | item :: rest, other :: more, before, after, spelled, also, same => by
      have inner := behind_first same
      rw [List.append_assoc, List.append_assoc] at inner
      obtain ⟨rfl, behind⟩ := write_inj item other _ _ spelled.1 also.1
        (tail_items rest before) (tail_items more after) inner
      obtain ⟨rfl, rfl⟩ := writeItems_inj rest more before after spelled.2 also.2 behind
      exact ⟨rfl, rfl⟩

theorem writeFields_inj : ∀ (left right : List (List Char × Json)) (before after : List Char),
    SpelledFields left → SpelledFields right →
      writeFields left ++ before = writeFields right ++ after → left = right ∧ before = after
  | [], [], _, _, _, _, same => ⟨rfl, (List.cons.inj same).2⟩
  | [], _ :: _, _, _, _, _, same => by cases (List.cons.inj same).1
  | _ :: _, [], _, _, _, _, same => by cases (List.cons.inj same).1
  | (key, value) :: rest, (name, other) :: more, before, after, spelled, also, same => by
      have inner := behind_first same
      rw [List.append_assoc, List.append_assoc] at inner
      obtain ⟨rfl, named⟩ := writeString_inj inner
      have colon := behind_first named
      rw [List.append_assoc, List.append_assoc] at colon
      obtain ⟨rfl, behind⟩ := write_inj value other _ _ spelled.1 also.1
        (tail_fields rest before) (tail_fields more after) colon
      obtain ⟨rfl, rfl⟩ := writeFields_inj rest more before after spelled.2 also.2 behind
      exact ⟨rfl, rfl⟩

end

theorem forall_of_all {α : Type} {items : List α} {property : α → Prop} [DecidablePred property]
    (all : items.all (fun item => decide (property item)) = true) :
    ∀ item ∈ items, property item :=
  fun item member => of_decide_eq_true (List.all_eq_true.mp all item member)

/-- The bytes of a text, in UTF-8. -/
def encode (text : List Char) : List UInt8 := text.flatMap String.utf8EncodeChar

theorem encode_cons (c : Char) (text : List Char) :
    encode (c :: text) = String.utf8EncodeChar c ++ encode text :=
  List.flatMap_cons

theorem encode_append (front back : List Char) :
    encode (front ++ back) = encode front ++ encode back :=
  List.flatMap_append

theorem encode_inj {left right : List Char} (same : encode left = encode right) :
    left = right := by
  have bytes : left.utf8Encode = right.utf8Encode := congrArg List.toByteArray same
  rw [← String.toByteArray_ofList, ← String.toByteArray_ofList] at bytes
  exact String.ofList_injective (String.toByteArray_inj.mp bytes)

theorem encode_isPrefix_iff {front text : List Char} :
    encode front <+: encode text ↔ front <+: text := by
  constructor
  · rintro ⟨rest, same⟩
    refine List.isPrefix_of_utf8Encode_append_eq_utf8Encode rest.toByteArray ?_
    have bytes := congrArg List.toByteArray same
    rw [List.toByteArray_append] at bytes
    exact bytes
  · rintro ⟨rest, rfl⟩
    rw [encode_append]
    exact List.prefix_append _ _

theorem encode_char (c : Char) :
    (c.toNat < 128 ∧ String.utf8EncodeChar c = [UInt8.ofNat c.toNat]) ∨
      128 ≤ c.toNat ∧ ∀ byte ∈ String.utf8EncodeChar c, 128 ≤ byte.toNat := by
  have high {number : Nat} (large : 128 ≤ number) (small : number < 256) :
      128 ≤ (UInt8.ofNat number).toNat := by
    rw [UInt8.toNat_ofNat_of_lt' small]
    exact large
  unfold String.utf8EncodeChar
  dsimp only
  split
  · rename_i ascii
    exact .inl ⟨Nat.lt_succ_of_le ascii, rfl⟩
  · rename_i wide
    refine .inr ⟨Nat.lt_of_not_le wide, ?_⟩
    split
    · intro byte member
      rcases List.mem_cons.mp member with rfl | member
      · exact high (by omega) (by omega)
      · rw [List.mem_singleton.mp member]
        exact high (by omega) (by omega)
    · split
      · intro byte member
        rcases List.mem_cons.mp member with rfl | member
        · exact high (by omega) (by omega)
        · rcases List.mem_cons.mp member with rfl | member
          · exact high (by omega) (by omega)
          · rw [List.mem_singleton.mp member]
            exact high (by omega) (by omega)
      · intro byte member
        rcases List.mem_cons.mp member with rfl | member
        · exact high (by omega) (by omega)
        · rcases List.mem_cons.mp member with rfl | member
          · exact high (by omega) (by omega)
          · rcases List.mem_cons.mp member with rfl | member
            · exact high (by omega) (by omega)
            · rw [List.mem_singleton.mp member]
              exact high (by omega) (by omega)

theorem char_of_byte {c d : Char} (ascii : d.toNat < 128)
    (member : UInt8.ofNat d.toNat ∈ String.utf8EncodeChar c) : c = d := by
  have byte : (UInt8.ofNat d.toNat).toNat = d.toNat :=
    UInt8.toNat_ofNat_of_lt' (Nat.lt_trans ascii (by decide))
  rcases encode_char c with ⟨small, single⟩ | ⟨_, high⟩
  · rw [single, List.mem_singleton] at member
    have same := congrArg UInt8.toNat member
    rw [byte, UInt8.toNat_ofNat_of_lt' (Nat.lt_trans small (by decide))] at same
    exact Char.toNat_inj.mp same.symm
  · have large := high _ member
    rw [byte] at large
    omega

/-- The byte behind the front of a text tells whether a character below 128 is next. -/
theorem encode_next_iff {front rest : List Char} {c d : Char} (ascii : d.toNat < 128) :
    (encode (front ++ c :: rest))[(encode front).length]? = some (UInt8.ofNat d.toNat) ↔
      c = d := by
  rw [encode_append, List.getElem?_append_right (Nat.le_refl _), Nat.sub_self, encode_cons]
  constructor
  · intro next
    refine char_of_byte ascii ?_
    cases bytes : String.utf8EncodeChar c with
    | nil => exact absurd bytes String.utf8EncodeChar_ne_nil
    | cons byte more =>
        rw [bytes] at next
        rw [Option.some.inj next]
        exact List.mem_cons_self
  · rintro rfl
    rcases encode_char c with ⟨_, single⟩ | ⟨wide, _⟩
    · rw [single]
      rfl
    · omega

end Json
