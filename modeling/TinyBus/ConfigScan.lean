import TinyBus.Framing
import TinyBus.Library.JsonWriting

/-
The scan over a serialized configuration.  The host hashes its bytes without the sign of
every zero; to find these signs it tells numbers from strings by their quotes.  The scan
is a sweep of the bytes one after another, and over a JSON text the sweep only meets the
tokens that are negative zeros.
-/

namespace TinyBus

namespace ConfigFingerprint

def opensNumber (byte : UInt8) : Bool :=
  byte = '['.toUInt8 || byte = ','.toUInt8 || byte = ':'.toUInt8

def closesNumber (byte : UInt8) : Bool :=
  byte = ']'.toUInt8 || byte = ','.toUInt8 || byte = '}'.toUInt8

def negativeZero : Bytes := ['-'.toUInt8, '0'.toUInt8, '.'.toUInt8, '0'.toUInt8]

/-- The loop over the bytes of a serialized configuration, with what was hashed so far. -/
def scan (bytes : Bytes) (quoted : Bool) (index segment : Nat) (hashed : Bytes) : Bytes :=
  if inside : index < bytes.length then
    if quoted then
      if bytes[index] = '\\'.toUInt8 then scan bytes true (index + 2) segment hashed
      else if bytes[index] = '"'.toUInt8 then scan bytes false (index + 1) segment hashed
      else scan bytes true (index + 1) segment hashed
    else if bytes[index] = '"'.toUInt8 then scan bytes true (index + 1) segment hashed
    else if negativeZero.isPrefixOf (bytes.drop index) &&
        (index = 0 || bytes[index - 1]?.any opensNumber) &&
        (index + 4 = bytes.length || bytes[index + 4]?.any closesNumber) then
      scan bytes false (index + 4) (index + 1)
        (hashed ++ (bytes.take index).drop segment)
    else scan bytes false (index + 1) segment hashed
  else hashed ++ bytes.drop segment
termination_by bytes.length - index

/-- What `callback_config_fingerprint` gives to the hash. -/
def hashedBytes (bytes : Bytes) : Bytes := scan bytes false 0 0 []

def callbackConfigFingerprint {Digest : Type} (sha256 : Bytes → Digest) (bytes : Bytes) :
    Digest :=
  sha256 (hashedBytes bytes)

/-- Where a byte of a JSON text stands. -/
inductive Place where
  | outside
  | inside
  | escaped

/-- A zero with a sign begins here, behind `before`. -/
def atNegativeZero (before : Option UInt8) (bytes : Bytes) : Bool :=
  before.all opensNumber && negativeZero.isPrefixOf bytes &&
    (bytes.drop 4).head?.all closesNumber

def sweep : Place → Option UInt8 → Bytes → Bytes
  | _, _, [] => []
  | .escaped, _, byte :: rest => byte :: sweep .inside (some byte) rest
  | .inside, _, byte :: rest =>
      byte :: sweep
        (if byte = '\\'.toUInt8 then .escaped
          else if byte = '"'.toUInt8 then .outside else .inside) (some byte) rest
  | .outside, before, byte :: rest =>
      if byte = '"'.toUInt8 then byte :: sweep .inside (some byte) rest
      else if atNegativeZero before (byte :: rest) then sweep .outside (some byte) rest
      else byte :: sweep .outside (some byte) rest

section

variable {before : Option UInt8} {byte : UInt8} {bytes rest more front : Bytes}

private theorem all_last {test : UInt8 → Bool} :
    front.getLast?.all test =
      (decide (front.length = 0) || front[front.length - 1]?.any test) := by
  rw [List.getLast?_eq_getElem?]
  cases front with
  | nil => rfl
  | cons first rest =>
      rw [List.length_cons, Nat.add_sub_cancel, List.getElem?_eq_getElem (Nat.lt_succ_self _)]
      simp

private theorem head_all {test : UInt8 → Bool} :
    rest.head?.all test = (decide (rest.length = 0) || rest[0]?.any test) := by
  cases rest with
  | nil => rfl
  | cons first rest => simp

theorem not_atNegativeZero (apart : byte ≠ '-'.toUInt8) :
    atNegativeZero before (byte :: rest) = false := by
  unfold atNegativeZero negativeZero
  rw [List.isPrefixOf_cons_cons, beq_false_of_ne (Ne.symm apart), Bool.false_and,
    Bool.and_false, Bool.false_and]

theorem sweep_plain (open' : byte ≠ '"'.toUInt8) (apart : byte ≠ '-'.toUInt8) :
    sweep .outside before (byte :: rest) = byte :: sweep .outside (some byte) rest := by
  rw [sweep, if_neg open', not_atNegativeZero apart, if_neg Bool.false_ne_true]

private theorem atNegativeZero_scan :
    (negativeZero.isPrefixOf rest &&
        (decide (front.length = 0) || (front ++ rest)[front.length - 1]?.any opensNumber) &&
        (decide (front.length + 4 = (front ++ rest).length) ||
          (front ++ rest)[front.length + 4]?.any closesNumber)) =
      atNegativeZero front.getLast? rest := by
  unfold atNegativeZero
  by_cases there : negativeZero.isPrefixOf rest = true
  · obtain ⟨more, rfl⟩ := List.isPrefixOf_iff_prefix.mp there
    have before : (decide (front.length = 0) ||
        (front ++ (negativeZero ++ more))[front.length - 1]?.any opensNumber) =
          front.getLast?.all opensNumber := by
      rw [all_last]
      cases front with
      | nil => rfl
      | cons first rest =>
          rw [List.getElem?_append_left (by rw [List.length_cons]; omega)]
    have after : (decide (front.length + 4 = (front ++ (negativeZero ++ more)).length) ||
        (front ++ (negativeZero ++ more))[front.length + 4]?.any closesNumber) =
          ((negativeZero ++ more).drop 4).head?.all closesNumber := by
      change _ = more.head?.all closesNumber
      rw [head_all, List.getElem?_append_right (by omega),
        List.getElem?_append_right (by change 4 ≤ _; omega), List.length_append,
        List.length_append]
      change (decide (front.length + 4 = front.length + (4 + more.length)) ||
        more[front.length + 4 - front.length - 4]?.any closesNumber) = _
      rw [Nat.add_sub_cancel_left, Nat.sub_self]
      congr 1
      simp
    rw [before, after, Bool.and_comm (front.getLast?.all opensNumber)]
  · rw [Bool.not_eq_true] at there
    rw [there, Bool.false_and, Bool.false_and, Bool.and_false, Bool.false_and]

private theorem drop_concat {segment : Nat} (order : segment ≤ front.length) :
    (front ++ [byte]).drop segment = front.drop segment ++ [byte] :=
  List.drop_append_of_le_length order

theorem scan_sweep (rest front : Bytes) (quoted : Bool) (segment : Nat) (hashed : Bytes)
    (order : segment ≤ front.length) :
    scan (front ++ rest) quoted front.length segment hashed =
      hashed ++ front.drop segment ++
        sweep (if quoted then .inside else .outside) front.getLast? rest := by
  cases rest with
  | nil =>
      rw [scan, dif_neg (by simp), List.append_nil]
      unfold sweep
      exact (List.append_nil _).symm
  | cons byte rest =>
      have inside : front.length < (front ++ byte :: rest).length := by simp
      have here : (front ++ byte :: rest)[front.length] = byte := by simp
      have whole : front ++ byte :: rest = front ++ [byte] ++ rest := by simp
      have length : (front ++ [byte]).length = front.length + 1 := by simp
      have next (quoted : Bool) := scan_sweep rest (front ++ [byte]) quoted segment hashed (by omega)
      rw [← whole, length] at next
      simp only [drop_concat order, List.getLast?_concat, ← List.append_assoc] at next
      rw [scan, dif_pos inside, here]
      cases quoted with
      | true =>
          rw [if_pos rfl, if_pos rfl, sweep]
          by_cases slash : byte = '\\'.toUInt8
          · rw [if_pos slash, if_pos slash]
            cases rest with
            | nil =>
                rw [scan, dif_neg (by simp), drop_concat order, ← List.append_assoc]
                rfl
            | cons c more =>
                have pair : front ++ byte :: c :: more = front ++ [byte] ++ [c] ++ more := by
                  simp
                have behind := scan_sweep more (front ++ [byte] ++ [c]) true segment hashed
                  (by simp; omega)
                rw [← pair, drop_concat (by simp; omega), drop_concat order,
                  List.getLast?_concat, List.length_append, length] at behind
                rw [sweep]
                refine behind.trans ?_
                simp
          · rw [if_neg slash, if_neg slash]
            by_cases quote : byte = '"'.toUInt8
            · rw [if_pos quote, if_pos quote, next false]
              simp
            · rw [if_neg quote, if_neg quote, next true]
              simp
      | false =>
          rw [if_neg Bool.false_ne_true, if_neg Bool.false_ne_true, sweep]
          by_cases quote : byte = '"'.toUInt8
          · rw [if_pos quote, if_pos quote, next true]
            simp
          · rw [if_neg quote, if_neg quote, List.drop_left, atNegativeZero_scan]
            by_cases zero : atNegativeZero front.getLast? (byte :: rest) = true
            · rw [if_pos zero, if_pos zero, List.take_left]
              unfold atNegativeZero at zero
              rw [Bool.and_eq_true, Bool.and_eq_true] at zero
              obtain ⟨more, same⟩ := List.isPrefixOf_iff_prefix.mp zero.1.2
              have tail : rest = '0'.toUInt8 :: '.'.toUInt8 :: '0'.toUInt8 :: more :=
                (List.cons.inj same).2.symm
              have behind := scan_sweep more (front ++ negativeZero) false (front.length + 1)
                (hashed ++ front.drop segment) (by simp [negativeZero])
              rw [List.append_assoc, same, List.length_append] at behind
              refine behind.trans ?_
              have kept : (front ++ negativeZero).drop (front.length + 1) =
                  ['0'.toUInt8, '.'.toUInt8, '0'.toUInt8] := by
                rw [List.drop_append, List.drop_eq_nil_of_le (Nat.le_succ _),
                  Nat.add_sub_cancel_left]
                rfl
              rw [tail, sweep_plain (by decide) (by decide), sweep_plain (by decide) (by decide),
                sweep_plain (by decide) (by decide), kept, List.getLast?_append_of_ne_nil]
              · simp [negativeZero]
              · exact List.cons_ne_nil _ _
            · rw [if_neg zero, if_neg zero, next false]
              simp
termination_by rest.length

theorem hashedBytes_eq (bytes : Bytes) : hashedBytes bytes = sweep .outside none bytes :=
  scan_sweep bytes [] false 0 [] (Nat.le_refl 0)

theorem sweep_before (apart : ∀ byte ∈ rest.head?, byte ≠ '-'.toUInt8) :
    sweep .outside before rest = sweep .outside none rest := by
  cases rest with
  | nil => rfl
  | cons byte more =>
      have other := apart byte rfl
      rw [sweep, sweep, not_atNegativeZero other, not_atNegativeZero other]

theorem sweep_inside_before : sweep .inside before rest = sweep .inside none rest := by
  cases rest with
  | nil => rfl
  | cons byte more => rfl

theorem sweep_inside_chunk {chunk : Bytes}
    (plain : ∀ byte ∈ chunk, byte ≠ '"'.toUInt8 ∧ byte ≠ '\\'.toUInt8) :
    sweep .inside before (chunk ++ rest) = chunk ++ sweep .inside none rest := by
  induction chunk generalizing before with
  | nil => exact sweep_inside_before
  | cons byte chunk ih =>
      obtain ⟨quote, slash⟩ := plain byte List.mem_cons_self
      rw [List.cons_append, sweep, if_neg slash, if_neg quote,
        ih (fun other member => plain other (List.mem_cons_of_mem _ member))]
      rfl

theorem sweep_pair (escaped : UInt8) :
    sweep .inside before ('\\'.toUInt8 :: escaped :: rest) =
      '\\'.toUInt8 :: escaped :: sweep .inside none rest := by
  rw [sweep, if_pos rfl, sweep, sweep_inside_before]

theorem sweep_outside_chunk {chunk : Bytes}
    (plain : ∀ byte ∈ chunk, byte ≠ '"'.toUInt8 ∧ byte ≠ '-'.toUInt8)
    (apart : ∀ byte ∈ rest.head?, byte ≠ '-'.toUInt8) :
    sweep .outside before (chunk ++ rest) = chunk ++ sweep .outside none rest := by
  induction chunk generalizing before with
  | nil => exact sweep_before apart
  | cons byte chunk ih =>
      obtain ⟨quote, sign⟩ := plain byte List.mem_cons_self
      rw [List.cons_append, sweep_plain quote sign,
        ih (fun other member => plain other (List.mem_cons_of_mem _ member))]
      rfl

theorem sweep_outside_checked {chunk : Bytes}
    (plain : chunk.all (fun byte => decide (byte ≠ '"'.toUInt8 ∧ byte ≠ '-'.toUInt8)) = true)
    (apart : ∀ byte ∈ rest.head?, byte ≠ '-'.toUInt8) :
    sweep .outside before (chunk ++ rest) = chunk ++ sweep .outside none rest :=
  sweep_outside_chunk (Json.forall_of_all plain) apart

theorem sweep_middle {chunk : Bytes} {byte : UInt8} (middle : opensNumber byte = false)
    (plain : ∀ byte ∈ chunk, byte ≠ '"'.toUInt8 ∧ opensNumber byte = false)
    (apart : ∀ byte ∈ rest.head?, byte ≠ '-'.toUInt8) :
    sweep .outside (some byte) (chunk ++ rest) = chunk ++ sweep .outside none rest := by
  induction chunk generalizing byte with
  | nil => exact sweep_before apart
  | cons next chunk ih =>
      obtain ⟨quote, later⟩ := plain next List.mem_cons_self
      have passed : atNegativeZero (some byte) (next :: (chunk ++ rest)) = false := by
        unfold atNegativeZero
        rw [Option.all_some, middle, Bool.false_and, Bool.false_and]
      rw [List.cons_append, sweep, if_neg quote, passed, if_neg Bool.false_ne_true,
        ih later (fun other member => plain other (List.mem_cons_of_mem _ member))]
      rfl

end

section

variable {before : Option UInt8} {rest : Bytes}

theorem byte_apart {c d : Char} (ascii : d.toNat < 128) (apart : c ≠ d) :
    ∀ byte ∈ String.utf8EncodeChar c, byte ≠ d.toUInt8 := by
  rintro byte member rfl
  exact apart (Json.char_of_byte ascii member)

theorem encode_apart {text : List Char} {d : Char} (ascii : d.toNat < 128)
    (apart : ∀ c ∈ text, c ≠ d) : ∀ byte ∈ Json.encode text, byte ≠ d.toUInt8 := by
  intro byte member
  obtain ⟨c, among, bytes⟩ := List.mem_flatMap.mp member
  exact byte_apart ascii (apart c among) byte bytes

private theorem sweep_plainText {text : List Char} (plain : ∀ c ∈ text, c ≠ '"' ∧ c ≠ '\\') :
    sweep .inside before (Json.encode text ++ rest) =
      Json.encode text ++ sweep .inside none rest := by
  refine sweep_inside_chunk fun byte member => ⟨?_, ?_⟩
  · exact encode_apart (by decide) (fun c among => (plain c among).1) byte member
  · exact encode_apart (by decide) (fun c among => (plain c among).2) byte member

private theorem digitChar_plain {digit : Nat} (small : digit < 16) :
    Nat.digitChar digit ≠ '"' ∧ Nat.digitChar digit ≠ '\\' := by
  have every : ∀ digit : Fin 16, Nat.digitChar digit.val ≠ '"' ∧
      Nat.digitChar digit.val ≠ '\\' := by decide
  exact every ⟨digit, small⟩

theorem sweep_escapeChar (c : Char) :
    sweep .inside before (Json.encode (Json.escapeChar c) ++ rest) =
      Json.encode (Json.escapeChar c) ++ sweep .inside none rest := by
  unfold Json.escapeChar
  split
  · exact sweep_pair _
  · rename_i quote
    split
    · exact sweep_pair _
    · rename_i slash
      split
      · exact sweep_pair _
      · split
        · exact sweep_pair _
        · split
          · exact sweep_pair _
          · split
            · exact sweep_pair _
            · split
              · exact sweep_pair _
              · split
                · rename_i small
                  have digits : ∀ d ∈ ['0', '0', Nat.digitChar (c.toNat / 16),
                      Nat.digitChar (c.toNat % 16)], d ≠ '"' ∧ d ≠ '\\' := by
                    intro d member
                    simp only [List.mem_cons, List.not_mem_nil, or_false] at member
                    rcases member with rfl | rfl | rfl | rfl
                    · decide
                    · decide
                    · exact digitChar_plain (by omega)
                    · exact digitChar_plain (by omega)
                  refine (sweep_pair _).trans ?_
                  exact congrArg (fun bytes => '\\'.toUInt8 :: 'u'.toUInt8 :: bytes)
                    (sweep_plainText digits)
                · exact sweep_plainText (List.forall_mem_singleton.mpr ⟨quote, slash⟩)

theorem sweep_string (text : List Char) :
    sweep .outside before (Json.encode (Json.writeString text) ++ rest) =
      Json.encode (Json.writeString text) ++ sweep .outside (some '"'.toUInt8) rest := by
  have closed : sweep .inside none ('"'.toUInt8 :: rest) =
      '"'.toUInt8 :: sweep .outside (some '"'.toUInt8) rest := rfl
  have body : ∀ before : Option UInt8,
      sweep .inside before (Json.encode (text.flatMap Json.escapeChar) ++ '"'.toUInt8 :: rest) =
        Json.encode (text.flatMap Json.escapeChar) ++ sweep .inside none ('"'.toUInt8 :: rest) := by
    induction text with
    | nil => exact fun _ => sweep_inside_before
    | cons c text ih =>
        intro before
        rw [List.flatMap_cons, Json.encode_append, List.append_assoc, sweep_escapeChar, ih,
          List.append_assoc]
  have written : Json.encode (Json.writeString text) =
      '"'.toUInt8 :: (Json.encode (text.flatMap Json.escapeChar) ++ ['"'.toUInt8]) := by
    unfold Json.writeString
    rw [Json.encode_cons, Json.encode_append]
    rfl
  rw [written, List.cons_append, List.append_assoc, sweep, if_pos rfl, List.singleton_append,
    body, closed]
  simp

/-- What may follow a number, or any other value. -/
def Ends (rest : Bytes) : Prop := ∀ byte ∈ rest.head?, closesNumber byte = true

theorem Ends.apart (ends : Ends rest) : ∀ byte ∈ rest.head?, byte ≠ '-'.toUInt8 := by
  rintro byte among rfl
  exact absurd (ends _ among) (by decide)

theorem Ends.cons {byte : UInt8} (closes : closesNumber byte = true) (rest : Bytes) :
    Ends (byte :: rest) := by
  intro other among
  cases among
  exact closes

theorem numeral_bytes {token : List Char} (numeral : ∀ c ∈ token, Json.isNumeral c = true) :
    ∀ byte ∈ Json.encode token,
      byte ≠ '"'.toUInt8 ∧ opensNumber byte = false ∧ closesNumber byte = false := by
  have other (d : Char) (ascii : d.toNat < 128) (apart : Json.isNumeral d = false) :
      ∀ byte ∈ Json.encode token, byte ≠ d.toUInt8 := by
    refine encode_apart ascii ?_
    rintro c among rfl
    rw [numeral c among] at apart
    cases apart
  intro byte member
  refine ⟨other '"' (by decide) (by decide) byte member, ?_, ?_⟩
  · unfold opensNumber
    rw [decide_eq_false (other '[' (by decide) (by decide) byte member),
      decide_eq_false (other ',' (by decide) (by decide) byte member),
      decide_eq_false (other ':' (by decide) (by decide) byte member)]
    rfl
  · unfold closesNumber
    rw [decide_eq_false (other ']' (by decide) (by decide) byte member),
      decide_eq_false (other ',' (by decide) (by decide) byte member),
      decide_eq_false (other '}' (by decide) (by decide) byte member)]
    rfl

private theorem delimited_inj {left right before after : Bytes}
    (inner : ∀ byte ∈ left, closesNumber byte = false)
    (also : ∀ byte ∈ right, closesNumber byte = false) (ends : Ends before)
    (closes : Ends after) (same : left ++ before = right ++ after) : left = right := by
  have taken {chunk rest : Bytes} (inner : ∀ byte ∈ chunk, closesNumber byte = false)
      (ends : Ends rest) : (chunk ++ rest).takeWhile (fun byte => !closesNumber byte) = chunk := by
    rw [List.takeWhile_append_of_pos (fun byte member => by rw [inner byte member]; rfl)]
    cases rest with
    | nil => exact List.append_nil chunk
    | cons byte more =>
        rw [List.takeWhile_cons_of_neg (by rw [ends byte rfl]; decide)]
        exact List.append_nil chunk
  rw [← taken inner ends, same, taken also closes]

def negativeZeroToken : List Char := ['-', '0', '.', '0']

def unsignedToken (token : List Char) : List Char :=
  if token = negativeZeroToken then ['0', '.', '0'] else token

theorem atNegativeZero_iff {token : List Char} (numeral : Json.Numeral token)
    (starts : before.all opensNumber = true) (ends : Ends rest) :
    atNegativeZero before (Json.encode token ++ rest) = true ↔ token = negativeZeroToken := by
  constructor
  · intro zero
    unfold atNegativeZero at zero
    rw [Bool.and_eq_true, Bool.and_eq_true] at zero
    obtain ⟨⟨_, there⟩, closes⟩ := zero
    obtain ⟨more, same⟩ := List.isPrefixOf_iff_prefix.mp there
    have tail : Ends more := by
      rw [← same] at closes
      intro byte among
      exact (Option.all_eq_true _ _).mp closes byte among
    have bytes : negativeZero = Json.encode token :=
      delimited_inj (Json.forall_of_all (by decide))
        (fun byte member => (numeral_bytes numeral.2 byte member).2.2) tail ends same
    exact (@Json.encode_inj negativeZeroToken token bytes).symm
  · rintro rfl
    have closes : rest.head?.all closesNumber = true :=
      (Option.all_eq_true _ _).mpr (fun byte among => ends byte among)
    unfold atNegativeZero
    rw [starts, Bool.true_and, Bool.and_eq_true]
    exact ⟨rfl, closes⟩

theorem sweep_number {token : List Char} (numeral : Json.Numeral token)
    (starts : before.all opensNumber = true) (ends : Ends rest) :
    sweep .outside before (Json.encode token ++ rest) =
      Json.encode (unsignedToken token) ++ sweep .outside none rest := by
  have found := atNegativeZero_iff numeral starts ends
  unfold unsignedToken
  split
  · rename_i zero
    have there := found.mpr zero
    subst zero
    change atNegativeZero before
      ('-'.toUInt8 :: '0'.toUInt8 :: '.'.toUInt8 :: '0'.toUInt8 :: rest) = true at there
    change sweep .outside before
      ('-'.toUInt8 :: '0'.toUInt8 :: '.'.toUInt8 :: '0'.toUInt8 :: rest) = _
    rw [sweep, if_neg (by decide), if_pos there, sweep_plain (by decide) (by decide),
      sweep_plain (by decide) (by decide), sweep_plain (by decide) (by decide),
      sweep_before ends.apart]
    rfl
  · rename_i other
    have plain := numeral_bytes numeral.2
    have passed := Bool.eq_false_iff.mpr (fun zero => other (found.mp zero))
    cases bytes : Json.encode token with
    | nil => exact sweep_before ends.apart
    | cons byte chunk =>
        rw [bytes] at plain passed
        obtain ⟨⟨quote, middle, _⟩, later⟩ := List.forall_mem_cons.mp plain
        rw [List.cons_append] at passed ⊢
        rw [sweep, if_neg quote, passed, if_neg Bool.false_ne_true,
          sweep_middle middle (fun other member => ⟨(later other member).1, (later other member).2.1⟩)
            ends.apart]
        rfl

end

open Json

mutual

/-- A tree with every negative zero in it written as zero. -/
def unsigned : Json → Json
  | .null => .null
  | .bool value => .bool value
  | .number token => .number (unsignedToken token)
  | .string text => .string text
  | .array items => .array (unsignedItems items)
  | .object fields => .object (unsignedFields fields)

def unsignedItems : List Json → List Json
  | [] => []
  | item :: rest => unsigned item :: unsignedItems rest

def unsignedFields : List (List Char × Json) → List (List Char × Json)
  | [] => []
  | (key, value) :: rest => (key, unsigned value) :: unsignedFields rest

end

private theorem ends_items (items : List Json) (rest : Bytes) :
    Ends (encode (writeItems items) ++ rest) := by
  cases items with
  | nil => exact .cons (by decide) _
  | cons item more => exact .cons (by decide) _

private theorem ends_fields (fields : List (List Char × Json)) (rest : Bytes) :
    Ends (encode (writeFields fields) ++ rest) := by
  cases fields with
  | nil => exact .cons (by decide) _
  | cons field more => exact .cons (by decide) _

private theorem sweep_element {before : Option UInt8} {delimiter : Char}
    {value after element others : List Char} {rest : Bytes}
    (ascii : String.utf8EncodeChar delimiter = [delimiter.toUInt8])
    (quote : delimiter.toUInt8 ≠ '"'.toUInt8) (sign : delimiter.toUInt8 ≠ '-'.toUInt8)
    (first : sweep .outside (some delimiter.toUInt8) (encode value ++ (encode after ++ rest)) =
      encode element ++ sweep .outside none (encode after ++ rest))
    (behind : sweep .outside none (encode after ++ rest) =
      encode others ++ sweep .outside none rest) :
    sweep .outside before (encode (delimiter :: (value ++ after)) ++ rest) =
      encode (delimiter :: (element ++ others)) ++ sweep .outside none rest := by
  rw [encode_cons, encode_append, ascii, List.append_assoc, List.append_assoc,
    List.singleton_append, sweep_plain quote sign, first, behind, encode_cons, encode_append,
    ascii]
  simp

private theorem sweep_field {before : Option UInt8} {delimiter : Char}
    {key value after element others : List Char} {rest : Bytes}
    (ascii : String.utf8EncodeChar delimiter = [delimiter.toUInt8])
    (quote : delimiter.toUInt8 ≠ '"'.toUInt8) (sign : delimiter.toUInt8 ≠ '-'.toUInt8)
    (first : sweep .outside (some ':'.toUInt8) (encode value ++ (encode after ++ rest)) =
      encode element ++ sweep .outside none (encode after ++ rest))
    (behind : sweep .outside none (encode after ++ rest) =
      encode others ++ sweep .outside none rest) :
    sweep .outside before
        (encode (delimiter :: (writeString key ++ ':' :: (value ++ after))) ++ rest) =
      encode (delimiter :: (writeString key ++ ':' :: (element ++ others))) ++
        sweep .outside none rest := by
  have colon := @sweep_element (some '"'.toUInt8) ':' value after element others rest rfl
    (by decide) (by decide) first behind
  rw [encode_cons, encode_append, ascii, List.append_assoc, List.append_assoc,
    List.singleton_append, sweep_plain quote sign, sweep_string, colon, encode_cons delimiter,
    encode_append (writeString key), ascii]
  simp

mutual

theorem sweep_write : ∀ (value : Json) (before : Option UInt8) (rest : Bytes), Spelled value →
    before.all opensNumber = true → Ends rest →
      sweep .outside before (encode (write value) ++ rest) =
        encode (write (unsigned value)) ++ sweep .outside none rest
  | .null, _, _, _, _, ends => sweep_outside_checked (by decide) ends.apart
  | .bool true, _, _, _, _, ends => sweep_outside_checked (by decide) ends.apart
  | .bool false, _, _, _, _, ends => sweep_outside_checked (by decide) ends.apart
  | .number _, _, _, spelled, starts, ends => sweep_number spelled starts ends
  | .string text, _, rest, _, _, ends => by
      unfold write unsigned
      rw [sweep_string, sweep_before ends.apart]
  | .array [], _, _, _, _, ends => sweep_outside_checked (by decide) ends.apart
  | .array (item :: items), _, rest, spelled, _, ends => by
      have first := sweep_write item (some '['.toUInt8) (encode (writeItems items) ++ rest)
        spelled.1 (by decide) (ends_items items rest)
      have others := sweep_writeItems items none rest spelled.2 ends
      exact sweep_element rfl (by decide) (by decide) first others
  | .object [], _, _, _, _, ends => sweep_outside_checked (by decide) ends.apart
  | .object ((key, value) :: fields), _, rest, spelled, _, ends => by
      have first := sweep_write value (some ':'.toUInt8) (encode (writeFields fields) ++ rest)
        spelled.1 (by decide) (ends_fields fields rest)
      have others := sweep_writeFields fields none rest spelled.2 ends
      exact sweep_field rfl (by decide) (by decide) first others

theorem sweep_writeItems : ∀ (items : List Json) (before : Option UInt8) (rest : Bytes),
    SpelledItems items → Ends rest →
      sweep .outside before (encode (writeItems items) ++ rest) =
        encode (writeItems (unsignedItems items)) ++ sweep .outside none rest
  | [], _, _, _, ends => sweep_outside_checked (by decide) ends.apart
  | item :: items, _, rest, spelled, ends => by
      have first := sweep_write item (some ','.toUInt8) (encode (writeItems items) ++ rest)
        spelled.1 (by decide) (ends_items items rest)
      have others := sweep_writeItems items none rest spelled.2 ends
      exact sweep_element rfl (by decide) (by decide) first others

theorem sweep_writeFields : ∀ (fields : List (List Char × Json)) (before : Option UInt8)
    (rest : Bytes), SpelledFields fields → Ends rest →
      sweep .outside before (encode (writeFields fields) ++ rest) =
        encode (writeFields (unsignedFields fields)) ++ sweep .outside none rest
  | [], _, _, _, ends => sweep_outside_checked (by decide) ends.apart
  | (key, value) :: fields, _, rest, spelled, ends => by
      have first := sweep_write value (some ':'.toUInt8) (encode (writeFields fields) ++ rest)
        spelled.1 (by decide) (ends_fields fields rest)
      have others := sweep_writeFields fields none rest spelled.2 ends
      exact sweep_field rfl (by decide) (by decide) first others

end

end ConfigFingerprint

end TinyBus
