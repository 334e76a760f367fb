import TinyBus.Base64

/-
Which texts the decoder accepts, and that encoding what was decoded gives the text back.
Both go group by group: a group of four symbols is one of four kinds, and only the kind
that puts data behind its padding is not a group of the encoder.
-/

namespace TinyBus

namespace Base64

/-! ### Symbols -/

def symbolByte (value : Nat) : UInt8 := UInt8.ofNat (ALPHABET.getD value '=').toNat

theorem decodeSymbol_symbolByte {value : Nat} (small : value < 64) :
    decodeSymbol (symbolByte value) = .ok (UInt8.ofNat value) := by
  have every : ∀ index : Fin 64, (match decodeSymbol (symbolByte index.val) with
      | .ok found => found == UInt8.ofNat index.val
      | .error _ => false) = true := by decide +kernel
  have this := every ⟨value, small⟩
  dsimp only at this
  split at this
  · rename_i found decoded
    rw [decoded, eq_of_beq this]
  · cases this

theorem symbolByte_ne_pad {value : Nat} (small : value < 64) : symbolByte value ≠ 61 := by
  have every : ∀ index : Fin 64, symbolByte index.val ≠ 61 := by decide +kernel
  exact every ⟨value, small⟩

theorem exists_of_decodeSymbol {byte found : UInt8} (decoded : decodeSymbol byte = .ok found) :
    ∃ value, value < 64 ∧ byte = symbolByte value ∧ found.toNat = value := by
  have every : ∀ index : Fin 256, (match decodeSymbol (UInt8.ofNat index.val) with
      | .ok found => decide (found.toNat < 64) &&
          UInt8.ofNat index.val == symbolByte found.toNat
      | .error _ => true) = true := by decide +kernel
  have this := every ⟨byte.toNat, byte.toNat_lt⟩
  dsimp only at this
  rw [UInt8.ofNat_toNat, decoded] at this
  dsimp only at this
  rw [Bool.and_eq_true, decide_eq_true_iff] at this
  exact ⟨found.toNat, this.1, eq_of_beq this.2, rfl⟩

theorem symbolByte_zero : symbolByte 0 = 65 := by decide

/-! ### Groups -/

def pack (v0 v1 v2 v3 : Nat) : Nat := ((v0 * 64 + v1) * 64 + v2) * 64 + v3

def unpack (packed kept : Nat) : List UInt8 :=
  (List.range kept).map (fun i => UInt8.ofNat (packed / 2 ^ (16 - i * 8)))

inductive Group : Bool → UInt8 → UInt8 → UInt8 → UInt8 → List UInt8 → Prop
  | full {last : Bool} {v0 v1 v2 v3 : Nat} (small0 : v0 < 64) (small1 : v1 < 64)
      (small2 : v2 < 64) (small3 : v3 < 64) :
      Group last (symbolByte v0) (symbolByte v1) (symbolByte v2) (symbolByte v3)
        (unpack (pack v0 v1 v2 v3) 3)
  | two {v0 v1 v2 : Nat} (small0 : v0 < 64) (small1 : v1 < 64) (small2 : v2 < 64)
      (clean : v2 % 4 = 0) :
      Group true (symbolByte v0) (symbolByte v1) (symbolByte v2) 61
        (unpack (pack v0 v1 v2 0) 2)
  | one {v0 v1 : Nat} (small0 : v0 < 64) (small1 : v1 < 64) (clean : v1 % 16 = 0) :
      Group true (symbolByte v0) (symbolByte v1) 61 61 (unpack (pack v0 v1 0 0) 1)
  -- The symbol of no bits after a pad changes nothing that the decoder looks at.
  | late {v0 v1 : Nat} (small0 : v0 < 64) (small1 : v1 < 64) (clean : v1 % 16 = 0) :
      Group true (symbolByte v0) (symbolByte v1) 61 65 (unpack (pack v0 v1 0 0) 1)

theorem add_symbol {packing : Packing} {last : Bool} {position value : Nat}
    (small : value < 64) :
    packing.add last position (symbolByte value) =
      .ok ⟨packing.packed * 64 + value, packing.kept⟩ := by
  have narrow : (UInt8.ofNat value).toNat = value := by
    rw [UInt8.toNat_ofNat']
    omega
  unfold Packing.add
  rw [if_neg (symbolByte_ne_pad small), decodeSymbol_symbolByte small]
  dsimp only
  rw [narrow]

theorem add_pad {packing : Packing} {position : Nat} (late : 2 ≤ position) :
    packing.add true position 61 =
      .ok ⟨packing.packed * 64, min packing.kept (position - 1)⟩ := by
  have third : (!true || decide (position < 2)) = false := by
    simp only [Bool.not_true, Bool.false_or, decide_eq_false_iff_not]
    omega
  unfold Packing.add
  rw [if_pos rfl, third]
  rfl

theorem add_inv {packing after : Packing} {last : Bool} {position : Nat} {byte : UInt8}
    (added : packing.add last position byte = .ok after) :
    (∃ value, value < 64 ∧ byte = symbolByte value ∧
      after = ⟨packing.packed * 64 + value, packing.kept⟩) ∨
    (byte = 61 ∧ last = true ∧ 2 ≤ position ∧
      after = ⟨packing.packed * 64, min packing.kept (position - 1)⟩) := by
  unfold Packing.add at added
  by_cases pad : byte = 61
  · rw [if_pos pad] at added
    split at added
    · cases added
    · rename_i placed
      cases added
      simp only [Bool.or_eq_true, Bool.not_eq_true', decide_eq_true_eq, not_or,
        Bool.not_eq_false, Nat.not_lt] at placed
      exact .inr ⟨pad, placed.1, placed.2, rfl⟩
  · rw [if_neg pad] at added
    split at added
    · cases added
    · rename_i found decoded
      cases added
      obtain ⟨value, small, symbol, same⟩ := exists_of_decodeSymbol decoded
      exact .inl ⟨value, small, symbol, by rw [same]⟩

structure Packed (last : Bool) (s0 s1 s2 s3 : UInt8) (p0 p1 p2 p3 : Packing) : Prop where
  first : Packing.add ⟨0, 3⟩ last 0 s0 = .ok p0
  second : p0.add last 1 s1 = .ok p1
  third : p1.add last 2 s2 = .ok p2
  fourth : p2.add last 3 s3 = .ok p3
  clean : p3.packed % 2 ^ ((3 - p3.kept) * 8) = 0

variable {last : Bool} {s0 s1 s2 s3 : UInt8} {bytes : List UInt8}

theorem Packed.decode {p0 p1 p2 p3 : Packing} (packed : Packed last s0 s1 s2 s3 p0 p1 p2 p3) :
    decodeGroup last s0 s1 s2 s3 = .ok (unpack p3.packed p3.kept) := by
  obtain ⟨first, second, third, fourth, clean⟩ := packed
  unfold decodeGroup
  rw [first]
  dsimp only [bind, Except.bind]
  rw [second]
  dsimp only
  rw [third]
  dsimp only
  rw [fourth]
  dsimp only
  rw [if_neg (fun dirty => dirty clean)]
  rfl

theorem exists_packed (decoded : decodeGroup last s0 s1 s2 s3 = .ok bytes) :
    ∃ p0 p1 p2 p3, Packed last s0 s1 s2 s3 p0 p1 p2 p3 ∧ bytes = unpack p3.packed p3.kept := by
  unfold decodeGroup at decoded
  cases first : Packing.add ⟨0, 3⟩ last 0 s0 with
  | error refusal =>
      rw [first] at decoded
      cases decoded
  | ok p0 =>
      rw [first] at decoded
      dsimp only [bind, Except.bind] at decoded
      cases second : p0.add last 1 s1 with
      | error refusal =>
          rw [second] at decoded
          cases decoded
      | ok p1 =>
          rw [second] at decoded
          dsimp only at decoded
          cases third : p1.add last 2 s2 with
          | error refusal =>
              rw [third] at decoded
              cases decoded
          | ok p2 =>
              rw [third] at decoded
              dsimp only at decoded
              cases fourth : p2.add last 3 s3 with
              | error refusal =>
                  rw [fourth] at decoded
                  cases decoded
              | ok p3 =>
                  rw [fourth] at decoded
                  dsimp only at decoded
                  by_cases clean : p3.packed % 2 ^ ((3 - p3.kept) * 8) = 0
                  · rw [if_neg (fun dirty => dirty clean)] at decoded
                    cases decoded
                    exact ⟨p0, p1, p2, p3, ⟨first, second, third, fourth, clean⟩, rfl⟩
                  · rw [if_pos clean] at decoded
                    cases decoded

theorem Group.decode (group : Group last s0 s1 s2 s3 bytes) :
    decodeGroup last s0 s1 s2 s3 = .ok bytes := by
  cases group with
  | @full last v0 v1 v2 v3 small0 small1 small2 small3 =>
      have packed : Packed last (symbolByte v0) (symbolByte v1) (symbolByte v2) (symbolByte v3)
          ⟨0 * 64 + v0, 3⟩ ⟨(0 * 64 + v0) * 64 + v1, 3⟩
          ⟨((0 * 64 + v0) * 64 + v1) * 64 + v2, 3⟩
          ⟨(((0 * 64 + v0) * 64 + v1) * 64 + v2) * 64 + v3, 3⟩ :=
        ⟨add_symbol small0, add_symbol small1, add_symbol small2, add_symbol small3,
          Nat.mod_one _⟩
      rw [packed.decode, Nat.zero_mul, Nat.zero_add, pack]
  | @two v0 v1 v2 small0 small1 small2 clean =>
      have packed : Packed true (symbolByte v0) (symbolByte v1) (symbolByte v2) 61
          ⟨0 * 64 + v0, 3⟩ ⟨(0 * 64 + v0) * 64 + v1, 3⟩
          ⟨((0 * 64 + v0) * 64 + v1) * 64 + v2, 3⟩
          ⟨(((0 * 64 + v0) * 64 + v1) * 64 + v2) * 64, 2⟩ := by
        refine ⟨add_symbol small0, add_symbol small1, add_symbol small2,
          add_pad (by decide), ?_⟩
        simp only [Nat.reduceSub, Nat.reduceMul, Nat.reducePow]
        omega
      rw [packed.decode, Nat.zero_mul, Nat.zero_add, pack, Nat.add_zero]
  | @one v0 v1 small0 small1 clean =>
      have packed : Packed true (symbolByte v0) (symbolByte v1) 61 61
          ⟨0 * 64 + v0, 3⟩ ⟨(0 * 64 + v0) * 64 + v1, 3⟩
          ⟨((0 * 64 + v0) * 64 + v1) * 64, 1⟩
          ⟨((0 * 64 + v0) * 64 + v1) * 64 * 64, 1⟩ := by
        refine ⟨add_symbol small0, add_symbol small1, add_pad (by decide),
          add_pad (by decide), ?_⟩
        simp only [Nat.reduceSub, Nat.reduceMul, Nat.reducePow]
        omega
      rw [packed.decode, Nat.zero_mul, Nat.zero_add, pack, Nat.add_zero, Nat.add_zero]
  | @late v0 v1 small0 small1 clean =>
      have packed : Packed true (symbolByte v0) (symbolByte v1) 61 65
          ⟨0 * 64 + v0, 3⟩ ⟨(0 * 64 + v0) * 64 + v1, 3⟩
          ⟨((0 * 64 + v0) * 64 + v1) * 64, 1⟩
          ⟨((0 * 64 + v0) * 64 + v1) * 64 * 64 + 0, 1⟩ := by
        rw [← symbolByte_zero]
        refine ⟨add_symbol small0, add_symbol small1, add_pad (by decide),
          add_symbol (by decide), ?_⟩
        simp only [Nat.reduceSub, Nat.reduceMul, Nat.reducePow]
        omega
      rw [packed.decode, Nat.zero_mul, Nat.zero_add, pack]
      simp only [Nat.add_zero]

theorem Group.of_decode (decoded : decodeGroup last s0 s1 s2 s3 = .ok bytes) :
    Group last s0 s1 s2 s3 bytes := by
  obtain ⟨p0, p1, p2, p3, ⟨first, second, third, fourth, clean⟩, same⟩ := exists_packed decoded
  subst same
  rcases add_inv first with ⟨v0, small0, symbol0, is0⟩ | ⟨_, _, early, _⟩
  · subst symbol0 is0
    rcases add_inv second with ⟨v1, small1, symbol1, is1⟩ | ⟨_, _, early, _⟩
    · subst symbol1 is1
      rcases add_inv third with ⟨v2, small2, symbol2, is2⟩ | ⟨pad2, isLast, _, is2⟩
      · subst symbol2 is2
        rcases add_inv fourth with ⟨v3, small3, symbol3, is3⟩ | ⟨pad3, isLast, _, is3⟩
        · subst symbol3 is3
          dsimp only
          rw [Nat.zero_mul, Nat.zero_add]
          exact .full small0 small1 small2 small3
        · subst pad3 isLast is3
          have kept : min 3 (3 - 1) = 2 := rfl
          dsimp only at clean ⊢
          rw [kept, Nat.zero_mul, Nat.zero_add] at clean ⊢
          simp only [Nat.reduceSub, Nat.reduceMul, Nat.reducePow] at clean
          exact .two small0 small1 small2 (by omega)
      · subst pad2 isLast is2
        rcases add_inv fourth with ⟨v3, small3, symbol3, is3⟩ | ⟨pad3, _, _, is3⟩
        · subst symbol3 is3
          have kept : min 3 (2 - 1) = 1 := rfl
          dsimp only at clean ⊢
          rw [kept, Nat.zero_mul, Nat.zero_add] at clean ⊢
          simp only [Nat.reduceSub, Nat.reduceMul, Nat.reducePow] at clean
          have nothing : v3 = 0 := by omega
          subst nothing
          rw [symbolByte_zero]
          exact .late small0 small1 (by omega)
        · subst pad3 is3
          have kept : min (min 3 (2 - 1)) (3 - 1) = 1 := rfl
          dsimp only at clean ⊢
          rw [kept, Nat.zero_mul, Nat.zero_add] at clean ⊢
          simp only [Nat.reduceSub, Nat.reduceMul, Nat.reducePow] at clean
          exact .one small0 small1 (by omega)
    · exact absurd early (by decide)
  · exact absurd early (by decide)

/-! ### Texts in bytes -/

def charByte (c : Char) : UInt8 := UInt8.ofNat c.toNat

def encodeBytes (bytes : List UInt8) : List UInt8 := (encodeChars bytes).map charByte

theorem charByte_pad : charByte '=' = 61 := by decide

def join (b0 b1 b2 : UInt8) : Nat := b0.toNat * 2 ^ 16 + b1.toNat * 2 ^ 8 + b2.toNat

theorem join_lt (b0 b1 b2 : UInt8) : join b0 b1 b2 < 2 ^ 24 := by
  have h0 := b0.toNat_lt
  have h1 := b1.toNat_lt
  have h2 := b2.toNat_lt
  unfold join
  omega

theorem unpack_three (packed : Nat) : unpack packed 3 =
    [UInt8.ofNat (packed / 2 ^ 16), UInt8.ofNat (packed / 2 ^ 8), UInt8.ofNat (packed / 2 ^ 0)] :=
  rfl

theorem unpack_take (packed kept : Nat) (few : kept ≤ 3) :
    unpack packed kept = (unpack packed 3).take kept := by
  unfold unpack
  rw [← List.map_take, List.take_range, Nat.min_eq_left few]

theorem unpack_join (b0 b1 b2 : UInt8) : unpack (join b0 b1 b2) 3 = [b0, b1, b2] := by
  have h1 := b1.toNat_lt
  have h2 := b2.toNat_lt
  unfold join
  rw [unpack_three, List.cons.injEq, List.cons.injEq, List.cons.injEq]
  refine ⟨?_, ?_, ?_, rfl⟩
  · apply UInt8.toNat_inj.mp
    rw [UInt8.toNat_ofNat']
    have h0 := b0.toNat_lt
    omega
  · apply UInt8.toNat_inj.mp
    rw [UInt8.toNat_ofNat']
    omega
  · apply UInt8.toNat_inj.mp
    rw [UInt8.toNat_ofNat']
    omega

theorem join_unpack {packed : Nat} (small : packed < 2 ^ 24) :
    join (UInt8.ofNat (packed / 2 ^ 16)) (UInt8.ofNat (packed / 2 ^ 8))
      (UInt8.ofNat (packed / 2 ^ 0)) = packed := by
  unfold join
  rw [UInt8.toNat_ofNat', UInt8.toNat_ofNat', UInt8.toNat_ofNat']
  omega

inductive Groups : List UInt8 → List UInt8 → Prop
  | nil : Groups [] []
  | cons {s0 s1 s2 s3 : UInt8} {rest bytes more : List UInt8}
      (group : Group rest.isEmpty s0 s1 s2 s3 bytes) (later : Groups rest more) :
      Groups (s0 :: s1 :: s2 :: s3 :: rest) (bytes ++ more)

theorem Group.alone (group : Group true s0 s1 s2 s3 bytes) : Groups [s0, s1, s2, s3] bytes := by
  have groups : Groups (s0 :: s1 :: s2 :: s3 :: []) (bytes ++ []) := .cons group .nil
  rwa [List.append_nil] at groups

theorem Groups.ended {rest more : List UInt8} (later : Groups rest more)
    (ended : rest.isEmpty = true) : rest = [] ∧ more = [] := by
  cases later with
  | nil => exact ⟨rfl, rfl⟩
  | cons _ _ => cases ended

theorem Groups.length {text bytes : List UInt8} (groups : Groups text bytes) :
    text.length % 4 = 0 := by
  induction groups with
  | nil => rfl
  | cons _ _ ih =>
      simp only [List.length_cons]
      omega

theorem Groups.decode {text bytes : List UInt8} (groups : Groups text bytes) :
    decodeGroups text = .ok bytes := by
  induction groups with
  | nil => rfl
  | cons group later ih =>
      unfold decodeGroups
      rw [group.decode, ih]
      rfl

theorem Groups.of_decode {text : List UInt8} (whole : text.length % 4 = 0)
    {bytes : List UInt8} (decoded : decodeGroups text = .ok bytes) : Groups text bytes := by
  induction text using decodeGroups.induct generalizing bytes with
  | case1 s0 s1 s2 s3 rest ih =>
      unfold decodeGroups at decoded
      cases first : decodeGroup rest.isEmpty s0 s1 s2 s3 with
      | error refusal =>
          rw [first] at decoded
          cases decoded
      | ok group =>
          rw [first] at decoded
          cases others : decodeGroups rest with
          | error refusal =>
              rw [others] at decoded
              cases decoded
          | ok more =>
              rw [others] at decoded
              cases decoded
              have left : rest.length % 4 = 0 := by
                simp only [List.length_cons] at whole
                omega
              exact .cons (.of_decode first) (ih left others)
  | case2 text short =>
      cases text with
      | nil =>
          cases decoded
          exact .nil
      | cons s0 rest =>
          match rest with
          | [] => simp at whole
          | [_] => simp at whole
          | [_, _] => simp at whole
          | s1 :: s2 :: s3 :: rest => exact absurd rfl (short s0 s1 s2 s3 rest)

/-! ### Encoding -/

def cut (packed shift : Nat) : Nat := packed / 2 ^ shift % 64

theorem cut_lt (packed shift : Nat) : cut packed shift < 64 := Nat.mod_lt _ (by decide)

theorem encodeBytes_one (b0 : UInt8) :
    encodeBytes [b0] = [symbolByte (cut (join b0 0 0) 18), symbolByte (cut (join b0 0 0) 12),
      61, 61] := by
  unfold encodeBytes encodeChars encodeGroup
  simp only [List.map_cons, List.map_nil, Nat.lt_irrefl, if_false, charByte_pad]
  rfl

theorem encodeBytes_two (b0 b1 : UInt8) :
    encodeBytes [b0, b1] = [symbolByte (cut (join b0 b1 0) 18),
      symbolByte (cut (join b0 b1 0) 12), symbolByte (cut (join b0 b1 0) 6), 61] := by
  unfold encodeBytes encodeChars encodeGroup
  simp only [List.map_cons, List.map_nil, Nat.lt_irrefl, if_false, charByte_pad]
  rfl

theorem encodeBytes_three (b0 b1 b2 : UInt8) (rest : List UInt8) :
    encodeBytes (b0 :: b1 :: b2 :: rest) =
      symbolByte (cut (join b0 b1 b2) 18) :: symbolByte (cut (join b0 b1 b2) 12) ::
        symbolByte (cut (join b0 b1 b2) 6) :: symbolByte (cut (join b0 b1 b2) 0) ::
          encodeBytes rest := by
  unfold encodeBytes
  rw [encodeChars]
  unfold encodeGroup
  simp only [List.map_cons, List.map_append, List.map_nil]
  rfl

theorem one_clean (b0 : UInt8) : cut (join b0 0 0) 12 % 16 = 0 := by
  have zero : (0 : UInt8).toNat = 0 := rfl
  unfold cut join
  rw [zero]
  omega

theorem two_clean (b0 b1 : UInt8) : cut (join b0 b1 0) 6 % 4 = 0 := by
  have zero : (0 : UInt8).toNat = 0 := rfl
  unfold cut join
  rw [zero]
  omega

theorem unpack_one (b0 : UInt8) :
    unpack (pack (cut (join b0 0 0) 18) (cut (join b0 0 0) 12) 0 0) 1 = [b0] := by
  have zero : (0 : UInt8).toNat = 0 := rfl
  have whole : pack (cut (join b0 0 0) 18) (cut (join b0 0 0) 12) 0 0 = join b0 0 0 := by
    have small := b0.toNat_lt
    unfold pack cut join
    rw [zero]
    omega
  rw [whole, unpack_take _ 1 (by decide), unpack_join]
  rfl

theorem group_one (b0 : UInt8) :
    Group true (symbolByte (cut (join b0 0 0) 18)) (symbolByte (cut (join b0 0 0) 12)) 61 61
      [b0] := by
  have group := Group.one (cut_lt (join b0 0 0) 18) (cut_lt _ 12) (one_clean b0)
  rwa [unpack_one] at group

theorem group_late (b0 : UInt8) :
    Group true (symbolByte (cut (join b0 0 0) 18)) (symbolByte (cut (join b0 0 0) 12)) 61 65
      [b0] := by
  have group := Group.late (cut_lt (join b0 0 0) 18) (cut_lt _ 12) (one_clean b0)
  rwa [unpack_one] at group

theorem group_two (b0 b1 : UInt8) :
    Group true (symbolByte (cut (join b0 b1 0) 18)) (symbolByte (cut (join b0 b1 0) 12))
      (symbolByte (cut (join b0 b1 0) 6)) 61 [b0, b1] := by
  have zero : (0 : UInt8).toNat = 0 := rfl
  have whole : pack (cut (join b0 b1 0) 18) (cut (join b0 b1 0) 12) (cut (join b0 b1 0) 6) 0 =
      join b0 b1 0 := by
    have small0 := b0.toNat_lt
    have small1 := b1.toNat_lt
    unfold pack cut join
    rw [zero]
    omega
  have group := Group.two (cut_lt (join b0 b1 0) 18) (cut_lt (join b0 b1 0) 12)
    (cut_lt (join b0 b1 0) 6) (two_clean b0 b1)
  rw [whole, unpack_take _ 2 (by decide), unpack_join] at group
  exact group

theorem pack_cut {packed : Nat} (small : packed < 2 ^ 24) :
    pack (cut packed 18) (cut packed 12) (cut packed 6) (cut packed 0) = packed := by
  unfold pack cut
  omega

theorem group_three (last : Bool) (b0 b1 b2 : UInt8) :
    Group last (symbolByte (cut (join b0 b1 b2) 18)) (symbolByte (cut (join b0 b1 b2) 12))
      (symbolByte (cut (join b0 b1 b2) 6)) (symbolByte (cut (join b0 b1 b2) 0))
      [b0, b1, b2] := by
  have group : Group last _ _ _ _ _ := Group.full (cut_lt (join b0 b1 b2) 18)
    (cut_lt (join b0 b1 b2) 12) (cut_lt (join b0 b1 b2) 6) (cut_lt (join b0 b1 b2) 0)
  rw [pack_cut (join_lt b0 b1 b2), unpack_join] at group
  exact group

theorem groups_encode (bytes : List UInt8) : Groups (encodeBytes bytes) bytes := by
  induction bytes using encodeChars.induct with
  | case1 => exact .nil
  | case2 b0 =>
      rw [encodeBytes_one]
      exact (group_one b0).alone
  | case3 b0 b1 =>
      rw [encodeBytes_two]
      exact (group_two b0 b1).alone
  | case4 b0 b1 b2 rest ih =>
      rw [encodeBytes_three]
      exact .cons (group_three _ b0 b1 b2) ih

inductive WellFormed : List UInt8 → Prop
  | empty : WellFormed []
  | group {v0 v1 v2 v3 : Nat} {rest : List UInt8} (small0 : v0 < 64) (small1 : v1 < 64)
      (small2 : v2 < 64) (small3 : v3 < 64) (later : WellFormed rest) :
      WellFormed (symbolByte v0 :: symbolByte v1 :: symbolByte v2 :: symbolByte v3 :: rest)
  | onePad {v0 v1 v2 : Nat} (small0 : v0 < 64) (small1 : v1 < 64) (small2 : v2 < 64)
      (clean : v2 % 4 = 0) :
      WellFormed [symbolByte v0, symbolByte v1, symbolByte v2, 61]
  | twoPads {v0 v1 : Nat} (small0 : v0 < 64) (small1 : v1 < 64) (clean : v1 % 16 = 0) :
      WellFormed [symbolByte v0, symbolByte v1, 61, 61]

theorem wellFormed_encode (bytes : List UInt8) : WellFormed (encodeBytes bytes) := by
  induction bytes using encodeChars.induct with
  | case1 => exact .empty
  | case2 b0 =>
      rw [encodeBytes_one]
      exact .twoPads (cut_lt _ _) (cut_lt _ _) (one_clean b0)
  | case3 b0 b1 =>
      rw [encodeBytes_two]
      exact .onePad (cut_lt _ _) (cut_lt _ _) (cut_lt _ _) (two_clean b0 b1)
  | case4 b0 b1 b2 rest ih =>
      rw [encodeBytes_three]
      exact .group (cut_lt _ _) (cut_lt _ _) (cut_lt _ _) (cut_lt _ _) ih

/-! ### Encoding what was decoded -/

theorem cut_pack {v0 v1 v2 v3 : Nat} (small0 : v0 < 64) (small1 : v1 < 64) (small2 : v2 < 64)
    (small3 : v3 < 64) :
    cut (pack v0 v1 v2 v3) 18 = v0 ∧ cut (pack v0 v1 v2 v3) 12 = v1 ∧
      cut (pack v0 v1 v2 v3) 6 = v2 ∧ cut (pack v0 v1 v2 v3) 0 = v3 := by
  unfold cut pack
  omega

theorem pack_lt {v0 v1 v2 v3 : Nat} (small0 : v0 < 64) (small1 : v1 < 64) (small2 : v2 < 64)
    (small3 : v3 < 64) : pack v0 v1 v2 v3 < 2 ^ 24 := by
  unfold pack
  omega

theorem encode_full {v0 v1 v2 v3 : Nat} (small0 : v0 < 64) (small1 : v1 < 64)
    (small2 : v2 < 64) (small3 : v3 < 64) (rest : List UInt8) :
    encodeBytes (unpack (pack v0 v1 v2 v3) 3 ++ rest) =
      symbolByte v0 :: symbolByte v1 :: symbolByte v2 :: symbolByte v3 :: encodeBytes rest := by
  obtain ⟨is0, is1, is2, is3⟩ := cut_pack small0 small1 small2 small3
  rw [unpack_three]
  simp only [List.cons_append, List.nil_append]
  rw [encodeBytes_three, join_unpack (pack_lt small0 small1 small2 small3), is0, is1, is2, is3]

theorem encode_two {v0 v1 v2 : Nat} (small0 : v0 < 64) (small1 : v1 < 64) (small2 : v2 < 64)
    (clean : v2 % 4 = 0) :
    encodeBytes (unpack (pack v0 v1 v2 0) 2) =
      [symbolByte v0, symbolByte v1, symbolByte v2, 61] := by
  have small := pack_lt small0 small1 small2 (by decide : 0 < 64)
  obtain ⟨is0, is1, is2, _⟩ := cut_pack small0 small1 small2 (by decide : 0 < 64)
  have empty : UInt8.ofNat (pack v0 v1 v2 0 / 2 ^ 0) = 0 := by
    apply UInt8.toNat_inj.mp
    rw [UInt8.toNat_ofNat']
    show _ = 0
    unfold pack
    omega
  have whole := join_unpack small
  rw [empty] at whole
  rw [unpack_take _ 2 (by decide), unpack_three]
  show encodeBytes [_, _] = _
  rw [encodeBytes_two, whole, is0, is1, is2]

theorem encode_one {v0 v1 : Nat} (small0 : v0 < 64) (small1 : v1 < 64) (clean : v1 % 16 = 0) :
    encodeBytes (unpack (pack v0 v1 0 0) 1) = [symbolByte v0, symbolByte v1, 61, 61] := by
  have small := pack_lt small0 small1 (by decide : 0 < 64) (by decide : 0 < 64)
  obtain ⟨is0, is1, _, _⟩ := cut_pack small0 small1 (by decide : 0 < 64) (by decide : 0 < 64)
  have none2 : UInt8.ofNat (pack v0 v1 0 0 / 2 ^ 0) = 0 := by
    apply UInt8.toNat_inj.mp
    rw [UInt8.toNat_ofNat']
    show _ = 0
    unfold pack
    omega
  have none1 : UInt8.ofNat (pack v0 v1 0 0 / 2 ^ 8) = 0 := by
    apply UInt8.toNat_inj.mp
    rw [UInt8.toNat_ofNat']
    show _ = 0
    unfold pack
    omega
  have whole := join_unpack small
  rw [none2, none1] at whole
  rw [unpack_take _ 1 (by decide), unpack_three]
  show encodeBytes [_] = _
  rw [encodeBytes_one, whole, is0, is1]

theorem WellFormed.encoded {text : List UInt8} (wellFormed : WellFormed text) :
    ∃ bytes, encodeBytes bytes = text := by
  induction wellFormed with
  | empty => exact ⟨[], rfl⟩
  | group small0 small1 small2 small3 _ ih =>
      obtain ⟨rest, later⟩ := ih
      exact ⟨_, (encode_full small0 small1 small2 small3 rest).trans (by rw [later])⟩
  | onePad small0 small1 small2 clean => exact ⟨_, encode_two small0 small1 small2 clean⟩
  | twoPads small0 small1 clean => exact ⟨_, encode_one small0 small1 clean⟩

theorem Groups.encode {text bytes : List UInt8} (groups : Groups text bytes) :
    encodeBytes bytes = text ∨
      ∃ early, text = early ++ [61, 65] ∧ encodeBytes bytes = early ++ [61, 61] := by
  induction groups with
  | nil => exact .inl rfl
  | @cons s0 s1 s2 s3 rest bytes more group later ih =>
      generalize ended : rest.isEmpty = last at group
      cases group with
      | full small0 small1 small2 small3 =>
          rw [encode_full small0 small1 small2 small3]
          rcases ih with same | ⟨early, text, padded⟩
          · exact .inl (by rw [same])
          · refine .inr ⟨_ :: _ :: _ :: _ :: early, by rw [text]; rfl, by rw [padded]; rfl⟩
      | two small0 small1 small2 clean =>
          obtain ⟨rfl, rfl⟩ := later.ended ended
          rw [List.append_nil]
          exact .inl (encode_two small0 small1 small2 clean)
      | one small0 small1 clean =>
          obtain ⟨rfl, rfl⟩ := later.ended ended
          rw [List.append_nil]
          exact .inl (encode_one small0 small1 clean)
      | late small0 small1 clean =>
          obtain ⟨rfl, rfl⟩ := later.ended ended
          rw [List.append_nil]
          exact .inr ⟨[_, _], rfl, encode_one small0 small1 clean⟩

theorem groups_late {bytes early : List UInt8}
    (padded : encodeBytes bytes = early ++ [61, 61]) : Groups (early ++ [61, 65]) bytes := by
  induction bytes using encodeChars.induct generalizing early with
  | case1 => simp [encodeBytes, encodeChars] at padded
  | case2 b0 =>
      rw [encodeBytes_one] at padded
      have same : [symbolByte (cut (join b0 0 0) 18), symbolByte (cut (join b0 0 0) 12)] = early :=
        List.append_cancel_right padded
      rw [← same]
      exact (group_late b0).alone
  | case3 b0 b1 =>
      rw [encodeBytes_two] at padded
      have third := congrArg (fun text => text.reverse[1]?) padded
      have pad : symbolByte (cut (join b0 b1 0) 6) = 61 := by simpa using third
      exact absurd pad (symbolByte_ne_pad (cut_lt _ _))
  | case4 b0 b1 b2 rest ih =>
      rw [encodeBytes_three] at padded
      have split : [symbolByte (cut (join b0 b1 b2) 18), symbolByte (cut (join b0 b1 b2) 12),
          symbolByte (cut (join b0 b1 b2) 6), symbolByte (cut (join b0 b1 b2) 0)] ++
            encodeBytes rest = early ++ [61, 61] := padded
      rcases List.append_eq_append_iff.mp split with ⟨later, rfl, left⟩ | ⟨middle, group, ended⟩
      · exact .cons (group_three _ b0 b1 b2) (ih left)
      · -- The padding would begin inside of a group without any.
        have whole := (groups_encode rest).length
        have short := congrArg List.length ended
        rw [List.length_append, List.length_cons, List.length_singleton] at short
        have nothing : encodeBytes rest = [] := List.eq_nil_of_length_eq_zero (by omega)
        rw [nothing, List.append_nil] at ended
        rw [← ended] at group
        have fourth := congrArg (fun text => text.reverse[0]?) group
        have pad : symbolByte (cut (join b0 b1 b2) 0) = 61 := by simpa using fourth
        exact absurd pad (symbolByte_ne_pad (cut_lt _ _))

/-! ### Texts -/

def textBytes (text : String) : List UInt8 := text.toUTF8.data.toList

theorem textBytes_inj {left right : String} (same : textBytes left = textBytes right) :
    left = right := by
  have bytes : left.toUTF8 = right.toUTF8 := ByteArray.ext (Array.toList_inj.mp same)
  exact String.toByteArray_inj.mp bytes

theorem charByte_eq (c : Char) : c.val.toUInt8 = charByte c := by
  apply UInt8.toNat_inj.mp
  unfold charByte
  rw [UInt8.toNat_ofNat', UInt32.toNat_toUInt8]
  rfl

theorem textBytes_ofList {chars : List Char} (ascii : ∀ c ∈ chars, c.utf8Size = 1) :
    textBytes (String.ofList chars) = chars.map charByte := by
  have encoded : textBytes (String.ofList chars) = chars.flatMap String.utf8EncodeChar := by
    show (String.ofList chars).toByteArray.data.toList = _
    rw [String.toByteArray_ofList, List.utf8Encode, List.toList_data_toByteArray]
  rw [encoded]
  clear encoded
  induction chars with
  | nil => rfl
  | cons c rest ih =>
      rw [List.flatMap_cons, List.map_cons,
        String.utf8EncodeChar_eq_singleton (ascii c List.mem_cons_self),
        ih (fun other among => ascii other (List.mem_cons_of_mem c among)), charByte_eq]
      rfl

theorem symbol_ascii (packed shift : Nat) : (symbol packed shift).utf8Size = 1 := by
  have every : ∀ index : Fin 64, (ALPHABET.getD index.val '=').utf8Size = 1 := by
    decide +kernel
  exact every ⟨packed / 2 ^ shift % 64, Nat.mod_lt _ (by decide)⟩

theorem encodeGroup_ascii (b0 b1 b2 : UInt8) (count : Nat) :
    ∀ c ∈ encodeGroup b0 b1 b2 count, c.utf8Size = 1 := by
  unfold encodeGroup
  intro c used
  simp only [List.mem_cons, List.not_mem_nil, or_false] at used
  rcases used with rfl | rfl | rfl | rfl
  · exact symbol_ascii _ _
  · exact symbol_ascii _ _
  · split
    · exact symbol_ascii _ _
    · rfl
  · split
    · exact symbol_ascii _ _
    · rfl

theorem encodeChars_ascii (bytes : List UInt8) : ∀ c ∈ encodeChars bytes, c.utf8Size = 1 := by
  induction bytes using encodeChars.induct with
  | case1 =>
      intro c used
      cases used
  | case2 b0 => exact encodeGroup_ascii b0 0 0 1
  | case3 b0 b1 => exact encodeGroup_ascii b0 b1 0 2
  | case4 b0 b1 b2 rest ih =>
      intro c used
      rw [encodeChars] at used
      rcases List.mem_append.mp used with here | later
      · exact encodeGroup_ascii b0 b1 b2 3 c here
      · exact ih c later

theorem textBytes_encode (bytes : List UInt8) : textBytes (encode bytes) = encodeBytes bytes :=
  textBytes_ofList (encodeChars_ascii bytes)

theorem decode_ok_iff {text : String} {bytes : List UInt8} :
    decode text = .ok bytes ↔ Groups (textBytes text) bytes := by
  unfold decode
  show (if (textBytes text).length % 4 ≠ 0 then _ else decodeGroups (textBytes text)) = _ ↔ _
  constructor
  · intro decoded
    split at decoded
    · cases decoded
    · rename_i whole
      exact .of_decode (Decidable.not_not.mp whole) decoded
  · intro groups
    rw [if_neg (fun odd => odd groups.length)]
    exact groups.decode

/-! ### Round trips -/

/-- What is accepted is base64, and no other text is accepted for the same bytes. -/
def Canonical (text : String) : Prop :=
  ∀ bytes, decode text = .ok bytes → encode bytes = text ∧ WellFormed (textBytes text)

/-- Base64 that ends in two pads, with a symbol of no bits for the second. -/
def PadThenData (text : String) : Prop :=
  ∃ early, WellFormed (textBytes (early ++ "==")) ∧ text = early ++ "=A"

theorem textBytes_append (left right : String) :
    textBytes (left ++ right) = textBytes left ++ textBytes right := by
  simp [textBytes]

theorem decode_encode (bytes : List UInt8) : decode (encode bytes) = .ok bytes := by
  rw [decode_ok_iff, textBytes_encode]
  exact groups_encode bytes

theorem not_canonical {text : String} (late : PadThenData text) : ¬ Canonical text := by
  obtain ⟨early, wellFormed, rfl⟩ := late
  intro canonical
  obtain ⟨bytes, written⟩ := wellFormed.encoded
  have coded : encode bytes = early ++ "==" :=
    textBytes_inj ((textBytes_encode bytes).trans written)
  have padded : encodeBytes bytes = textBytes early ++ [61, 61] := by
    rw [written, textBytes_append]
    rfl
  have decoded : decode (early ++ "=A") = .ok bytes := by
    rw [decode_ok_iff, textBytes_append]
    exact groups_late padded
  have same := (canonical bytes decoded).1
  rw [coded] at same
  exact absurd ((String.append_right_inj early).mp same) (by decide)

theorem canonical_of_not_late {text : String} (regular : ¬ PadThenData text) :
    Canonical text := by
  intro bytes decoded
  have groups := decode_ok_iff.mp decoded
  rcases groups.encode with same | ⟨early, late, padded⟩
  · refine ⟨textBytes_inj ((textBytes_encode bytes).trans same), ?_⟩
    rw [← same]
    exact wellFormed_encode bytes
  · obtain ⟨chars, pads, split, begins, ends⟩ := List.map_eq_append_iff.mp padded
    have ascii : ∀ c ∈ chars, c.utf8Size = 1 := by
      intro c among
      exact encodeChars_ascii bytes c (split ▸ List.mem_append_left pads among)
    have front : textBytes (String.ofList chars) = early :=
      (textBytes_ofList ascii).trans begins
    refine absurd ⟨String.ofList chars, ?_, ?_⟩ regular
    · have last : textBytes (String.ofList chars ++ "==") = encodeBytes bytes := by
        rw [textBytes_append, front, padded]
        rfl
      rw [last]
      exact wellFormed_encode bytes
    · apply textBytes_inj
      rw [textBytes_append, front, late]
      rfl

/-- Decoding undoes encoding; encoding undoes decoding, but for data after padding. -/
theorem base64_round_trips (bytes : List UInt8) (text : String) :
    decode (encode bytes) = .ok bytes ∧ (Canonical text ↔ ¬ PadThenData text) :=
  ⟨decode_encode bytes, fun canonical late => not_canonical late canonical,
    canonical_of_not_late⟩

/-- Two texts are accepted for one chunk. -/
theorem padThenData_accepted :
    decode "Zg==" = .ok [102] ∧ decode "Zg=A" = .ok [102] ∧ encode [102] = "Zg==" ∧
      ¬ Canonical "Zg=A" := by
  refine ⟨rfl, rfl, by decide, fun canonical => ?_⟩
  have same : encode [102] = "Zg=A" := (canonical [102] rfl).1
  exact absurd same (by decide)

end Base64

end TinyBus
