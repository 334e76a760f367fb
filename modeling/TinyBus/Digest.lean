/-
SHA-256 digests as hexadecimal text.  A digest is computed in lower case; text
from elsewhere may spell its letters in either, and is compared without regard
to their case.
-/

namespace TinyBus

def eqIgnoreAsciiCase (left right : String) : Bool :=
  left.map Char.toLower == right.map Char.toLower

def isAsciiHexdigit (c : Char) : Bool :=
  c.isDigit || ('a' ≤ c && c ≤ 'f') || ('A' ≤ c && c ≤ 'F')

/-- A text of hexadecimal digits has a byte for each character. -/
def isHexSha256 (value : String) : Bool :=
  value.toList.length == 64 && value.toList.all isAsciiHexdigit

/-- The hash function, on the bytes of a whole file. -/
abbrev Sha256 := List UInt8 → Vector UInt8 32

def hexByte (byte : UInt8) : List Char :=
  [Nat.digitChar (byte.toNat / 16), Nat.digitChar (byte.toNat % 16)]

def hexDigest (digest : Vector UInt8 32) : String :=
  String.ofList (digest.toList.flatMap hexByte)

def fileHex (sha256 : Sha256) (bytes : List UInt8) : String := hexDigest (sha256 bytes)

theorem eqIgnoreAsciiCase_iff {left right : String} :
    eqIgnoreAsciiCase left right = true ↔
      left.toList.map Char.toLower = right.toList.map Char.toLower := by
  unfold eqIgnoreAsciiCase
  rw [beq_iff_eq, ← String.toList_inj, String.toList_map, String.toList_map]

@[simp] theorem eqIgnoreAsciiCase_refl (text : String) : eqIgnoreAsciiCase text text = true :=
  eqIgnoreAsciiCase_iff.mpr rfl

theorem eqIgnoreAsciiCase_symm {left right : String}
    (same : eqIgnoreAsciiCase left right = true) : eqIgnoreAsciiCase right left = true :=
  eqIgnoreAsciiCase_iff.mpr (eqIgnoreAsciiCase_iff.mp same).symm

theorem eqIgnoreAsciiCase_trans {first second third : String}
    (left : eqIgnoreAsciiCase first second = true)
    (right : eqIgnoreAsciiCase second third = true) : eqIgnoreAsciiCase first third = true :=
  eqIgnoreAsciiCase_iff.mpr
    ((eqIgnoreAsciiCase_iff.mp left).trans (eqIgnoreAsciiCase_iff.mp right))

theorem eqIgnoreAsciiCase_congr {left left' right right' : String}
    (first : eqIgnoreAsciiCase left left' = true)
    (second : eqIgnoreAsciiCase right right' = true) :
    eqIgnoreAsciiCase left right = eqIgnoreAsciiCase left' right' := by
  rw [Bool.eq_iff_iff, eqIgnoreAsciiCase_iff, eqIgnoreAsciiCase_iff,
    eqIgnoreAsciiCase_iff.mp first, eqIgnoreAsciiCase_iff.mp second]

theorem capital_cases {c : Char} (low : 'A'.val ≤ c.val) (high : c.val ≤ 'Z'.val) :
    ∃ index : Fin 26, c = Char.ofNat (65 + index) := by
  have low' : 65 ≤ c.toNat := low
  have high' : c.toNat ≤ 90 := high
  refine ⟨⟨c.toNat - 65, by omega⟩, ?_⟩
  have sum : 65 + (c.toNat - 65) = c.toNat := by omega
  change c = Char.ofNat (65 + (c.toNat - 65))
  rw [sum, Char.ofNat_toNat]

theorem isAsciiHexdigit_toLower (c : Char) : isAsciiHexdigit c.toLower = isAsciiHexdigit c := by
  by_cases capital : c.val ≥ 'A'.val ∧ c.val ≤ 'Z'.val
  · obtain ⟨index, rfl⟩ := capital_cases capital.1 capital.2
    revert index
    decide
  · unfold Char.toLower
    rw [dif_neg capital]

theorem toLower_toLower (c : Char) : c.toLower.toLower = c.toLower := by
  by_cases capital : c.val ≥ 'A'.val ∧ c.val ≤ 'Z'.val
  · obtain ⟨index, rfl⟩ := capital_cases capital.1 capital.2
    revert index
    decide
  · have same : c.toLower = c := by
      unfold Char.toLower
      rw [dif_neg capital]
    rw [same, same]

theorem all_isAsciiHexdigit_toLower (text : List Char) :
    (text.map Char.toLower).all isAsciiHexdigit = text.all isAsciiHexdigit := by
  induction text with
  | nil => rfl
  | cons c rest ih =>
      rw [List.map_cons, List.all_cons, List.all_cons, ih, isAsciiHexdigit_toLower]

theorem isHexSha256_congr {left right : String} (same : eqIgnoreAsciiCase left right = true) :
    isHexSha256 left = isHexSha256 right := by
  have lowered := eqIgnoreAsciiCase_iff.mp same
  have lengths := congrArg List.length lowered
  rw [List.length_map, List.length_map] at lengths
  unfold isHexSha256
  rw [lengths, ← all_isAsciiHexdigit_toLower left.toList, lowered, all_isAsciiHexdigit_toLower]

def elfDigest : Vector UInt8 32 :=
  #v[59, 219, 180, 254, 131, 151, 205, 43, 132, 36, 48, 179, 156, 207, 240, 26, 134, 99, 199,
    81, 148, 94, 245, 233, 160, 158, 38, 127, 184, 177, 211, 89]

end TinyBus
