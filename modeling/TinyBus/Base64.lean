/-
Padded standard base64, as stream chunks travel.  The decoder is strict: it
refuses symbols outside the alphabet, misplaced padding, and a final group
whose low bits encode nothing.
-/

import Mathlib.Algebra.Group.Nat.Defs
import TinyBus.Error

namespace TinyBus

namespace Base64

def ALPHABET : List Char :=
  "ABCDEFGHIJKLMNOPQRSTUVWXYZabcdefghijklmnopqrstuvwxyz0123456789+/".toList

def symbol (packed shift : Nat) : Char := ALPHABET.getD (packed / 2 ^ shift % 64) '='

def encodeGroup (b0 b1 b2 : UInt8) (count : Nat) : List Char :=
  let packed := b0.toNat * 2 ^ 16 + b1.toNat * 2 ^ 8 + b2.toNat
  [symbol packed 18, symbol packed 12,
    if 1 < count then symbol packed 6 else '=',
    if 2 < count then symbol packed 0 else '=']

def encodeChars : List UInt8 → List Char
  | [] => []
  | [b0] => encodeGroup b0 0 0 1
  | [b0, b1] => encodeGroup b0 b1 0 2
  | b0 :: b1 :: b2 :: rest => encodeGroup b0 b1 b2 3 ++ encodeChars rest

def encode (bytes : List UInt8) : String := String.ofList (encodeChars bytes)

def decodeSymbol (byte : UInt8) : Except Error UInt8 :=
  if 65 ≤ byte ∧ byte ≤ 90 then .ok (byte - 65)
  else if 97 ≤ byte ∧ byte ≤ 122 then .ok (byte - 97 + 26)
  else if 48 ≤ byte ∧ byte ≤ 57 then .ok (byte - 48 + 52)
  else if byte = 43 then .ok 62
  else if byte = 47 then .ok 63
  else .error (.protocol "base64 chunk has a symbol outside the alphabet")

structure Packing where
  packed : Nat
  kept : Nat
  deriving DecidableEq

def Packing.add (packing : Packing) (last : Bool) (position : Nat) (byte : UInt8) :
    Except Error Packing :=
  if byte = 61 then
    if !last || position < 2 then
      .error (.protocol "base64 chunk has misplaced padding")
    else
      -- Only the first pad fixes the length.
      .ok ⟨packing.packed * 64, min packing.kept (position - 1)⟩
  else
    match decodeSymbol byte with
    | .error error => .error error
    | .ok value => .ok ⟨packing.packed * 64 + value.toNat, packing.kept⟩

def decodeGroup (last : Bool) (s0 s1 s2 s3 : UInt8) : Except Error (List UInt8) := do
  let packing ← Packing.add ⟨0, 3⟩ last 0 s0
  let packing ← packing.add last 1 s1
  let packing ← packing.add last 2 s2
  let packing ← packing.add last 3 s3
  if packing.packed % 2 ^ ((3 - packing.kept) * 8) ≠ 0 then
    throw (.protocol "base64 chunk has non-canonical padding")
  return (List.range packing.kept).map
    (fun i => UInt8.ofNat (packing.packed / 2 ^ (16 - i * 8)))

def decodeGroups : List UInt8 → Except Error (List UInt8)
  | s0 :: s1 :: s2 :: s3 :: rest => do
      let bytes ← decodeGroup rest.isEmpty s0 s1 s2 s3
      let more ← decodeGroups rest
      return bytes ++ more
  | _ => .ok []

def decode (text : String) : Except Error (List UInt8) :=
  let bytes := text.toUTF8.data.toList
  if bytes.length % 4 ≠ 0 then
    .error (.protocol "base64 chunk length is not a multiple of four")
  else
    decodeGroups bytes

end Base64

end TinyBus
