import Mathlib.Algebra.Ring.Nat
import Mathlib.Data.List.Basic

/-! The base64 text in which a serialized message travels inside an RPC payload. -/

set_option autoImplicit false

namespace RosPortal.Latched

def kEncodeTable : List Char :=
  "ABCDEFGHIJKLMNOPQRSTUVWXYZabcdefghijklmnopqrstuvwxyz0123456789+/".toList

/-- `kEncodeTable[(triple >> shift) & 0x3F]`. -/
def encodeDigit (triple shift : Nat) : Char :=
  kEncodeTable.getD ((triple >>> shift) &&& 0x3F) '='

/-- The decode table: the position of a digit, `none` where the table has -1. -/
def decodeDigit (digit : Char) : Option Nat := kEncodeTable.idxOf? digit

/-- Three bytes at a time, then the one or two that remain. -/
def encodeBytes : List UInt8 → List Char
  | first :: second :: third :: rest =>
      let triple := (first.toNat <<< 16) ||| (second.toNat <<< 8) ||| third.toNat
      encodeDigit triple 18 :: encodeDigit triple 12 :: encodeDigit triple 6 :: encodeDigit triple 0 ::
        encodeBytes rest
  | [first, second] =>
      let triple := (first.toNat <<< 16) ||| (second.toNat <<< 8)
      [encodeDigit triple 18, encodeDigit triple 12, encodeDigit triple 6, '=']
  | [first] =>
      let triple := first.toNat <<< 16
      [encodeDigit triple 18, encodeDigit triple 12, '=', '=']
  | [] => []

def base64Encode (data : List UInt8) : String := String.ofList (encodeBytes data)

/-- `(v0 << 2) | (v1 >> 4)`. -/
def firstByte (v0 v1 : Nat) : UInt8 := UInt8.ofNat ((v0 <<< 2) ||| (v1 >>> 4))

/-- `((v1 & 0x0F) << 4) | (v2 >> 2)`. -/
def secondByte (v1 v2 : Nat) : UInt8 := UInt8.ofNat (((v1 &&& 0x0F) <<< 4) ||| (v2 >>> 2))

/-- `((v2 & 0x03) << 6) | v3`. -/
def thirdByte (v2 v3 : Nat) : UInt8 := UInt8.ofNat (((v2 &&& 0x03) <<< 6) ||| v3)

/-- The bytes of one quartet. Padding is accepted in the last quartet only, and a pad in
the third place needs one in the fourth. -/
def decodeQuartet (isLast : Bool) (c0 c1 c2 c3 : Char) : Option (List UInt8) :=
  let pad2 := c2 == '='
  let pad3 := c3 == '='
  if (pad2 || pad3) && !isLast then none
  else if pad2 && !pad3 then none
  else do
    let v0 ← decodeDigit c0
    let v1 ← decodeDigit c1
    if pad2 then return [firstByte v0 v1]
    let v2 ← decodeDigit c2
    if pad3 then return [firstByte v0 v1, secondByte v1 v2]
    let v3 ← decodeDigit c3
    return [firstByte v0 v1, secondByte v1 v2, thirdByte v2 v3]

/-- A text whose length is not a multiple of four is rejected. -/
def decodeBytes : List Char → Option (List UInt8)
  | [] => some []
  | c0 :: c1 :: c2 :: c3 :: rest => do
      let bytes ← decodeQuartet rest.isEmpty c0 c1 c2 c3
      let decoded ← decodeBytes rest
      return bytes ++ decoded
  | _ => none

def base64Decode (encoded : String) : Option (List UInt8) := decodeBytes encoded.toList

/-- Shifting in a low part that fits is addition. -/
theorem shift_or_eq {low width : Nat} (high : Nat) (fits : low < 2 ^ width) :
    (high <<< width) ||| low = high * 2 ^ width + low := by
  rw [← Nat.shiftLeft_add_eq_or_of_lt fits, Nat.shiftLeft_eq]

theorem mask_eq (value width : Nat) : value &&& (2 ^ width - 1) = value % 2 ^ width :=
  Nat.and_two_pow_sub_one_eq_mod value width

theorem decodeDigit_table : ∀ digit < 64, decodeDigit (kEncodeTable.getD digit '=') = some digit := by
  decide +kernel

theorem table_not_pad : ∀ digit < 64, kEncodeTable.getD digit '=' ≠ '=' := by
  decide +kernel

theorem encodeDigit_eq (triple shift : Nat) :
    encodeDigit triple shift = kEncodeTable.getD (triple / 2 ^ shift % 64) '=' := by
  rw [encodeDigit, Nat.shiftRight_eq_div_pow, show (0x3F : Nat) = 2 ^ 6 - 1 from rfl, mask_eq,
    show 2 ^ 6 = 64 from rfl]

/-- A digit reads back as the six bits it was written for. -/
@[simp] theorem decodeDigit_encodeDigit (triple shift : Nat) :
    decodeDigit (encodeDigit triple shift) = some (triple / 2 ^ shift % 64) := by
  rw [encodeDigit_eq]
  exact decodeDigit_table _ (Nat.mod_lt _ (by decide))

@[simp] theorem encodeDigit_ne_pad (triple shift : Nat) : (encodeDigit triple shift == '=') = false := by
  rw [encodeDigit_eq, beq_eq_false_iff_ne]
  exact table_not_pad _ (Nat.mod_lt _ (by decide))

theorem triple_eq (first second third : UInt8) :
    (first.toNat <<< 16) ||| (second.toNat <<< 8) ||| third.toNat =
      first.toNat * 2 ^ 16 + second.toNat * 2 ^ 8 + third.toNat := by
  have low := third.toNat_lt
  have middle := second.toNat_lt
  rw [Nat.or_assoc, shift_or_eq _ low, shift_or_eq _ (by omega), Nat.add_assoc]

section Bytes

variable (byte : UInt8)

theorem firstByte_eq {v0 v1 : Nat} (fits : v1 < 64) (same : v0 * 4 + v1 / 16 = byte.toNat) :
    firstByte v0 v1 = byte := by
  have low : v1 >>> 4 < 2 ^ 2 := by
    rw [Nat.shiftRight_eq_div_pow]
    omega
  rw [firstByte, shift_or_eq v0 low, Nat.shiftRight_eq_div_pow]
  exact same ▸ UInt8.ofNat_toNat

theorem secondByte_eq {v1 v2 : Nat} (fits : v2 < 64) (same : v1 % 16 * 16 + v2 / 4 = byte.toNat) :
    secondByte v1 v2 = byte := by
  have low : v2 >>> 2 < 2 ^ 4 := by
    rw [Nat.shiftRight_eq_div_pow]
    omega
  rw [secondByte, shift_or_eq _ low, Nat.shiftRight_eq_div_pow, show (0x0F : Nat) = 2 ^ 4 - 1 from rfl,
    mask_eq]
  exact same ▸ UInt8.ofNat_toNat

theorem thirdByte_eq {v2 v3 : Nat} (fits : v3 < 64) (same : v2 % 4 * 64 + v3 = byte.toNat) :
    thirdByte v2 v3 = byte := by
  rw [thirdByte, shift_or_eq _ (show v3 < 2 ^ 6 from fits), show (0x03 : Nat) = 2 ^ 2 - 1 from rfl, mask_eq]
  exact same ▸ UInt8.ofNat_toNat

end Bytes

section Quartets

variable (isLast : Bool) (first second third : UInt8)

theorem decodeQuartet_three :
    let triple := (first.toNat <<< 16) ||| (second.toNat <<< 8) ||| third.toNat
    decodeQuartet isLast (encodeDigit triple 18) (encodeDigit triple 12) (encodeDigit triple 6)
      (encodeDigit triple 0) = some [first, second, third] := by
  have low := third.toNat_lt
  have middle := second.toNat_lt
  have high := first.toNat_lt
  simp only [triple_eq, decodeQuartet, encodeDigit_ne_pad, decodeDigit_encodeDigit]
  change some [firstByte _ _, secondByte _ _, thirdByte _ _] = some [first, second, third]
  rw [firstByte_eq first (by omega) (by omega),
    secondByte_eq second (by omega) (by omega),
    thirdByte_eq third (by omega) (by omega)]

theorem decodeQuartet_two :
    let triple := (first.toNat <<< 16) ||| (second.toNat <<< 8)
    decodeQuartet true (encodeDigit triple 18) (encodeDigit triple 12) (encodeDigit triple 6) '=' =
      some [first, second] := by
  have middle := second.toNat_lt
  have high := first.toNat_lt
  have padded := triple_eq first second 0
  simp only [UInt8.toNat_zero, Nat.or_zero, Nat.add_zero] at padded
  simp only [padded, decodeQuartet, encodeDigit_ne_pad, decodeDigit_encodeDigit]
  change some [firstByte _ _, secondByte _ _] = some [first, second]
  rw [firstByte_eq first (by omega) (by omega),
    secondByte_eq second (by omega) (by omega)]

theorem decodeQuartet_one :
    let triple := first.toNat <<< 16
    decodeQuartet true (encodeDigit triple 18) (encodeDigit triple 12) '=' '=' = some [first] := by
  have high := first.toNat_lt
  simp only [Nat.shiftLeft_eq, decodeQuartet, decodeDigit_encodeDigit]
  change some [firstByte _ _] = some [first]
  rw [firstByte_eq first (by omega) (by omega)]

end Quartets

theorem decodeBytes_encodeBytes (data : List UInt8) : decodeBytes (encodeBytes data) = some data := by
  induction data using encodeBytes.induct with
  | case1 first second third rest ih =>
      simp only [encodeBytes, decodeBytes, ih]
      rw [decodeQuartet_three]
      rfl
  | case2 first second =>
      simp only [encodeBytes, decodeBytes]
      rw [List.isEmpty_nil, decodeQuartet_two]
      rfl
  | case3 first =>
      simp only [encodeBytes, decodeBytes]
      rw [List.isEmpty_nil, decodeQuartet_one]
      rfl
  | case4 => rfl

/-- Decoding an encoding gives the bytes back. -/
@[simp] theorem base64Decode_base64Encode (data : List UInt8) :
    base64Decode (base64Encode data) = some data := by
  rw [base64Decode, base64Encode, String.toList_ofList, decodeBytes_encodeBytes]

end RosPortal.Latched
