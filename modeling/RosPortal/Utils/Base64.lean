import RosPortal.Json.Utf8
import RosPortal.Latched.Base64
import RosPortal.Memory.Buffer

/-! The base64 loops over indices, with every index checked against what it is used on. They
compute what the text of a latched message is made of. -/

set_option autoImplicit false

namespace RosPortal.Utils

open JsonText (Bytes ascii)
open Memory (write?)
open RosPortal.Latched (decodeBytes encodeBytes firstByte secondByte thirdByte)

/-- The literal, with the NUL that ends it. -/
def kEncodeTable : Bytes :=
  ascii "ABCDEFGHIJKLMNOPQRSTUVWXYZabcdefghijklmnopqrstuvwxyz0123456789+/" ++ [0]

def pad : UInt8 := 61

/-- The table is filled with -1, and a digit writes its position over that. -/
def makeDecodeTable : Option (List Int) :=
  (List.range 64).foldlM (fun table (i : Nat) => do
    let digit ← kEncodeTable[i]?
    write? table digit.toNat [(i : Int)]) (List.replicate 256 (-1))

/-- `kEncodeTable[(triple >> shift) & 0x3F]`. -/
def encodeDigit (triple shift : Nat) : Option UInt8 := kEncodeTable[(triple >>> shift) &&& 0x3F]?

/-- The first loop: where it ends, and what it has written. -/
def encodeTriples (data : Bytes) (size i : Nat) (encoded : Bytes) : Option (Nat × Bytes) :=
  if i + 3 ≤ size then do
    let b0 ← data[i]?
    let b1 ← data[i + 1]?
    let b2 ← data[i + 2]?
    let triple := (b0.toNat <<< 16) ||| (b1.toNat <<< 8) ||| b2.toNat
    let c0 ← encodeDigit triple 18
    let c1 ← encodeDigit triple 12
    let c2 ← encodeDigit triple 6
    let c3 ← encodeDigit triple 0
    encodeTriples data size (i + 3) (encoded ++ [c0, c1, c2, c3])
  else some (i, encoded)
termination_by size - i

def encodeRemaining (data : Bytes) (size i : Nat) (encoded : Bytes) : Option Bytes :=
  if size - i = 1 then do
    let b0 ← data[i]?
    let triple := b0.toNat <<< 16
    let c0 ← encodeDigit triple 18
    let c1 ← encodeDigit triple 12
    return encoded ++ [c0, c1, pad, pad]
  else if size - i = 2 then do
    let b0 ← data[i]?
    let b1 ← data[i + 1]?
    let triple := (b0.toNat <<< 16) ||| (b1.toNat <<< 8)
    let c0 ← encodeDigit triple 18
    let c1 ← encodeDigit triple 12
    let c2 ← encodeDigit triple 6
    return encoded ++ [c0, c1, c2, pad]
  else some encoded

/-- `base64Encode` of a pointer, which may be null, and a size. -/
def base64EncodeAt (data : Option Bytes) (size : Nat) : Option Bytes :=
  if size = 0 then some []
  else
    match data with
    | none => some []
    | some bytes => do
        let (i, encoded) ← encodeTriples bytes size 0 []
        encodeRemaining bytes size i encoded

def base64Encode (data : Bytes) : Option Bytes := base64EncodeAt (some data) data.length

/-- What one turn of the loop appends. The inner `none` is the source's `std::nullopt`. -/
def decodeQuartet (table : List Int) (isLast : Bool) (c0 c1 c2 c3 : UInt8) : Option (Option Bytes) :=
  let pad2 := c2 == pad
  let pad3 := c3 == pad
  if (pad2 || pad3) && !isLast then some none
  else if pad2 && !pad3 then some none
  else do
    let v0 ← table[c0.toNat]?
    let v1 ← table[c1.toNat]?
    if v0 < 0 ∨ v1 < 0 then some none
    else if pad2 then some (some [firstByte v0.toNat v1.toNat])
    else do
      let v2 ← table[c2.toNat]?
      if v2 < 0 then some none
      else if pad3 then some (some [firstByte v0.toNat v1.toNat, secondByte v1.toNat v2.toNat])
      else do
        let v3 ← table[c3.toNat]?
        if v3 < 0 then some none
        else
          some (some [firstByte v0.toNat v1.toNat, secondByte v1.toNat v2.toNat,
            thirdByte v2.toNat v3.toNat])

def decodeQuartets (table : List Int) (encoded : Bytes) (i : Nat) (decoded : Bytes) :
    Option (Option Bytes) :=
  if i < encoded.length then do
    let c0 ← encoded[i]?
    let c1 ← encoded[i + 1]?
    let c2 ← encoded[i + 2]?
    let c3 ← encoded[i + 3]?
    match ← decodeQuartet table (i + 4 == encoded.length) c0 c1 c2 c3 with
    | none => some none
    | some bytes => decodeQuartets table encoded (i + 4) (decoded ++ bytes)
  else some (some decoded)
termination_by encoded.length - i

def base64Decode (encoded : Bytes) : Option (Option Bytes) := do
  let decodeTable ← makeDecodeTable
  if encoded.length % 4 ≠ 0 then some none
  else decodeQuartets decodeTable encoded 0 []

/-- `A` to `Z`, `a` to `z`, `0` to `9`, `+` and `/`. -/
def Standard (character : UInt8) : Prop :=
  (65 ≤ character ∧ character ≤ 90) ∨ (97 ≤ character ∧ character ≤ 122) ∨
    (48 ≤ character ∧ character ≤ 57) ∨ character = 43 ∨ character = 47

instance (character : UInt8) : Decidable (Standard character) := by
  unfold Standard
  infer_instance

/-- Digits, of which the last one or two may be pads instead. -/
def Padded (encoded : Bytes) : Prop :=
  ∃ pads ≤ 2, (∀ character ∈ encoded.take (encoded.length - pads), Standard character) ∧
    ∀ character ∈ encoded.drop (encoded.length - pads), character = pad

structure WellFormed (encoded : Bytes) : Prop where
  quartets : encoded.length % 4 = 0
  padded : Padded encoded

/-! ## The text of a latched message -/

def toChar (octet : UInt8) : Char := Char.ofNat octet.toNat

def toOctet (character : Char) : UInt8 := UInt8.ofNat character.toNat

/-- The codes of the digits, in their order. -/
def digitCodes : List Nat := List.range' 65 26 ++ List.range' 97 26 ++ List.range' 48 10 ++ [43, 47]

theorem kEncodeTable_eq : kEncodeTable = digitCodes.map UInt8.ofNat ++ [0] := by decide +kernel

theorem latched_kEncodeTable_eq : Latched.kEncodeTable = digitCodes.map Char.ofNat := by decide +kernel

theorem digitCodes_lt : ∀ code ∈ digitCodes, code < 256 := by decide

theorem digitCodes_nodup : digitCodes.Nodup := by decide

theorem toNat_ofNat_char {code : Nat} (small : code < 256) : (Char.ofNat code).toNat = code := by
  have valid : code.isValidChar := Or.inl (by omega)
  rw [Char.ofNat, dif_pos valid]
  rfl

theorem idxOf?_map_ofNat {codes : List Nat} (small : ∀ code ∈ codes, code < 256) {code : Nat}
    (inside : code < 256) : (codes.map Char.ofNat).idxOf? (Char.ofNat code) = codes.idxOf? code := by
  induction codes with
  | nil => rfl
  | cons first codes ih =>
      obtain ⟨firstSmall, small⟩ := List.forall_mem_cons.mp small
      have same : (Char.ofNat first == Char.ofNat code) = (first == code) := by
        rw [Bool.eq_iff_iff, beq_iff_eq, beq_iff_eq, ← Char.toNat_inj, toNat_ofNat_char firstSmall,
          toNat_ofNat_char inside]
      rw [List.map_cons, List.idxOf?_cons, List.idxOf?_cons, same, ih small]

theorem decodeDigit_toChar (character : UInt8) :
    Latched.decodeDigit (toChar character) = digitCodes.idxOf? character.toNat := by
  rw [Latched.decodeDigit, latched_kEncodeTable_eq]
  exact idxOf?_map_ofNat digitCodes_lt character.toNat_lt

/-! ## The decode table -/

/-- The position of a code, or -1. -/
def positionOf (codes : List Nat) (code : Nat) : Int :=
  match codes.idxOf? code with
  | some position => position
  | none => -1

theorem idxOf?_snoc (codes : List Nat) (code other : Nat) :
    (codes ++ [code]).idxOf? other =
      (codes.idxOf? other).or (if code = other then some codes.length else none) := by
  simp only [List.idxOf?, List.findIdx?_append]
  congr 1
  by_cases same : code = other <;> simp [List.findIdx?_cons, same]

theorem positionOf_snoc {codes : List Nat} {code : Nat} (fresh : code ∉ codes) (other : Nat) :
    positionOf (codes ++ [code]) other =
      if code = other then (codes.length : Int) else positionOf codes other := by
  unfold positionOf
  rw [idxOf?_snoc]
  by_cases same : code = other
  · subst same
    rw [List.idxOf?_eq_none_iff.mpr fresh]
    simp
  · simp [same]

theorem write?_one {table : List Int} {offset : Nat} (inside : offset < table.length) (entry : Int) :
    write? table offset [entry] = some (table.set offset entry) := by
  have room : offset + [entry].length ≤ table.length := inside
  rw [write?, if_pos room, List.set_eq_take_append_cons_drop, if_pos inside]
  simp

/-- The loop up to a digit: the codes before it have their positions, the others have -1. -/
theorem makeDecodeTable_upTo (count : Nat) (some_left : count ≤ 64) :
    ∃ table : List Int, table.length = 256 ∧
      (∀ code < 256, table[code]? = some (positionOf (digitCodes.take count) code)) ∧
      (List.range count).foldlM (fun table (i : Nat) => do
        let digit ← kEncodeTable[i]?
        write? table digit.toNat [(i : Int)]) (List.replicate 256 (-1)) = some table := by
  induction count with
  | zero =>
      refine ⟨_, List.length_replicate, fun code inside => ?_, rfl⟩
      rw [List.getElem?_replicate, if_pos inside]
      rfl
  | succ count ih =>
      obtain ⟨table, size, entries, run⟩ := ih (by omega)
      have here : count < digitCodes.length := some_left
      have small : digitCodes[count] < 256 := digitCodes_lt _ (List.getElem_mem here)
      have digit : kEncodeTable[count]? = some (UInt8.ofNat digitCodes[count]) := by
        rw [kEncodeTable_eq, List.getElem?_append_left (by rwa [List.length_map]), List.getElem?_map,
          List.getElem?_eq_getElem here, Option.map_some]
      have fresh : digitCodes[count] ∉ digitCodes.take count := by
        have distinct := digitCodes_nodup
        rw [← List.take_append_drop count digitCodes, List.drop_eq_getElem_cons here] at distinct
        exact fun earlier => (List.nodup_append.mp distinct).2.2 _ earlier _ List.mem_cons_self rfl
      refine ⟨table.set digitCodes[count] count, (List.length_set ..).trans size, fun code inside => ?_, ?_⟩
      · have position := positionOf_snoc fresh code
        rw [List.length_take, Nat.min_eq_left (Nat.le_of_lt here)] at position
        rw [List.take_succ_eq_append_getElem here, position, List.getElem?_set, entries code inside, size]
        by_cases same : digitCodes[count] = code
        · rw [if_pos same, if_pos same, if_pos small]
        · rw [if_neg same, if_neg same]
      · rw [List.range_succ, List.foldlM_append, run]
        simp only [Option.bind_eq_bind, Option.bind_some, List.foldlM_cons, List.foldlM_nil, digit,
          UInt8.toNat_ofNat_of_lt' small, write?_one (size ▸ small)]
        rfl

/-- What the decode table holds for a character. -/
def tableEntry (character : UInt8) : Int := positionOf digitCodes character.toNat

/-- The table is made without an access outside an array. -/
theorem exists_decodeTable : ∃ table, makeDecodeTable = some table ∧
    ∀ character : UInt8, table[character.toNat]? = some (tableEntry character) := by
  obtain ⟨table, -, entries, run⟩ := makeDecodeTable_upTo 64 (Nat.le_refl _)
  exact ⟨table, run, fun character => entries _ character.toNat_lt⟩

section TableEntry

variable {character : UInt8}

theorem tableEntry_of_some {position : Nat}
    (digit : Latched.decodeDigit (toChar character) = some position) : tableEntry character = position := by
  rw [tableEntry, positionOf, ← decodeDigit_toChar, digit]

theorem tableEntry_of_none (noDigit : Latched.decodeDigit (toChar character) = none) :
    tableEntry character = -1 := by
  rw [tableEntry, positionOf, ← decodeDigit_toChar, noDigit]

end TableEntry

/-! ## Digits -/

theorem getD_kEncodeTable {digit : Nat} (masked : digit < digitCodes.length) :
    Latched.kEncodeTable.getD digit '=' = Char.ofNat digitCodes[digit] := by
  rw [latched_kEncodeTable_eq, List.getD_eq_getElem?_getD, List.getElem?_map,
    List.getElem?_eq_getElem masked, Option.map_some, Option.getD_some]

theorem toOctet_ofNat {code : Nat} (small : code < 256) : toOctet (Char.ofNat code) = UInt8.ofNat code := by
  rw [toOctet, toNat_ofNat_char small]

/-- A masked index is one of the 64 digits. -/
theorem kEncodeTable_getElem? {digit : Nat} (masked : digit < 64) :
    kEncodeTable[digit]? = some (toOctet (Latched.kEncodeTable.getD digit '=')) := by
  have here : digit < digitCodes.length := masked
  rw [getD_kEncodeTable here, toOctet_ofNat (digitCodes_lt _ (List.getElem_mem here)), kEncodeTable_eq,
    List.getElem?_append_left (by rwa [List.length_map]), List.getElem?_map,
    List.getElem?_eq_getElem here, Option.map_some]

theorem encodeDigit_eq (triple shift : Nat) :
    encodeDigit triple shift = some (toOctet (Latched.encodeDigit triple shift)) := by
  have masked : (triple >>> shift) &&& 0x3F < 64 := by
    rw [show (0x3F : Nat) = 2 ^ 6 - 1 from rfl, Latched.mask_eq]
    exact Nat.mod_lt _ (by decide)
  exact kEncodeTable_getElem? masked

theorem toChar_eq_pad_iff (character : UInt8) : toChar character = '=' ↔ character = pad := by
  rw [← Char.toNat_inj, toChar, toNat_ofNat_char character.toNat_lt, ← UInt8.toNat_inj]
  rfl

/-- The alphabet of the table is the standard one. -/
theorem decodeDigit_isSome_iff (character : UInt8) :
    (Latched.decodeDigit (toChar character)).isSome ↔ Standard character := by
  rw [decodeDigit_toChar, List.isSome_idxOf?]
  simp only [digitCodes, Standard, List.mem_append, List.mem_range'_1, UInt8.le_iff_toNat_le,
    List.mem_cons, List.not_mem_nil, or_false, ← UInt8.toNat_inj, UInt8.reduceToNat]
  omega

/-! ## The loops -/

/-- The loop and what follows it, from an index on. -/
def encodeFrom (data : Bytes) (i : Nat) (encoded : Bytes) : Option Bytes := do
  let (i, encoded) ← encodeTriples data data.length i encoded
  encodeRemaining data data.length i encoded

theorem getElem?_behind (before after : Bytes) (offset : Nat) :
    (before ++ after)[before.length + offset]? = after[offset]? := by
  rw [List.getElem?_append_right (Nat.le_add_right _ _), Nat.add_sub_cancel_left]

theorem encodeFrom_triple (before : Bytes) (first second third : UInt8) (rest encoded : Bytes) :
    encodeFrom (before ++ first :: second :: third :: rest) before.length encoded =
      encodeFrom ((before ++ [first, second, third]) ++ rest) (before ++ [first, second, third]).length
        (encoded ++ ((encodeBytes [first, second, third]).map toOctet)) := by
  have same : (before ++ [first, second, third]) ++ rest = before ++ first :: second :: third :: rest := by
    simp
  have room : before.length + 3 ≤ (before ++ first :: second :: third :: rest).length := by
    simp only [List.length_append, List.length_cons]
    omega
  rw [same, encodeFrom, encodeFrom, encodeTriples, if_pos room]
  have at0 := getElem?_behind before (first :: second :: third :: rest) 0
  have at1 := getElem?_behind before (first :: second :: third :: rest) 1
  have at2 := getElem?_behind before (first :: second :: third :: rest) 2
  rw [Nat.add_zero] at at0
  simp only [at0, at1, at2, encodeDigit_eq, List.length_append, encodeBytes]
  rfl

/-- From an index on, the loop writes what the bytes from there are encoded as. -/
theorem encodeFrom_eq (rest : Bytes) : ∀ before encoded : Bytes,
    encodeFrom (before ++ rest) before.length encoded = some (encoded ++ (encodeBytes rest).map toOctet) := by
  induction rest using RosPortal.Latched.encodeBytes.induct with
  | case1 first second third rest ih =>
      intro before encoded
      rw [encodeFrom_triple, ih]
      simp [encodeBytes]
  | case2 first second =>
      intro before encoded
      have size : (before ++ [first, second]).length = before.length + 2 := by simp
      have left : before.length + 2 - before.length = 2 := by omega
      have at0 := getElem?_behind before [first, second] 0
      have at1 := getElem?_behind before [first, second] 1
      rw [Nat.add_zero] at at0
      rw [encodeFrom, size, encodeTriples, if_neg (by omega)]
      simp only [Option.bind_eq_bind, Option.bind_some, encodeRemaining, left, at0, at1, encodeDigit_eq,
        encodeBytes]
      rfl
  | case3 first =>
      intro before encoded
      have size : (before ++ [first]).length = before.length + 1 := by simp
      have left : before.length + 1 - before.length = 1 := by omega
      have at0 := getElem?_behind before [first] 0
      rw [Nat.add_zero] at at0
      rw [encodeFrom, size, encodeTriples, if_neg (by omega)]
      simp only [Option.bind_eq_bind, Option.bind_some, encodeRemaining, left, at0, encodeDigit_eq,
        encodeBytes]
      rfl
  | case4 =>
      intro before encoded
      rw [encodeFrom, List.append_nil, encodeTriples, if_neg (by omega)]
      simp [encodeRemaining, encodeBytes]

/-- The encoder stays inside its arrays and writes the text of a latched message. -/
theorem base64Encode_eq (data : Bytes) : base64Encode data = some ((encodeBytes data).map toOctet) := by
  cases data with
  | nil => rfl
  | cons first rest => exact encodeFrom_eq (first :: rest) [] []

theorem quartets_induction {motive : (encoded : Bytes) → encoded.length % 4 = 0 → Prop}
    (nil : motive [] rfl)
    (quartet : ∀ c0 c1 c2 c3 rest whole longer, motive rest whole →
      motive (c0 :: c1 :: c2 :: c3 :: rest) longer) :
    ∀ (encoded : Bytes) (whole : encoded.length % 4 = 0), motive encoded whole
  | [], _ => nil
  | c0 :: c1 :: c2 :: c3 :: rest, whole =>
      have shorter : rest.length % 4 = 0 := by
        simp only [List.length_cons] at whole
        omega
      quartet c0 c1 c2 c3 rest shorter whole (quartets_induction nil quartet rest shorter)

theorem decodeBytes_quartet (c0 c1 c2 c3 : UInt8) (rest : Bytes) :
    decodeBytes ((c0 :: c1 :: c2 :: c3 :: rest).map toChar) =
      (Latched.decodeQuartet rest.isEmpty (toChar c0) (toChar c1) (toChar c2) (toChar c3)).bind
        fun bytes => (decodeBytes (rest.map toChar)).map (bytes ++ ·) := by
  simp only [List.map_cons, decodeBytes, List.isEmpty_map, Option.map_eq_bind]
  rfl

section Decode

variable {table : List Int}
  (entries : ∀ character : UInt8, table[character.toNat]? = some (tableEntry character))

include entries

/-- A turn appends the bytes of a quartet. -/
theorem decodeQuartet_eq (isLast : Bool) (c0 c1 c2 c3 : UInt8) :
    decodeQuartet table isLast c0 c1 c2 c3 =
      some (Latched.decodeQuartet isLast (toChar c0) (toChar c1) (toChar c2) (toChar c3)) := by
  have isPad (character : UInt8) : (toChar character == '=') = (character == pad) := by
    rw [Bool.eq_iff_iff, beq_iff_eq, beq_iff_eq]
    exact toChar_eq_pad_iff character
  have position (value : Nat) : ¬ (value : Int) < 0 := by omega
  simp only [decodeQuartet, Latched.decodeQuartet, isPad, entries]
  cases (c2 == pad || c3 == pad) && !isLast
  case true => rfl
  cases c2 == pad && !(c3 == pad)
  case true => rfl
  -- the entries are looked up in order, and a negative one ends the turn
  simp only [Bool.false_eq_true, ↓reduceIte, Option.bind_eq_bind, Option.bind_some]
  cases digit0 : Latched.decodeDigit (toChar c0)
  case none => simp [tableEntry_of_none digit0]
  cases digit1 : Latched.decodeDigit (toChar c1)
  case none => simp [tableEntry_of_none digit1]
  rw [tableEntry_of_some digit0, tableEntry_of_some digit1]
  cases c2 == pad
  case true => simp [position]
  cases digit2 : Latched.decodeDigit (toChar c2)
  case none => simp [tableEntry_of_none digit2]
  rw [tableEntry_of_some digit2]
  cases c3 == pad
  case true => simp [position]
  cases digit3 : Latched.decodeDigit (toChar c3)
  case none => simp [tableEntry_of_none digit3]
  simp [tableEntry_of_some digit3, position]

/-- From an index on, the loop appends what the characters from there decode to. -/
theorem decodeQuartets_eq (rest : Bytes) (whole : rest.length % 4 = 0) : ∀ before decoded : Bytes,
    decodeQuartets table (before ++ rest) before.length decoded =
      some ((decodeBytes (rest.map toChar)).map (decoded ++ ·)) := by
  induction rest, whole using quartets_induction with
  | nil =>
      intro before decoded
      rw [List.append_nil, decodeQuartets, if_neg (Nat.lt_irrefl _)]
      simp [decodeBytes]
  | quartet c0 c1 c2 c3 rest whole longer ih =>
      intro before decoded
      have same : (before ++ [c0, c1, c2, c3]) ++ rest = before ++ c0 :: c1 :: c2 :: c3 :: rest := by
        simp
      have next := ih (before ++ [c0, c1, c2, c3])
      rw [same, List.length_append] at next
      have room : before.length < (before ++ c0 :: c1 :: c2 :: c3 :: rest).length := by simp
      have at0 := getElem?_behind before (c0 :: c1 :: c2 :: c3 :: rest) 0
      have at1 := getElem?_behind before (c0 :: c1 :: c2 :: c3 :: rest) 1
      have at2 := getElem?_behind before (c0 :: c1 :: c2 :: c3 :: rest) 2
      have at3 := getElem?_behind before (c0 :: c1 :: c2 :: c3 :: rest) 3
      have isLast : (before.length + 4 == (before ++ c0 :: c1 :: c2 :: c3 :: rest).length) =
          rest.isEmpty := by
        rw [Bool.eq_iff_iff, beq_iff_eq, List.isEmpty_iff, ← List.length_eq_zero_iff]
        simp only [List.length_append, List.length_cons]
        omega
      rw [Nat.add_zero] at at0
      rw [decodeQuartets, if_pos room, isLast, at0, at1, at2, at3, decodeBytes_quartet]
      simp only [List.getElem?_cons_zero, List.getElem?_cons_succ, Option.bind_eq_bind,
        Option.bind_some, decodeQuartet_eq entries]
      cases Latched.decodeQuartet rest.isEmpty (toChar c0) (toChar c1) (toChar c2) (toChar c3) with
      | none => rfl
      | some bytes =>
          refine (next (decoded ++ bytes)).trans ?_
          simp [Function.comp_def]

end Decode

/-- The decoder stays inside its arrays and reads whole quartets as the receiver of a latched
message does. -/
theorem base64Decode_eq (encoded : Bytes) :
    base64Decode encoded =
      some (if encoded.length % 4 = 0 then decodeBytes (encoded.map toChar) else none) := by
  obtain ⟨table, made, entries⟩ := exists_decodeTable
  rw [base64Decode, made]
  by_cases whole : encoded.length % 4 = 0
  · have run := decodeQuartets_eq entries encoded whole [] []
    simp only [List.nil_append, List.length_nil, Option.map_id'] at run
    simp [whole, run]
  · simp [whole]

/-! ## What is accepted -/

theorem toChar_beq_pad (character : UInt8) : (toChar character == '=') = (character == pad) := by
  rw [Bool.eq_iff_iff, beq_iff_eq, beq_iff_eq]
  exact toChar_eq_pad_iff character

/-- The quartets that are accepted, by how many bytes they hold. -/
theorem length_decodeQuartet_iff (isLast : Bool) (c0 c1 c2 c3 : UInt8) (count : Nat) :
    (Latched.decodeQuartet isLast (toChar c0) (toChar c1) (toChar c2) (toChar c3)).map List.length =
        some count ↔
      Standard c0 ∧ Standard c1 ∧
        (Standard c2 ∧ Standard c3 ∧ count = 3 ∨
          isLast ∧ c3 = pad ∧ (Standard c2 ∧ count = 2 ∨ c2 = pad ∧ count = 1)) := by
  have noDigit : Latched.decodeDigit (toChar pad) = none := by decide
  simp only [← decodeDigit_isSome_iff, Latched.decodeQuartet, toChar_beq_pad]
  by_cases pad3 : c3 = pad
  · subst pad3
    by_cases pad2 : c2 = pad
    · subst pad2
      rw [noDigit]
      cases Latched.decodeDigit (toChar c0) <;> cases Latched.decodeDigit (toChar c1) <;> cases isLast <;>
        simp [eq_comm]
    · rw [beq_eq_false_iff_ne.mpr pad2, noDigit]
      cases Latched.decodeDigit (toChar c0) <;> cases Latched.decodeDigit (toChar c1) <;>
        cases Latched.decodeDigit (toChar c2) <;> cases isLast <;> simp [pad2, eq_comm]
  · by_cases pad2 : c2 = pad
    · subst pad2
      rw [beq_eq_false_iff_ne.mpr pad3, noDigit]
      cases isLast <;> simp [pad3]
    · rw [beq_eq_false_iff_ne.mpr pad2, beq_eq_false_iff_ne.mpr pad3]
      cases Latched.decodeDigit (toChar c0) <;> cases Latched.decodeDigit (toChar c1) <;>
        cases Latched.decodeDigit (toChar c2) <;> cases Latched.decodeDigit (toChar c3) <;>
        simp [pad3, eq_comm]

theorem Standard.ne_pad {character : UInt8} (standard : Standard character) : character ≠ pad := by
  rintro rfl
  exact absurd standard (by decide)

theorem padded_nil : Padded [] := ⟨0, by omega, by simp, by simp⟩

theorem padded_last (c0 c1 c2 c3 : UInt8) :
    Padded [c0, c1, c2, c3] ↔
      Standard c0 ∧ Standard c1 ∧
        (Standard c2 ∧ Standard c3 ∨ c3 = pad ∧ (Standard c2 ∨ c2 = pad)) := by
  constructor
  · rintro ⟨pads, few, digits, fillers⟩
    obtain rfl | rfl | rfl : pads = 0 ∨ pads = 1 ∨ pads = 2 := by omega
    · have all : Standard c0 ∧ Standard c1 ∧ Standard c2 ∧ Standard c3 := by simpa using digits
      exact ⟨all.1, all.2.1, .inl all.2.2⟩
    · have three : Standard c0 ∧ Standard c1 ∧ Standard c2 := by simpa using digits
      have last : c3 = pad := by simpa using fillers
      exact ⟨three.1, three.2.1, .inr ⟨last, .inl three.2.2⟩⟩
    · have two : Standard c0 ∧ Standard c1 := by simpa using digits
      have last : c2 = pad ∧ c3 = pad := by simpa using fillers
      exact ⟨two.1, two.2, .inr ⟨last.2, .inr last.1⟩⟩
  · rintro ⟨first, second, ⟨third, fourth⟩ | ⟨last, third | third⟩⟩
    · exact ⟨0, by omega, by simpa using ⟨first, second, third, fourth⟩, by simp⟩
    · exact ⟨1, by omega, by simpa using ⟨first, second, third⟩, by simpa using last⟩
    · exact ⟨2, by omega, by simpa using ⟨first, second⟩, by simpa using ⟨third, last⟩⟩

/-- The pads are all in the last quartet. -/
theorem padded_quartet (c0 c1 c2 c3 : UInt8) {rest : Bytes} (more : 2 ≤ rest.length) :
    Padded (c0 :: c1 :: c2 :: c3 :: rest) ↔
      (Standard c0 ∧ Standard c1 ∧ Standard c2 ∧ Standard c3) ∧ Padded rest := by
  have split {pads : Nat} (few : pads ≤ 2) :
      (c0 :: c1 :: c2 :: c3 :: rest).length - pads = rest.length - pads + 1 + 1 + 1 + 1 := by
    simp only [List.length_cons]
    omega
  constructor
  · rintro ⟨pads, few, digits, fillers⟩
    rw [split few] at digits fillers
    simp only [List.take_succ_cons, List.forall_mem_cons, List.drop_succ_cons] at digits fillers
    obtain ⟨first, second, third, fourth, digits⟩ := digits
    exact ⟨⟨first, second, third, fourth⟩, pads, few, digits, fillers⟩
  · rintro ⟨⟨first, second, third, fourth⟩, pads, few, digits, fillers⟩
    refine ⟨pads, few, ?_, ?_⟩ <;> rw [split few]
    · simp only [List.take_succ_cons, List.forall_mem_cons]
      exact ⟨first, second, third, fourth, digits⟩
    · simpa only [List.drop_succ_cons] using fillers

theorem decodeQuartet_isSome_iff (isLast : Bool) (c0 c1 c2 c3 : UInt8) :
    (Latched.decodeQuartet isLast (toChar c0) (toChar c1) (toChar c2) (toChar c3)).isSome ↔
      Standard c0 ∧ Standard c1 ∧
        (Standard c2 ∧ Standard c3 ∨ isLast ∧ c3 = pad ∧ (Standard c2 ∨ c2 = pad)) := by
  rw [← Option.isSome_map (f := List.length), Option.isSome_iff_exists]
  simp only [length_decodeQuartet_iff]
  constructor
  · rintro ⟨count, first, second, ⟨third, fourth, -⟩ | ⟨last, fourth, ⟨third, -⟩ | ⟨third, -⟩⟩⟩
    · exact ⟨first, second, .inl ⟨third, fourth⟩⟩
    · exact ⟨first, second, .inr ⟨last, fourth, .inl third⟩⟩
    · exact ⟨first, second, .inr ⟨last, fourth, .inr third⟩⟩
  · rintro ⟨first, second, ⟨third, fourth⟩ | ⟨last, fourth, third | third⟩⟩
    · exact ⟨3, first, second, .inl ⟨third, fourth, rfl⟩⟩
    · exact ⟨2, first, second, .inr ⟨last, fourth, .inl ⟨third, rfl⟩⟩⟩
    · exact ⟨1, first, second, .inr ⟨last, fourth, .inr ⟨third, rfl⟩⟩⟩

theorem decodeBytes_isSome_iff (encoded : Bytes) (whole : encoded.length % 4 = 0) :
    (decodeBytes (encoded.map toChar)).isSome ↔ Padded encoded := by
  induction encoded, whole using quartets_induction with
  | nil => simpa [decodeBytes] using padded_nil
  | quartet c0 c1 c2 c3 rest whole longer ih =>
      have both : (decodeBytes ((c0 :: c1 :: c2 :: c3 :: rest).map toChar)).isSome ↔
          (Latched.decodeQuartet rest.isEmpty (toChar c0) (toChar c1) (toChar c2) (toChar c3)).isSome ∧
            (decodeBytes (rest.map toChar)).isSome := by
        rw [decodeBytes_quartet]
        cases Latched.decodeQuartet rest.isEmpty (toChar c0) (toChar c1) (toChar c2) (toChar c3) <;> simp
      rw [both, ih, decodeQuartet_isSome_iff]
      cases rest with
      | nil =>
          rw [padded_last, and_iff_left padded_nil]
          simp
      | cons c4 rest =>
          have more : 2 ≤ (c4 :: rest).length := by
            simp only [List.length_cons] at whole ⊢
            omega
          rw [padded_quartet c0 c1 c2 c3 more]
          simp

/-- Each pad of a quartet stands for a byte it does not have. -/
theorem length_decodeQuartet {isLast : Bool} {c0 c1 c2 c3 : UInt8} {bytes : Bytes}
    (decoded : Latched.decodeQuartet isLast (toChar c0) (toChar c1) (toChar c2) (toChar c3) = some bytes) :
    bytes.length + [c0, c1, c2, c3].count pad = 3 := by
  have shape := length_decodeQuartet_iff isLast c0 c1 c2 c3 bytes.length
  rw [decoded, Option.map_some] at shape
  obtain ⟨first, second, shape⟩ := shape.mp rfl
  have quartet (third fourth : UInt8) :
      [c0, c1, third, fourth].count pad = [third, fourth].count pad := by
    rw [List.count_cons_of_ne first.ne_pad, List.count_cons_of_ne second.ne_pad]
  obtain ⟨third, fourth, three⟩ | ⟨-, rfl, ⟨third, two⟩ | ⟨rfl, one⟩⟩ := shape
  · rw [quartet, List.count_cons_of_ne third.ne_pad, List.count_cons_of_ne fourth.ne_pad, three]
    rfl
  · rw [quartet, List.count_cons_of_ne third.ne_pad, two]
    rfl
  · rw [quartet, one]
    rfl

theorem length_decodeBytes (encoded : Bytes) (whole : encoded.length % 4 = 0) : ∀ {decoded : Bytes},
    decodeBytes (encoded.map toChar) = some decoded →
      decoded.length + encoded.count pad = 3 * encoded.length / 4 := by
  induction encoded, whole using quartets_induction with
  | nil =>
      intro decoded result
      cases result
      rfl
  | quartet c0 c1 c2 c3 rest whole longer ih =>
      intro decoded result
      rw [decodeBytes_quartet] at result
      obtain ⟨bytes, here, behind⟩ := Option.bind_eq_some_iff.mp result
      obtain ⟨tail, there, rfl⟩ := Option.map_eq_some_iff.mp behind
      have shorter := ih there
      have quartet := length_decodeQuartet here
      have counts : (c0 :: c1 :: c2 :: c3 :: rest).count pad =
          [c0, c1, c2, c3].count pad + rest.count pad := by
        rw [← List.count_append]
        rfl
      rw [counts, List.length_append]
      simp only [List.length_cons]
      omega

/-! ## The codec -/

theorem toChar_toOctet_digit (triple shift : Nat) :
    toChar (toOctet (Latched.encodeDigit triple shift)) = Latched.encodeDigit triple shift := by
  have here : triple / 2 ^ shift % 64 < digitCodes.length := Nat.mod_lt _ (by decide)
  have small := digitCodes_lt _ (List.getElem_mem here)
  rw [Latched.encodeDigit_eq, getD_kEncodeTable here, toOctet_ofNat small, toChar,
    UInt8.toNat_ofNat_of_lt' small]

/-- An encoding has no character outside one octet. -/
theorem toChar_toOctet_encodeBytes (data : Bytes) :
    ((encodeBytes data).map toOctet).map toChar = encodeBytes data := by
  have filler : toChar (toOctet '=') = '=' := rfl
  induction data using RosPortal.Latched.encodeBytes.induct with
  | case1 first second third rest ih => simp only [encodeBytes, List.map_cons, toChar_toOctet_digit, ih]
  | case2 first second => simp only [encodeBytes, List.map_cons, List.map_nil, toChar_toOctet_digit, filler]
  | case3 first => simp only [encodeBytes, List.map_cons, List.map_nil, toChar_toOctet_digit, filler]
  | case4 => rfl

theorem length_encodeBytes (data : Bytes) :
    (encodeBytes data).length = 4 * ((data.length + 2) / 3) := by
  induction data using RosPortal.Latched.encodeBytes.induct with
  | case1 first second third rest ih =>
      simp only [encodeBytes, List.length_cons, ih]
      omega
  | case2 first second => simp only [encodeBytes, List.length_cons, List.length_nil]
  | case3 first => simp only [encodeBytes, List.length_cons, List.length_nil]
  | case4 => rfl

/-- Encoding and decoding stay inside their arrays. What is encoded is decoded to what it was,
and what is decoded is exactly what is well formed. -/
theorem base64_codec :
    (∀ data : Bytes, ∃ encoded, base64Encode data = some encoded ∧
      encoded.length = 4 * ((data.length + 2) / 3) ∧ base64Decode encoded = some (some data)) ∧
    ∀ encoded : Bytes, ∃ result, base64Decode encoded = some result ∧
      (result.isSome ↔ WellFormed encoded) ∧
      ∀ decoded ∈ result, decoded.length = 3 * encoded.length / 4 - encoded.count pad := by
  constructor
  · intro data
    have length : ((encodeBytes data).map toOctet).length = 4 * ((data.length + 2) / 3) := by
      rw [List.length_map, length_encodeBytes]
    refine ⟨_, base64Encode_eq data, length, ?_⟩
    rw [base64Decode_eq, length, if_pos (Nat.mul_mod_right _ _), toChar_toOctet_encodeBytes,
      Latched.decodeBytes_encodeBytes]
  · intro encoded
    refine ⟨_, base64Decode_eq encoded, ?_⟩
    by_cases whole : encoded.length % 4 = 0
    · rw [if_pos whole, decodeBytes_isSome_iff encoded whole]
      refine ⟨⟨fun padded => ⟨whole, padded⟩, WellFormed.padded⟩, fun decoded result => ?_⟩
      have balance := length_decodeBytes encoded whole result
      omega
    · rw [if_neg whole]
      exact ⟨⟨nofun, fun wellFormed => absurd wellFormed.quartets whole⟩, nofun⟩

end RosPortal.Utils
