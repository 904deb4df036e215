import Mathlib.Data.List.Basic

/-! Byte strings and UTF-8. A decoder reads one octet at a time and owes the rest of
a character it has begun. -/

set_option autoImplicit false

namespace JsonText

abbrev Bytes := List UInt8

def ascii (text : String) : Bytes := text.toList.map fun character => UInt8.ofNat character.toNat

/-- The lines that `std::getline` reads. A newline at the end of the text has no line behind it. -/
def getlines (text : Bytes) : List Bytes :=
  let pieces := text.splitOn 10
  if pieces.getLast? = some [] then pieces.dropLast else pieces

theorem mem_of_lookup {Entry : Type} {table : List (Bytes × Entry)} {key : Bytes} {entry : Entry}
    (found : table.lookup key = some entry) : (key, entry) ∈ table := by
  obtain ⟨before, after, rfl, -⟩ := List.lookup_eq_some_iff.mp found
  simp

/-- The continuation octets still owed, and the bounds of the next one. -/
structure Decoder where
  owed : Nat
  low : UInt8
  high : UInt8
deriving DecidableEq, Repr

def Decoder.start : Decoder := ⟨0, 0x80, 0xBF⟩

def firstOctet (octet : UInt8) : Option Decoder :=
  if octet < 0x80 then some .start
  else if 0xC2 ≤ octet ∧ octet ≤ 0xDF then some ⟨1, 0x80, 0xBF⟩
  else if octet = 0xE0 then some ⟨2, 0xA0, 0xBF⟩
  else if octet = 0xED then some ⟨2, 0x80, 0x9F⟩
  else if 0xE1 ≤ octet ∧ octet ≤ 0xEF then some ⟨2, 0x80, 0xBF⟩
  else if octet = 0xF0 then some ⟨3, 0x90, 0xBF⟩
  else if 0xF1 ≤ octet ∧ octet ≤ 0xF3 then some ⟨3, 0x80, 0xBF⟩
  else if octet = 0xF4 then some ⟨3, 0x80, 0x8F⟩
  else none

def Decoder.next (decoder : Decoder) (octet : UInt8) : Option Decoder :=
  if decoder.owed = 0 then firstOctet octet
  else if decoder.low ≤ octet ∧ octet ≤ decoder.high then some ⟨decoder.owed - 1, 0x80, 0xBF⟩
  else none

def Decoder.read : Decoder → Bytes → Option Decoder
  | decoder, [] => some decoder
  | decoder, octet :: octets => (decoder.next octet).bind (·.read octets)

def validUtf8 (bytes : Bytes) : Bool := (Decoder.start.read bytes).any fun decoder => decoder.owed == 0

def IsAscii (bytes : Bytes) : Prop := ∀ octet ∈ bytes, octet < 0x80

instance (bytes : Bytes) : Decidable (IsAscii bytes) :=
  List.decidableBAll (fun octet => octet < 0x80) bytes

theorem IsAscii.append {before after : Bytes} (first : IsAscii before) (second : IsAscii after) :
    IsAscii (before ++ after) := by
  intro octet member
  rcases List.mem_append.mp member with earlier | later
  · exact first octet earlier
  · exact second octet later

@[simp] theorem read_nil (decoder : Decoder) : decoder.read [] = some decoder := rfl

theorem read_append (decoder : Decoder) (before after : Bytes) :
    decoder.read (before ++ after) = (decoder.read before).bind (·.read after) := by
  induction before generalizing decoder with
  | nil => rfl
  | cons octet before ih =>
      simp only [List.cons_append, Decoder.read, Option.bind_assoc]
      congr 1
      funext next
      exact ih next

/-- Between characters the bounds of a decoder do not matter. -/
theorem valid_of_owed_zero {decoder : Decoder} (settled : decoder.owed = 0) (bytes : Bytes) :
    ((decoder.read bytes).any fun final => final.owed == 0) = validUtf8 bytes := by
  cases bytes with
  | nil => simp [validUtf8, Decoder.start, settled]
  | cons octet bytes => simp [validUtf8, Decoder.read, Decoder.next, Decoder.start, settled]

theorem valid_append {before : Bytes} (valid : validUtf8 before = true) (after : Bytes) :
    validUtf8 (before ++ after) = validUtf8 after := by
  obtain ⟨decoder, readBefore, settled⟩ := (Option.any_eq_true _ _).mp valid
  rw [← valid_of_owed_zero (by simpa using settled) after]
  simp [validUtf8, read_append, readBefore]

theorem valid_ascii {bytes : Bytes} (plain : IsAscii bytes) : validUtf8 bytes = true := by
  induction bytes with
  | nil => rfl
  | cons octet bytes ih =>
      have small : octet < 0x80 := plain octet List.mem_cons_self
      have rest := ih fun later member => plain later (List.mem_cons_of_mem _ member)
      have single : validUtf8 [octet] = true := by
        simp [validUtf8, Decoder.read, Decoder.next, Decoder.start, firstOctet, small]
      rw [← List.singleton_append, valid_append single]
      exact rest

/-- A decoder that has begun a character never accepts an ASCII octet for it. -/
theorem firstOctet_low {octet : UInt8} {decoder : Decoder}
    (first : firstOctet octet = some decoder) : 0x80 ≤ decoder.low := by
  unfold firstOctet at first
  split_ifs at first <;> cases first <;> decide

theorem read_low {decoder final : Decoder} (low : 0x80 ≤ decoder.low) {bytes : Bytes}
    (readAll : decoder.read bytes = some final) : 0x80 ≤ final.low := by
  induction bytes generalizing decoder with
  | nil =>
      cases readAll
      exact low
  | cons octet bytes ih =>
      obtain ⟨next, advanced, rest⟩ := Option.bind_eq_some_iff.mp readAll
      refine ih ?_ rest
      unfold Decoder.next at advanced
      split_ifs at advanced with settled within
      · exact firstOctet_low advanced
      · cases advanced
        exact UInt8.le_refl 0x80

/-- ASCII text after a byte string does not complete a character cut off at its end. -/
theorem valid_append_ascii (before : Bytes) {after : Bytes} (plain : IsAscii after) :
    validUtf8 (before ++ after) = validUtf8 before := by
  cases valid : validUtf8 before with
  | true => rw [valid_append valid, valid_ascii plain]
  | false =>
      cases after with
      | nil => rw [List.append_nil, valid]
      | cons octet after =>
          have small : octet < 0x80 := plain octet List.mem_cons_self
          cases readBefore : Decoder.start.read before with
          | none => simp [validUtf8, read_append, readBefore]
          | some decoder =>
              have owes : decoder.owed ≠ 0 := by
                simpa [validUtf8, readBefore] using valid
              have low := read_low (by decide) readBefore
              have refused : ¬ decoder.low ≤ octet := by
                intro within
                exact absurd (UInt8.le_trans low within) (UInt8.not_le.mpr small)
              simp [validUtf8, read_append, readBefore, Decoder.read, Decoder.next, owes, refused]

/-- Quoting a byte string in ASCII text leaves it as valid or invalid as it was. -/
theorem valid_quoted {before after : Bytes} (plainBefore : IsAscii before)
    (plainAfter : IsAscii after) (quoted : Bytes) :
    validUtf8 (before ++ quoted ++ after) = validUtf8 quoted := by
  rw [valid_append_ascii _ plainAfter, valid_append (valid_ascii plainBefore)]

end JsonText
