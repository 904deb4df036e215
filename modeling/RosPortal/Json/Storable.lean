import RosPortal.Json.Value

/-! Values that a JSON library writes and reads back as they were. -/

set_option autoImplicit false

namespace JsonText

namespace Value

/-- A number that is stored as one of 64 bits or as a finite double, and an object whose
members are in the order of the library's map. -/
def storableNode : Value → Bool
  | integer value => decide (-9223372036854775808 ≤ value ∧ value < 18446744073709551616)
  | float bits => finiteBits bits
  | object members => decide ((members.map Prod.fst).Pairwise (· < ·))
  | null | boolean _ | string _ | array _ => true

def Storable (value : Value) : Prop := everywhere storableNode value = true

instance (value : Value) : Decidable value.Storable :=
  inferInstanceAs (Decidable (everywhere storableNode value = true))

theorem storable_integer {value : Int} (low : -9223372036854775808 ≤ value)
    (high : value < 18446744073709551616) : (integer value).Storable :=
  decide_eq_true ⟨low, high⟩

theorem everywhere_object {test : Value → Bool} {members : List (Bytes × Value)} :
    everywhere test (object members) = true ↔
      test (object members) = true ∧
        ∀ member ∈ members, test (string member.1) = true ∧ everywhere test member.2 = true := by
  rw [everywhere, everyMember_eq_all, Bool.and_eq_true, List.all_eq_true]
  simp only [Bool.and_eq_true]

end Value

/-- The value is read back as it was written, as JSON can hold it. -/
def Codec.WritesBack (codec : Codec) (value : Value) : Prop :=
  value.Utf8 → value.Storable → ∃ text, codec.dump value = .ok text ∧ codec.parse text = .ok value

end JsonText
