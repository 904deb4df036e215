import RosPortal.Json.Utf8

/-! JSON values, their subvalues, and a library that reads and writes them. -/

set_option autoImplicit false

namespace JsonText

/-- A JSON value. Strings are bytes, and a float is given by the bits of its double,
so that both text that is not UTF-8 and non-finite numbers can be stated. -/
inductive Value where
  | null
  | boolean (value : Bool)
  | integer (value : Int)
  | float (bits : BitVec 64)
  | string (bytes : Bytes)
  | array (entries : List Value)
  | object (members : List (Bytes × Value))
deriving Repr

namespace Value

def isObject : Value → Bool
  | object _ => true
  | _ => false

def find? (key : Bytes) : Value → Option Value
  | object members => members.lookup key
  | _ => none

/-- One value occurs in another, at any depth. -/
inductive Within : Value → Value → Prop where
  | here {value : Value} : Within value value
  | entry {inner entry : Value} {entries : List Value} :
      entry ∈ entries → Within inner entry → Within inner (array entries)
  | member {inner : Value} {key : Bytes} {value : Value} {members : List (Bytes × Value)} :
      (key, value) ∈ members → Within inner value → Within inner (object members)
  | key {key : Bytes} {value : Value} {members : List (Bytes × Value)} :
      (key, value) ∈ members → Within (string key) (object members)

mutual

def everywhere (test : Value → Bool) : Value → Bool
  | array entries => test (array entries) && everyEntry test entries
  | object members => test (object members) && everyMember test members
  | leaf => test leaf

def everyEntry (test : Value → Bool) : List Value → Bool
  | [] => true
  | entry :: entries => everywhere test entry && everyEntry test entries

def everyMember (test : Value → Bool) : List (Bytes × Value) → Bool
  | [] => true
  | (key, value) :: members => test (string key) && everywhere test value && everyMember test members

end

def Utf8 (value : Value) : Prop :=
  ∀ bytes, Within (string bytes) value → validUtf8 bytes = true

theorem everyEntry_eq_all (test : Value → Bool) (entries : List Value) :
    everyEntry test entries = entries.all (everywhere test) := by
  induction entries with
  | nil => rfl
  | cons entry entries ih => simp [everyEntry, ih]

theorem everyMember_eq_all (test : Value → Bool) (members : List (Bytes × Value)) :
    everyMember test members =
      members.all fun member => test (string member.1) && everywhere test member.2 := by
  induction members with
  | nil => rfl
  | cons member members ih =>
      obtain ⟨key, value⟩ := member
      simp [everyMember, ih]

theorem test_of_everywhere {test : Value → Bool} {inner value : Value} (within : Within inner value)
    (passed : everywhere test value = true) : test inner = true := by
  induction within with
  | @here value =>
      cases value with
      | array entries | object members =>
          simp only [everywhere, Bool.and_eq_true] at passed
          exact passed.1
      | null | boolean _ | integer _ | float _ | string _ => exact passed
  | entry listed _ ih =>
      simp only [everywhere, everyEntry_eq_all, Bool.and_eq_true, List.all_eq_true] at passed
      exact ih (passed.2 _ listed)
  | member listed _ ih =>
      simp only [everywhere, everyMember_eq_all, Bool.and_eq_true, List.all_eq_true] at passed
      exact ih (passed.2 _ listed).2
  | key listed =>
      simp only [everywhere, everyMember_eq_all, Bool.and_eq_true, List.all_eq_true] at passed
      exact (passed.2 _ listed).1

mutual

theorem everywhere_of_tests {test : Value → Bool} : ∀ {value : Value},
    (∀ inner, Within inner value → test inner = true) → everywhere test value = true
  | array entries, tests => by
      have rest := @everyEntry_of_tests test entries fun entry listed inner within =>
        tests inner (.entry listed within)
      simp [everywhere, tests _ .here, rest]
  | object members, tests => by
      have rest := @everyMember_of_tests test members
        (fun key value listed => tests _ (.key listed))
        fun key value listed inner within => tests inner (.member listed within)
      simp [everywhere, tests _ .here, rest]
  | null, tests | boolean _, tests | integer _, tests | float _, tests | string _, tests => by
      simpa [everywhere] using tests _ .here

theorem everyEntry_of_tests {test : Value → Bool} : ∀ {entries : List Value},
    (∀ entry ∈ entries, ∀ inner, Within inner entry → test inner = true) →
    everyEntry test entries = true
  | [], _ => rfl
  | entry :: entries, tests => by
      have first := everywhere_of_tests (tests entry List.mem_cons_self)
      have rest := everyEntry_of_tests fun later listed => tests later (List.mem_cons_of_mem _ listed)
      simp [everyEntry, first, rest]

theorem everyMember_of_tests {test : Value → Bool} : ∀ {members : List (Bytes × Value)},
    (∀ key value, (key, value) ∈ members → test (string key) = true) →
    (∀ key value, (key, value) ∈ members → ∀ inner, Within inner value → test inner = true) →
    everyMember test members = true
  | [], _, _ => rfl
  | (key, value) :: members, keys, tests => by
      have name := keys key value List.mem_cons_self
      have first := everywhere_of_tests (tests key value List.mem_cons_self)
      have rest := everyMember_of_tests
        (fun otherKey other listed => keys otherKey other (List.mem_cons_of_mem _ listed))
        fun otherKey other listed => tests otherKey other (List.mem_cons_of_mem _ listed)
      simp [everyMember, name, first, rest]

end

theorem everywhere_iff {test : Value → Bool} {value : Value} :
    everywhere test value = true ↔ ∀ inner, Within inner value → test inner = true :=
  ⟨fun passed _ within => test_of_everywhere within passed, everywhere_of_tests⟩

def utf8Text : Value → Bool
  | string bytes => validUtf8 bytes
  | _ => true

theorem utf8_iff {value : Value} : value.Utf8 ↔ everywhere utf8Text value = true := by
  rw [everywhere_iff]
  constructor
  · intro valid inner within
    cases inner with
    | string bytes => exact valid bytes within
    | null | boolean _ | integer _ | float _ | array _ | object _ => rfl
  · intro tests bytes within
    exact tests _ within

instance (value : Value) : Decidable value.Utf8 := decidable_of_iff _ utf8_iff.symm

def finiteBits (bits : BitVec 64) : Bool := bits.extractLsb' 52 11 != 0x7FF#11

def Finite (value : Value) : Prop := ∀ bits, Within (float bits) value → finiteBits bits = true

end Value

/-- A parse error: its message quotes the token read so far byte by byte. -/
structure ParseError where
  before : Bytes
  lastRead : Bytes
  after : Bytes
deriving DecidableEq, Repr

def ParseError.what (error : ParseError) : Bytes := error.before ++ error.lastRead ++ error.after

/-- What a JSON library offers; `dump` fails with the text of the exception it throws. -/
structure Codec where
  parse : Bytes → Except ParseError Value
  dump : Value → Except Bytes Bytes

/-- Strings that are read are UTF-8, a parse error quotes its token in ASCII text,
`dump` throws exactly on text that is not UTF-8, and says so in ASCII. -/
structure Codec.Strict (codec : Codec) : Prop where
  reads : ∀ {payload : Bytes} {value : Value}, codec.parse payload = .ok value → value.Utf8
  quotes : ∀ {payload : Bytes} {error : ParseError}, codec.parse payload = .error error →
    IsAscii error.before ∧ IsAscii error.after
  dumps : ∀ {value : Value}, value.Utf8 → ∃ text, codec.dump value = .ok text
  throws : ∀ {value : Value}, ¬ value.Utf8 → ∃ what, codec.dump value = .error what ∧ IsAscii what

theorem Value.mem_of_find {key : Bytes} {value found : Value} (member : value.find? key = some found) :
    ∃ members, value = .object members ∧ (key, found) ∈ members := by
  cases value with
  | object members =>
      obtain ⟨before, after, split, _⟩ := List.lookup_eq_some_iff.mp member
      exact ⟨members, rfl, by simp [split]⟩
  | null | boolean _ | integer _ | float _ | string _ | array _ => cases member

theorem Value.Utf8.find {key : Bytes} {value found : Value} (valid : value.Utf8)
    (member : value.find? key = some found) : found.Utf8 := by
  intro bytes within
  obtain ⟨members, rfl, listed⟩ := Value.mem_of_find member
  exact valid bytes (.member listed within)

theorem Codec.Strict.what_valid {codec : Codec} (strict : codec.Strict) {payload : Bytes}
    {error : ParseError} (failed : codec.parse payload = .error error) :
    validUtf8 error.what = validUtf8 error.lastRead := by
  obtain ⟨before, after⟩ := strict.quotes failed
  exact valid_quoted before after error.lastRead

end JsonText
