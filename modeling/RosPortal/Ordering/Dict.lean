import Mathlib.Data.List.Nodup

/-! Dictionaries in the order in which their keys were first set. -/

set_option autoImplicit false

namespace Ordering

variable {Key Value : Type} [DecidableEq Key]

def setEntry (key : Key) (value : Value) : List (Key × Value) → List (Key × Value)
  | [] => [(key, value)]
  | entry :: entries => if entry.1 = key then (key, value) :: entries else entry :: setEntry key value entries

theorem keys_setEntry (key : Key) (value : Value) (entries : List (Key × Value)) :
    (setEntry key value entries).map Prod.fst =
      if key ∈ entries.map Prod.fst then entries.map Prod.fst else entries.map Prod.fst ++ [key] := by
  induction entries with
  | nil => rfl
  | cons entry entries ih =>
      by_cases same : entry.1 = key
      · subst same
        simp [setEntry]
      · have other : key ≠ entry.1 := Ne.symm same
        simp only [setEntry, if_neg same, List.map_cons, ih, List.mem_cons, other, false_or]
        split_ifs <;> rfl

theorem lookup_entry (entry : Key × Value) (entries : List (Key × Value)) (other : Key) :
    (entry :: entries).lookup other = if other = entry.1 then some entry.2 else entries.lookup other := by
  rw [List.lookup_cons]
  split_ifs with same
  · rw [beq_iff_eq.mpr same]
  · rw [beq_eq_false_iff_ne.mpr same]

theorem lookup_setEntry (key : Key) (value : Value) (entries : List (Key × Value)) (other : Key) :
    (setEntry key value entries).lookup other = if other = key then some value else entries.lookup other := by
  induction entries with
  | nil => simp [setEntry, lookup_entry]
  | cons entry entries ih =>
      by_cases here : entry.1 = key
      · subst here
        by_cases same : other = entry.1 <;> simp [setEntry, lookup_entry, same]
      · by_cases same : other = entry.1
        · subst same
          simp [setEntry, lookup_entry, here]
        · simp [setEntry, lookup_entry, here, same, ih]

structure Dict (Key Value : Type) where
  entries : List (Key × Value)
  distinct : (entries.map Prod.fst).Nodup

namespace Dict

def empty : Dict Key Value := ⟨[], .nil⟩

def keys (dict : Dict Key Value) : List Key := dict.entries.map Prod.fst

def find (dict : Dict Key Value) (key : Key) : Option Value := dict.entries.lookup key

def set (dict : Dict Key Value) (key : Key) (value : Value) : Dict Key Value where
  entries := setEntry key value dict.entries
  distinct := by
    rw [keys_setEntry]
    split_ifs with present
    · exact dict.distinct
    · exact List.concat_eq_append ▸ dict.distinct.concat present

def ofPairs (pairs : List (Key × Value)) : Dict Key Value :=
  pairs.foldl (fun dict pair => dict.set pair.1 pair.2) empty

variable (dict : Dict Key Value)

omit [DecidableEq Key] in
@[simp] theorem keys_empty : (empty : Dict Key Value).keys = [] := rfl

@[simp] theorem find_empty (key : Key) : (empty : Dict Key Value).find key = none := rfl

theorem keys_set (key : Key) (value : Value) :
    (dict.set key value).keys = if key ∈ dict.keys then dict.keys else dict.keys ++ [key] :=
  keys_setEntry key value dict.entries

theorem find_set (key : Key) (value : Value) (other : Key) :
    (dict.set key value).find other = if other = key then some value else dict.find other :=
  lookup_setEntry key value dict.entries other

theorem find_isSome (key : Key) : (dict.find key).isSome ↔ key ∈ dict.keys := by
  rw [find, List.lookup_isSome_iff, keys, List.mem_map]
  exact ⟨fun ⟨entry, member, same⟩ => ⟨entry, member, (beq_iff_eq.mp same).symm⟩,
    fun ⟨entry, member, same⟩ => ⟨entry, member, beq_iff_eq.mpr same.symm⟩⟩

theorem entries_eq : dict.entries = dict.keys.filterMap fun key => (dict.find key).map (key, ·) := by
  obtain ⟨entries, distinct⟩ := dict
  simp only [keys, find]
  induction entries with
  | nil => rfl
  | cons entry entries ih =>
      rw [List.map_cons, List.nodup_cons] at distinct
      have later : (entries.map Prod.fst).filterMap (fun key => (entries.lookup key).map (key, ·)) =
          (entries.map Prod.fst).filterMap fun key => ((entry :: entries).lookup key).map (key, ·) := by
        apply List.filterMap_congr
        intro key member
        rw [lookup_entry, if_neg (ne_of_mem_of_not_mem member distinct.1)]
      rw [List.map_cons, List.filterMap_cons, lookup_entry, if_pos rfl, ← later, ← ih distinct.2]
      rfl

end Dict

end Ordering
