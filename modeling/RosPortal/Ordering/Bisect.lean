import Mathlib.Data.List.TakeWhile

/-! Binary search in a list for the place where a property stops to hold, and insertion there. -/

set_option autoImplicit false

namespace Ordering

variable {Item : Type}

def bisectFrom (below : Item → Bool) (items : List Item) (low high : Nat) : Nat :=
  if low < high then
    let middle := (low + high) / 2
    if items[middle]?.any below then bisectFrom below items (middle + 1) high
    else bisectFrom below items low middle
  else low
termination_by high - low
decreasing_by all_goals omega

def bisect (below : Item → Bool) (items : List Item) : Nat := bisectFrom below items 0 items.length

/-- The property holds of a first part of the list. -/
def Partitioned (below : Item → Bool) (items : List Item) : Prop :=
  items.Pairwise fun first second => below second = true → below first = true

section Search

variable {below : Item → Bool} {items : List Item}

theorem Partitioned.any_of_le (partitioned : Partitioned below items) {first second : Nat} (before : first ≤ second)
    (later : items[second]?.any below = true) : items[first]?.any below = true := by
  obtain ⟨item, found, holds⟩ := (Option.any_eq_true _ _).mp later
  obtain ⟨inside, rfl⟩ := List.getElem?_eq_some_iff.mp found
  rcases Nat.lt_or_eq_of_le before with earlier | rfl
  · have held := List.pairwise_iff_getElem.mp partitioned first second (by omega) inside earlier holds
    simpa [List.getElem?_eq_getElem (Nat.lt_trans earlier inside)] using held
  · exact later

/-- The search keeps the place between its bounds. -/
theorem bisectFrom_spec (partitioned : Partitioned below items) (low high : Nat) (within : low ≤ high)
    (belowLow : ∀ index < low, items[index]?.any below = true)
    (aboveHigh : ∀ index, high ≤ index → items[index]?.any below = false) :
    (∀ index < bisectFrom below items low high, items[index]?.any below = true) ∧
      ∀ index, bisectFrom below items low high ≤ index → items[index]?.any below = false := by
  fun_induction bisectFrom below items low high with
  | case1 low high some middle holds ih =>
      apply ih (by omega)
      · intro index before
        exact partitioned.any_of_le (by omega) holds
      · exact aboveHigh
  | case2 low high some middle fails ih =>
      apply ih (by omega) belowLow
      intro index after
      cases held : items[index]?.any below with
      | false => rfl
      | true => exact absurd (partitioned.any_of_le after held) fails
  | case3 low high none =>
      have same : low = high := by omega
      exact ⟨belowLow, same ▸ aboveHigh⟩

theorem bisect_spec (partitioned : Partitioned below items) :
    (∀ index < bisect below items, items[index]?.any below = true) ∧
      ∀ index, bisect below items ≤ index → items[index]?.any below = false := by
  apply bisectFrom_spec partitioned 0 items.length (Nat.zero_le _) (fun _ none => absurd none (Nat.not_lt_zero _))
  intro index outside
  rw [List.getElem?_eq_none outside]
  rfl

theorem bisect_le (partitioned : Partitioned below items) : bisect below items ≤ items.length := by
  by_contra beyond
  have inside := (bisect_spec partitioned).1 items.length (by omega)
  rw [List.getElem?_eq_none (Nat.le_refl _)] at inside
  cases inside

theorem take_bisect (partitioned : Partitioned below items) :
    ∀ item ∈ items.take (bisect below items), below item = true := by
  intro item member
  obtain ⟨index, inside, rfl⟩ := List.mem_iff_getElem.mp member
  rw [List.length_take] at inside
  have holds := (bisect_spec partitioned).1 index (by omega)
  rw [List.getElem?_eq_getElem (by omega)] at holds
  rw [List.getElem_take]
  exact holds

theorem drop_bisect (partitioned : Partitioned below items) :
    ∀ item ∈ items.drop (bisect below items), below item = false := by
  intro item member
  obtain ⟨index, inside, rfl⟩ := List.mem_iff_getElem.mp member
  rw [List.length_drop] at inside
  have fails := (bisect_spec partitioned).2 (bisect below items + index) (Nat.le_add_right _ _)
  rw [List.getElem?_eq_getElem (by omega)] at fails
  rw [List.getElem_drop]
  exact fails

/-- What the property holds of is exactly what is before the place. -/
theorem drop_bisect_eq_filter (partitioned : Partitioned below items) :
    items.drop (bisect below items) = items.filter fun item => !below item := by
  calc items.drop (bisect below items)
      = (items.drop (bisect below items)).filter fun item => !below item := by
        rw [List.filter_eq_self.mpr]
        intro item member
        rw [drop_bisect partitioned item member]
        rfl
    _ = (items.take (bisect below items) ++ items.drop (bisect below items)).filter fun item => !below item := by
        have none : (items.take (bisect below items)).filter (fun item => !below item) = [] := by
          rw [List.filter_eq_nil_iff]
          intro item member
          rw [take_bisect partitioned item member]
          decide
        rw [List.filter_append, none, List.nil_append]
    _ = items.filter fun item => !below item := by rw [List.take_append_drop]

theorem bisectFrom_map {Other : Type} (below : Item → Bool) (function : Other → Item) (items : List Other)
    (low high : Nat) :
    bisectFrom below (items.map function) low high = bisectFrom (below ∘ function) items low high := by
  fun_induction bisectFrom (below ∘ function) items low high with
  | case1 low high some middle holds ih =>
      rw [bisectFrom, if_pos some, ← ih]
      simp only [List.getElem?_map, Option.any_map]
      exact if_pos holds
  | case2 low high some middle fails ih =>
      rw [bisectFrom, if_pos some, ← ih]
      simp only [List.getElem?_map, Option.any_map]
      exact if_neg fails
  | case3 low high none => rw [bisectFrom, if_neg none]

theorem bisect_map {Other : Type} (below : Item → Bool) (function : Other → Item) (items : List Other) :
    bisect below (items.map function) = bisect (below ∘ function) items := by
  rw [bisect, bisectFrom_map, List.length_map]
  rfl

end Search

end Ordering
