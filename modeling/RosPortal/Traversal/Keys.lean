import Mathlib.Data.List.Nodup

/-! A loop over the keys of a store whose body reads and changes only what the store has on
the key it is at. -/

set_option autoImplicit false

namespace KeyLoop

variable {Key Store View : Type}

/-- The body changes what can be seen of the store on its key, and nothing on other keys. -/
structure Separate (view : Store → Key → View) (change : Key → View → View)
    (body : Store → Key → Store) : Prop where
  here : ∀ store key, view (body store key) key = change key (view store key)
  elsewhere : ∀ store key other, other ≠ key → view (body store key) other = view store other

variable {view : Store → Key → View} {change : Key → View → View} {body : Store → Key → Store}

theorem foldl_constant {Part : Type} (part : Store → Part)
    (constant : ∀ store key, part (body store key) = part store) (keys : List Key) (store : Store) :
    part (keys.foldl body store) = part store := by
  induction keys generalizing store with
  | nil => rfl
  | cons first keys ih => exact (ih _).trans (constant store first)

theorem Separate.untouched (separate : Separate view change body) {keys : List Key} {key : Key}
    (absent : key ∉ keys) (store : Store) : view (keys.foldl body store) key = view store key := by
  induction keys generalizing store with
  | nil => rfl
  | cons first keys ih =>
      obtain ⟨different, later⟩ : key ≠ first ∧ key ∉ keys := by simpa using absent
      exact (ih later _).trans (separate.elsewhere store first key different)

/-- On each of its keys the loop makes the change once, to what was there at its start. -/
theorem Separate.foldl (separate : Separate view change body) {keys : List Key}
    (distinct : keys.Nodup) {key : Key} (present : key ∈ keys) (store : Store) :
    view (keys.foldl body store) key = change key (view store key) := by
  induction keys generalizing store with
  | nil => cases present
  | cons first keys ih =>
      obtain ⟨once, distinctRest⟩ := List.nodup_cons.mp distinct
      rw [List.foldl_cons]
      rcases List.mem_cons.mp present with rfl | later
      · rw [separate.untouched once, separate.here]
      · have different : key ≠ first := fun same => once (same ▸ later)
        rw [ih distinctRest later, separate.elsewhere store first key different]

end KeyLoop
