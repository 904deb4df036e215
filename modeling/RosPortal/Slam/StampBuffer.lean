import Mathlib.Algebra.Order.Group.Unbundled.Int
import Mathlib.Data.List.GetD
import Mathlib.Data.List.Induction
import Mathlib.Data.List.Pairwise
import RosPortal.Ordering.Bisect

/-! Recent images by their stamps: a sorted buffer that drops what is older than its horizon, and
the item in it that is nearest to a stamp. -/

set_option autoImplicit false

namespace RosPortal.Slam

open Ordering

def bisectLeft (stamps : List Int) (stampNs : Int) : Nat := bisect (· < stampNs) stamps

def bisectRight (stamps : List Int) (stampNs : Int) : Nat := bisect (· ≤ stampNs) stamps

section Sorted

variable {stamps : List Int}

theorem partitioned_lt (sorted : stamps.Pairwise (· ≤ ·)) (stampNs : Int) :
    Partitioned (· < stampNs) stamps := by
  refine sorted.imp ?_
  intro first second ordered below
  exact decide_eq_true (Int.lt_of_le_of_lt ordered (of_decide_eq_true below))

theorem partitioned_le (sorted : stamps.Pairwise (· ≤ ·)) (stampNs : Int) :
    Partitioned (· ≤ stampNs) stamps := by
  refine sorted.imp ?_
  intro first second ordered below
  exact decide_eq_true (Int.le_trans ordered (of_decide_eq_true below))

theorem insertIdx_eq {Item : Type} (items : List Item) (item : Item) {index : Nat} (inside : index ≤ items.length) :
    items.insertIdx index item = items.take index ++ item :: items.drop index := by
  induction items generalizing index with
  | nil =>
      obtain rfl := Nat.le_zero.mp inside
      rfl
  | cons head items ih =>
      cases index with
      | zero => rfl
      | succ index =>
          rw [List.insertIdx_succ_cons, ih (Nat.le_of_succ_le_succ inside)]
          rfl

theorem bisectRight_le (sorted : stamps.Pairwise (· ≤ ·)) (stampNs : Int) :
    bisectRight stamps stampNs ≤ stamps.length :=
  bisect_le (partitioned_le sorted stampNs)

theorem sorted_insert (sorted : stamps.Pairwise (· ≤ ·)) (stampNs : Int) :
    (stamps.insertIdx (bisectRight stamps stampNs) stampNs).Pairwise (· ≤ ·) := by
  have before := take_bisect (partitioned_le sorted stampNs)
  have after := drop_bisect (partitioned_le sorted stampNs)
  rw [insertIdx_eq _ _ (bisectRight_le sorted stampNs), List.pairwise_append, List.pairwise_cons]
  refine ⟨sorted.sublist (List.take_sublist _ _), ⟨?_, sorted.sublist (List.drop_sublist _ _)⟩, ?_⟩
  · intro stamp member
    exact Int.le_of_lt (Int.not_le.mp (of_decide_eq_false (after stamp member)))
  · intro earlier member later listed
    have low : earlier ≤ stampNs := of_decide_eq_true (before earlier member)
    rcases List.mem_cons.mp listed with rfl | beyond
    · exact low
    · exact Int.le_trans low (Int.le_of_lt (Int.not_le.mp (of_decide_eq_false (after later beyond))))

theorem length_insert {Item : Type} (sorted : stamps.Pairwise (· ≤ ·)) {items : List Item}
    (paired : stamps.length = items.length) (stampNs : Int) (item : Item) :
    (stamps.insertIdx (bisectRight stamps stampNs) stampNs).length =
      (items.insertIdx (bisectRight stamps stampNs) item).length := by
  have inside := bisectRight_le sorted stampNs
  rw [List.length_insertIdx_of_le_length inside, List.length_insertIdx_of_le_length (paired ▸ inside), paired]

theorem length_drop_eq {Item Other : Type} {first : List Item} {second : List Other}
    (same : first.length = second.length) (count : Nat) : (first.drop count).length = (second.drop count).length := by
  rw [List.length_drop, List.length_drop, same]

end Sorted

structure StampBuffer (Item : Type) where
  horizonNs : Int
  stamps : List Int
  items : List Item
  paired : stamps.length = items.length
  sorted : stamps.Pairwise (· ≤ ·)

namespace StampBuffer

variable {Item : Type}

def empty (horizonNs : Int) : StampBuffer Item := ⟨horizonNs, [], [], rfl, .nil⟩

/-- The stamps with the new one; there is a last of them. -/
def inserted (buffer : StampBuffer Item) (stampNs : Int) : List Int :=
  buffer.stamps.insertIdx (bisectRight buffer.stamps stampNs) stampNs

def cutoff (buffer : StampBuffer Item) (stampNs : Int) : Nat :=
  bisectLeft (buffer.inserted stampNs) ((buffer.inserted stampNs).getLastD 0 - buffer.horizonNs)

def add (buffer : StampBuffer Item) (stampNs : Int) (item : Item) : StampBuffer Item where
  horizonNs := buffer.horizonNs
  stamps := (buffer.inserted stampNs).drop (buffer.cutoff stampNs)
  items := (buffer.items.insertIdx (bisectRight buffer.stamps stampNs) item).drop (buffer.cutoff stampNs)
  paired := length_drop_eq (length_insert buffer.sorted buffer.paired stampNs item) _
  sorted := (sorted_insert buffer.sorted stampNs).sublist (List.drop_sublist _ _)

/-- A candidate that is in the buffer, within the tolerance and nearer than the best so far. -/
def consider (stamps : List Int) (stampNs toleranceNs : Int) (best : Option (Int × Nat)) (candidate : Int) :
    Option (Int × Nat) :=
  if 0 ≤ candidate ∧ candidate < stamps.length then
    let delta := |stamps.getD candidate.toNat 0 - stampNs|
    if delta ≤ toleranceNs ∧ best.all (delta < ·.1) then some (delta, candidate.toNat) else best
  else best

def nearest (buffer : StampBuffer Item) (stampNs toleranceNs : Int) : Option (Int × Item) :=
  let index : Int := bisectLeft buffer.stamps stampNs
  let best := [index - 1, index].foldl (consider buffer.stamps stampNs toleranceNs) none
  best.bind fun found => (buffer.stamps.zip buffer.items)[found.2]?

def entries (buffer : StampBuffer Item) : List (Int × Item) := buffer.stamps.zip buffer.items

section Add

variable (buffer : StampBuffer Item) (stampNs : Int) (item : Item)

theorem stamps_eq : buffer.stamps = buffer.entries.map Prod.fst :=
  (List.map_fst_zip buffer.paired.le).symm

theorem entries_sorted : (buffer.entries.map Prod.fst).Pairwise (· ≤ ·) := buffer.stamps_eq ▸ buffer.sorted

/-- The entries with the new one, before the old ones are dropped. -/
def insertedEntries : List (Int × Item) :=
  buffer.entries.take (bisectRight buffer.stamps stampNs) ++
    (stampNs, item) :: buffer.entries.drop (bisectRight buffer.stamps stampNs)

theorem zip_inserted :
    (buffer.inserted stampNs).zip (buffer.items.insertIdx (bisectRight buffer.stamps stampNs) item) =
      buffer.insertedEntries stampNs item := by
  have inside := bisectRight_le buffer.sorted stampNs
  rw [inserted, insertIdx_eq _ _ inside, insertIdx_eq _ _ (buffer.paired ▸ inside),
    List.zip_append (by rw [List.length_take, List.length_take, buffer.paired]), List.zip_cons_cons]
  simp only [insertedEntries, entries, List.zip, List.take_zipWith, List.drop_zipWith]

theorem inserted_eq : buffer.inserted stampNs = (buffer.insertedEntries stampNs item).map Prod.fst := by
  rw [← zip_inserted]
  exact (List.map_fst_zip (length_insert buffer.sorted buffer.paired stampNs item).le).symm

/-- What is dropped is what is older than the horizon before the last stamp. -/
theorem entries_add :
    (buffer.add stampNs item).entries = (buffer.insertedEntries stampNs item).filter fun entry =>
      (buffer.inserted stampNs).getLastD 0 - buffer.horizonNs ≤ entry.1 := by
  have sorted : ((buffer.insertedEntries stampNs item).map Prod.fst).Pairwise (· ≤ ·) :=
    buffer.inserted_eq stampNs item ▸ sorted_insert buffer.sorted stampNs
  have partitioned : Partitioned ((· < (buffer.inserted stampNs).getLastD 0 - buffer.horizonNs) ∘ Prod.fst)
      (buffer.insertedEntries stampNs item) :=
    List.pairwise_map.mp (partitioned_lt sorted _)
  calc (buffer.add stampNs item).entries
      = ((buffer.inserted stampNs).zip
          (buffer.items.insertIdx (bisectRight buffer.stamps stampNs) item)).drop (buffer.cutoff stampNs) := by
        simp only [entries, add, List.zip, List.drop_zipWith]
    _ = (buffer.insertedEntries stampNs item).drop (bisect
          ((· < (buffer.inserted stampNs).getLastD 0 - buffer.horizonNs) ∘ Prod.fst)
          (buffer.insertedEntries stampNs item)) := by
        rw [zip_inserted, ← bisect_map, ← inserted_eq]
        rfl
    _ = _ := by
        rw [drop_bisect_eq_filter partitioned]
        apply List.filter_congr
        intro entry _
        rw [Function.comp_apply, ← decide_not, decide_eq_decide]
        exact Int.not_lt

theorem insertedEntries_at (stamp : Int) :
    (buffer.insertedEntries stampNs item).filter (·.1 = stamp) =
      buffer.entries.filter (·.1 = stamp) ++ if stampNs = stamp then [(stampNs, item)] else [] := by
  have whole := List.take_append_drop (bisectRight buffer.stamps stampNs) buffer.entries
  have later : ∀ entry ∈ buffer.entries.drop (bisectRight buffer.stamps stampNs), stampNs < entry.1 := by
    have partitioned : Partitioned ((· ≤ stampNs) ∘ Prod.fst) buffer.entries :=
      List.pairwise_map.mp (partitioned_le buffer.entries_sorted stampNs)
    intro entry member
    rw [bisectRight, stamps_eq, bisect_map] at member
    exact Int.not_le.mp (of_decide_eq_false (drop_bisect partitioned entry member))
  have split : buffer.entries.filter (·.1 = stamp) =
      (buffer.entries.take (bisectRight buffer.stamps stampNs)).filter (·.1 = stamp) ++
        (buffer.entries.drop (bisectRight buffer.stamps stampNs)).filter (·.1 = stamp) := by
    rw [← List.filter_append, whole]
  rw [insertedEntries, List.filter_append, List.filter_cons, split]
  by_cases same : stampNs = stamp
  · have none : (buffer.entries.drop (bisectRight buffer.stamps stampNs)).filter (·.1 = stamp) = [] := by
      rw [List.filter_eq_nil_iff]
      intro entry member
      have beyond := later entry member
      simp only [decide_eq_true_eq]
      omega
    rw [none]
    simp [same]
  · simp [same]

theorem last_inserted :
    ((buffer.inserted stampNs).getLastD 0 ∈ buffer.stamps ∨ (buffer.inserted stampNs).getLastD 0 = stampNs) ∧
      stampNs ≤ (buffer.inserted stampNs).getLastD 0 ∧
        ∀ stamp ∈ buffer.stamps, stamp ≤ (buffer.inserted stampNs).getLastD 0 := by
  have sorted : (buffer.inserted stampNs).Pairwise (· ≤ ·) := sorted_insert buffer.sorted stampNs
  have members : ∀ stamp, stamp ∈ buffer.inserted stampNs ↔ stamp = stampNs ∨ stamp ∈ buffer.stamps := fun stamp =>
    List.mem_insertIdx (bisectRight_le buffer.sorted stampNs)
  have filled : buffer.inserted stampNs ≠ [] := List.ne_nil_of_mem ((members stampNs).mpr (.inl rfl))
  have last : (buffer.inserted stampNs).getLastD 0 = (buffer.inserted stampNs).getLast filled := by
    rw [List.getLastD_eq_getLast?, List.getLast?_eq_some_getLast filled]
    rfl
  have most : ∀ stamp ∈ buffer.inserted stampNs, stamp ≤ (buffer.inserted stampNs).getLast filled := fun _ member =>
    sorted.rel_getLast member
  rw [last]
  refine ⟨?_, most stampNs ((members stampNs).mpr (.inl rfl)), fun stamp member =>
    most stamp ((members stamp).mpr (.inr member))⟩
  exact ((members _).mp (List.getLast_mem filled)).symm

end Add

section Adds

variable (horizonNs : Int)

def addAll (adds : List (Int × Item)) : StampBuffer Item :=
  adds.foldl (fun buffer added => buffer.add added.1 added.2) (empty horizonNs)

/-- Nothing was added that is later by more than the horizon. -/
def Recent (adds : List (Int × Item)) (stamp : Int) : Prop := ∀ added ∈ adds, added.1 - horizonNs ≤ stamp

instance (adds : List (Int × Item)) (stamp : Int) : Decidable (Recent horizonNs adds stamp) :=
  inferInstanceAs (Decidable (∀ added ∈ adds, added.1 - horizonNs ≤ stamp))

theorem addAll_horizonNs (adds : List (Int × Item)) : (addAll horizonNs adds).horizonNs = horizonNs := by
  induction adds using List.reverseRecOn with
  | nil => rfl
  | append_singleton adds added ih =>
      rw [addAll, List.foldl_append]
      exact ih

theorem exists_latest (adds : List (Int × Item)) (filled : adds ≠ []) :
    ∃ latest ∈ adds, ∀ added ∈ adds, added.1 ≤ latest.1 := by
  induction adds with
  | nil => exact absurd rfl filled
  | cons first adds ih =>
      by_cases alone : adds = []
      · subst alone
        exact ⟨first, List.mem_cons_self, by simp⟩
      · obtain ⟨latest, member, most⟩ := ih alone
        rcases Int.le_total first.1 latest.1 with before | after
        · refine ⟨latest, List.mem_cons_of_mem _ member, ?_⟩
          rw [List.forall_mem_cons]
          exact ⟨before, most⟩
        · refine ⟨first, List.mem_cons_self, ?_⟩
          rw [List.forall_mem_cons]
          exact ⟨Int.le_refl _, fun added listed => Int.le_trans (most added listed) after⟩

theorem mem_of_at {adds kept : List (Int × Item)}
    (each : ∀ stamp, kept.filter (·.1 = stamp) =
      if Recent horizonNs adds stamp then adds.filter (·.1 = stamp) else []) (entry : Int × Item) :
    entry ∈ kept ↔ entry ∈ adds ∧ Recent horizonNs adds entry.1 := by
  have here : entry ∈ kept ↔ entry ∈ kept.filter (·.1 = entry.1) := by simp
  rw [here, each entry.1]
  split_ifs with recent
  · simp [recent]
  · simp [recent]

/-- Of each stamp, an addition leaves what there was with it, or drops all of it. -/
theorem addAll_concat_at (adds : List (Int × Item)) (added : Int × Item) (stamp : Int) :
    (addAll horizonNs (adds ++ [added])).entries.filter (·.1 = stamp) =
      if ((addAll horizonNs adds).inserted added.1).getLastD 0 - horizonNs ≤ stamp then
        ((addAll horizonNs adds).insertedEntries added.1 added.2).filter (·.1 = stamp)
      else [] := by
  have step : (addAll horizonNs (adds ++ [added])).entries =
      ((addAll horizonNs adds).insertedEntries added.1 added.2).filter fun entry =>
        ((addAll horizonNs adds).inserted added.1).getLastD 0 - horizonNs ≤ entry.1 := by
    have kept := (addAll horizonNs adds).entries_add added.1 added.2
    rw [addAll_horizonNs] at kept
    rw [addAll, List.foldl_append]
    exact kept
  rw [step, List.filter_filter]
  split_ifs with kept
  · apply List.filter_congr
    intro entry _
    by_cases same : entry.1 = stamp
    · rw [same, decide_eq_true kept, Bool.and_true]
    · rw [decide_eq_false same, Bool.false_and]
  · rw [List.filter_eq_nil_iff]
    intro entry _
    simp only [Bool.and_eq_true, decide_eq_true_eq]
    intro both
    obtain ⟨rfl, late⟩ := both
    exact kept late

/-- Of each stamp, the buffer has all that was added, in the order in which it was added, or, once
something later by more than the horizon was added, nothing. -/
theorem addAll_at (adds : List (Int × Item)) (stamp : Int) :
    (addAll horizonNs adds).entries.filter (·.1 = stamp) =
      if Recent horizonNs adds stamp then adds.filter (·.1 = stamp) else [] := by
  induction adds using List.reverseRecOn generalizing stamp with
  | nil => simp [addAll, empty, entries]
  | append_singleton adds added ih =>
      obtain ⟨one, newer, most⟩ := (addAll horizonNs adds).last_inserted added.1
      have recent : Recent horizonNs (adds ++ [added]) stamp ↔
          Recent horizonNs adds stamp ∧ added.1 - horizonNs ≤ stamp := by
        simp [Recent, or_imp, forall_and]
      have members := mem_of_at horizonNs ih
      rw [addAll_concat_at]
      split_ifs with kept all all
      · rw [insertedEntries_at, ih, if_pos (recent.mp all).1, List.filter_append]
        simp [List.filter_cons]
      · -- then the new entry has another stamp: the latest of the old ones is still in the buffer
        have old : ¬ Recent horizonNs adds stamp := fun old => all (recent.mpr ⟨old, by omega⟩)
        have other : added.1 ≠ stamp := by
          intro same
          obtain ⟨latest, listed, latestOf⟩ := exists_latest adds fun none => old (by simp [Recent, none])
          have present : latest ∈ (addAll horizonNs adds).entries :=
            (members latest).mpr ⟨listed, fun earlier member => by
              have before := latestOf earlier member
              omega⟩
          have below := most latest.1 ((addAll horizonNs adds).stamps_eq ▸ List.mem_map_of_mem present)
          exact old fun earlier member => by
            have before := latestOf earlier member
            omega
        rw [insertedEntries_at, ih, if_neg old, if_neg other]
        rfl
      · obtain ⟨old, new⟩ := recent.mp all
        rcases one with stale | same
        · rw [stamps_eq] at stale
          obtain ⟨entry, present, same⟩ := List.mem_map.mp stale
          have within := old entry ((members entry).mp present).1
          rw [same] at within
          exact absurd within kept
        · rw [← same] at new
          exact absurd new kept
      · rfl

theorem mem_addAll (adds : List (Int × Item)) (entry : Int × Item) :
    entry ∈ (addAll horizonNs adds).entries ↔ entry ∈ adds ∧ Recent horizonNs adds entry.1 :=
  mem_of_at horizonNs (addAll_at horizonNs adds) entry

end Adds

section Nearest

variable {stamps : List Int} {stampNs toleranceNs : Int}

/-- What the search knows of the candidates that it has considered. -/
structure Best (stamps : List Int) (stampNs toleranceNs : Int) (considered : List Int) (best : Option (Int × Nat)) :
    Prop where
  none : best = none → ∀ candidate ∈ considered, 0 ≤ candidate → candidate < stamps.length →
    toleranceNs < |stamps.getD candidate.toNat 0 - stampNs|
  found : ∀ result ∈ best, result.2 < stamps.length ∧ result.1 = |stamps.getD result.2 0 - stampNs| ∧
    result.1 ≤ toleranceNs ∧ ∀ candidate ∈ considered, 0 ≤ candidate → candidate < stamps.length →
      result.1 ≤ |stamps.getD candidate.toNat 0 - stampNs|

theorem Best.keep {considered : List Int} {best : Option (Int × Nat)}
    (known : Best stamps stampNs toleranceNs considered best) {candidate : Int}
    (far : best = .none → 0 ≤ candidate → candidate < stamps.length →
      toleranceNs < |stamps.getD candidate.toNat 0 - stampNs|)
    (worse : ∀ result ∈ best, 0 ≤ candidate → candidate < stamps.length →
      result.1 ≤ |stamps.getD candidate.toNat 0 - stampNs|) :
    Best stamps stampNs toleranceNs (considered ++ [candidate]) best where
  none := by
    intro none other listed
    rcases List.mem_append.mp listed with earlier | last
    · exact known.none none other earlier
    · rw [List.mem_singleton.mp last]
      exact far none
  found := by
    intro result same
    obtain ⟨within, delta, tolerable, least⟩ := known.found result same
    refine ⟨within, delta, tolerable, ?_⟩
    intro other listed
    rcases List.mem_append.mp listed with earlier | last
    · exact least other earlier
    · rw [List.mem_singleton.mp last]
      exact worse result same

theorem Best.consider {considered : List Int} {best : Option (Int × Nat)}
    (known : Best stamps stampNs toleranceNs considered best) (candidate : Int) :
    Best stamps stampNs toleranceNs (considered ++ [candidate])
      (StampBuffer.consider stamps stampNs toleranceNs best candidate) := by
  unfold StampBuffer.consider
  split_ifs with inside
  · simp only
    split_ifs with better
    · refine ⟨nofun, ?_⟩
      rintro result ⟨⟩
      refine ⟨by omega, rfl, better.1, ?_⟩
      intro other listed nonnegative within
      rcases List.mem_append.mp listed with earlier | same
      · cases best with
        | none => exact Int.le_of_lt (Int.lt_of_le_of_lt better.1 (known.none rfl other earlier nonnegative within))
        | some result =>
            have nearer := of_decide_eq_true better.2
            exact Int.le_of_lt (Int.lt_of_lt_of_le nearer
              ((known.found result rfl).2.2.2 other earlier nonnegative within))
      · rw [List.mem_singleton.mp same]
    · apply known.keep
      · rintro rfl _ _
        by_contra near
        exact better ⟨Int.not_lt.mp near, rfl⟩
      · intro result same _ _
        have tolerable := (known.found result same).2.2.1
        by_contra nearer
        rw [Option.mem_def] at same
        subst same
        refine better ⟨Int.le_trans (Int.le_of_lt (Int.not_le.mp nearer)) tolerable, ?_⟩
        exact decide_eq_true (Int.not_le.mp nearer)
  · apply known.keep
    · intro _ nonnegative within
      exact absurd ⟨nonnegative, within⟩ inside
    · intro _ _ nonnegative within
      exact absurd ⟨nonnegative, within⟩ inside

/-- One of the two candidates is as near as any stamp. -/
theorem candidate_nearest (sorted : stamps.Pairwise (· ≤ ·)) (stampNs : Int) {index : Nat}
    (inside : index < stamps.length) :
    ∃ candidate ∈ [(bisectLeft stamps stampNs : Int) - 1, bisectLeft stamps stampNs],
      0 ≤ candidate ∧ candidate < stamps.length ∧
        |stamps.getD candidate.toNat 0 - stampNs| ≤ |stamps.getD index 0 - stampNs| := by
  obtain ⟨before, after⟩ := bisect_spec (partitioned_lt sorted stampNs)
  have ordered : ∀ first second, first ≤ second → second < stamps.length →
      stamps.getD first 0 ≤ stamps.getD second 0 := by
    intro first second earlier within
    rw [List.getD_eq_getElem _ _ (Nat.lt_of_le_of_lt earlier within), List.getD_eq_getElem _ _ within]
    rcases Nat.lt_or_eq_of_le earlier with less | rfl
    · exact List.pairwise_iff_getElem.mp sorted first second _ within less
    · exact Int.le_refl _
  have side : ∀ position, position < stamps.length →
      stamps[position]?.any (· < stampNs) = decide (stamps.getD position 0 < stampNs) := by
    intro position within
    rw [List.getElem?_eq_getElem within, List.getD_eq_getElem _ _ within]
    rfl
  rcases Nat.lt_or_ge index (bisectLeft stamps stampNs) with less | more
  · have last : bisectLeft stamps stampNs - 1 < stamps.length := by
      have most := bisect_le (partitioned_lt sorted stampNs)
      change bisectLeft stamps stampNs ≤ _ at most
      omega
    have below := before (bisectLeft stamps stampNs - 1) (by change _ < bisectLeft stamps stampNs; omega)
    rw [side _ last, decide_eq_true_eq] at below
    have lower := ordered index (bisectLeft stamps stampNs - 1) (by omega) last
    refine ⟨_, List.mem_cons_self, by omega, by omega, ?_⟩
    rw [show ((bisectLeft stamps stampNs : Int) - 1).toNat = bisectLeft stamps stampNs - 1 by omega,
      abs_of_neg (by omega), abs_of_neg (by omega)]
    omega
  · have here : bisectLeft stamps stampNs < stamps.length := by omega
    have above := after (bisectLeft stamps stampNs) (Nat.le_refl _)
    rw [side _ here, decide_eq_false_iff_not] at above
    have higher := ordered _ index more inside
    refine ⟨_, List.mem_cons_of_mem _ List.mem_cons_self, by omega, by omega, ?_⟩
    rw [Int.toNat_natCast, abs_of_nonneg (by omega), abs_of_nonneg (by omega)]
    omega

theorem nearest_spec {Item : Type} (buffer : StampBuffer Item) (stampNs toleranceNs : Int) :
    (buffer.nearest stampNs toleranceNs = none → ∀ entry ∈ buffer.entries, toleranceNs < |entry.1 - stampNs|) ∧
      ∀ found ∈ buffer.nearest stampNs toleranceNs, found ∈ buffer.entries ∧ |found.1 - stampNs| ≤ toleranceNs ∧
        ∀ entry ∈ buffer.entries, |found.1 - stampNs| ≤ |entry.1 - stampNs| := by
  have start : Best buffer.stamps stampNs toleranceNs [] none := ⟨fun _ _ listed => absurd listed List.not_mem_nil, nofun⟩
  have known := (start.consider ((bisectLeft buffer.stamps stampNs : Int) - 1)).consider (bisectLeft buffer.stamps stampNs)
  have position : ∀ entry ∈ buffer.entries, ∃ index < buffer.stamps.length, buffer.stamps.getD index 0 = entry.1 := by
    intro entry member
    have stamp : entry.1 ∈ buffer.stamps := buffer.stamps_eq ▸ List.mem_map_of_mem member
    obtain ⟨index, inside, same⟩ := List.mem_iff_getElem.mp stamp
    exact ⟨index, inside, (List.getD_eq_getElem _ _ inside).trans same⟩
  have entryAt : ∀ index < buffer.stamps.length, ∃ entry ∈ buffer.entries,
      buffer.entries[index]? = some entry ∧ entry.1 = buffer.stamps.getD index 0 := by
    intro index inside
    have within : index < buffer.entries.length := by
      rw [entries, List.length_zip, ← buffer.paired, Nat.min_self]
      exact inside
    refine ⟨buffer.entries[index], List.getElem_mem within, List.getElem?_eq_getElem within, ?_⟩
    rw [List.getD_eq_getElem _ _ inside]
    simp [entries]
  have result : buffer.nearest stampNs toleranceNs = (consider buffer.stamps stampNs toleranceNs
      (consider buffer.stamps stampNs toleranceNs none ((bisectLeft buffer.stamps stampNs : Int) - 1))
      (bisectLeft buffer.stamps stampNs)).bind fun found => buffer.entries[found.2]? := rfl
  rw [result]
  generalize consider buffer.stamps stampNs toleranceNs
      (consider buffer.stamps stampNs toleranceNs none ((bisectLeft buffer.stamps stampNs : Int) - 1))
      (bisectLeft buffer.stamps stampNs) = best at known
  cases best with
  | none =>
      refine ⟨fun _ entry member => ?_, nofun⟩
      obtain ⟨index, inside, same⟩ := position entry member
      obtain ⟨candidate, listed, nonnegative, within, near⟩ := candidate_nearest buffer.sorted stampNs inside
      have far := known.none rfl candidate listed nonnegative within
      rw [← same]
      exact Int.lt_of_lt_of_le far near
  | some chosen =>
      obtain ⟨inside, delta, tolerable, least⟩ := known.found chosen rfl
      obtain ⟨nearest, member, here, stamp⟩ := entryAt chosen.2 inside
      rw [Option.bind_some, here]
      refine ⟨nofun, ?_⟩
      rintro found ⟨⟩
      rw [stamp, ← delta]
      refine ⟨member, tolerable, fun entry listed => ?_⟩
      obtain ⟨index, within, same⟩ := position entry listed
      obtain ⟨candidate, one, nonnegative, bounded, near⟩ := candidate_nearest buffer.sorted stampNs within
      rw [← same]
      exact Int.le_trans (least candidate one nonnegative bounded) near

/-- The buffer has each item that is not older than the horizon once for each time it was added, and what
is found is the nearest of them. None is found only where all of them are out of tolerance. -/
theorem nearest_of_adds {Item : Type} (horizonNs : Int) (adds : List (Int × Item)) (stampNs toleranceNs : Int) :
    (∀ stamp, (addAll horizonNs adds).entries.filter (·.1 = stamp) =
        if Recent horizonNs adds stamp then adds.filter (·.1 = stamp) else []) ∧
      ((addAll horizonNs adds).nearest stampNs toleranceNs = none ↔
        ∀ added ∈ adds, Recent horizonNs adds added.1 → toleranceNs < |added.1 - stampNs|) ∧
      ∀ found ∈ (addAll horizonNs adds).nearest stampNs toleranceNs,
        found ∈ adds ∧ Recent horizonNs adds found.1 ∧ |found.1 - stampNs| ≤ toleranceNs ∧
          ∀ added ∈ adds, Recent horizonNs adds added.1 → |found.1 - stampNs| ≤ |added.1 - stampNs| := by
  obtain ⟨missing, nearest⟩ := (addAll horizonNs adds).nearest_spec stampNs toleranceNs
  simp only [mem_addAll] at missing nearest
  refine ⟨addAll_at horizonNs adds, ⟨fun none added listed recent => missing none added ⟨listed, recent⟩, ?_⟩, ?_⟩
  · intro far
    by_contra found
    obtain ⟨entry, same⟩ := Option.ne_none_iff_exists'.mp found
    obtain ⟨⟨listed, recent⟩, near, _⟩ := nearest entry same
    exact absurd near (Int.not_le.mpr (far entry listed recent))
  · intro found same
    obtain ⟨⟨listed, recent⟩, near, least⟩ := nearest found same
    exact ⟨listed, recent, near, fun added member within => least added ⟨member, within⟩⟩

end Nearest

end StampBuffer

end RosPortal.Slam
