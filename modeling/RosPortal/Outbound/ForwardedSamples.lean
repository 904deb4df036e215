import Mathlib.Data.List.Induction
import RosPortal.Outbound.RateCap

/-! Which samples open the window of the rate cap. The cap moves the window before the
writer is ensured, so a sample that never reaches the writer holds back the next ones. -/

set_option autoImplicit false

namespace RosPortal.Outbound

namespace DataTopicState

def hands (state : DataTopicState) (arrival : Arrival) : Bool :=
  match (state.enter arrival.time arrival.attempt).2 with
  | .admitted _ encoding => encoding ≠ .jsonSchema || arrival.converts
  | .capped | .unwritable => false

/-- The sample passes the cap, but the writer cannot be made or the sample not converted. -/
def loses (state : DataTopicState) (arrival : Arrival) : Bool :=
  state.passes arrival.time &&
    (!((state.rateCap arrival.time).1.ensureWriterLocked arrival.attempt).2 ||
      state.encoding = .jsonSchema && !arrival.converts)

end DataTopicState

/-- Every sample that the cap drops comes within a period of one that was handed over. -/
def CapsAfterForwarded (state : DataTopicState) (arrivals : List Arrival) (minPeriod : Int) : Prop :=
  ∀ before arrival after, arrivals = before ++ arrival :: after →
    (state.after before).passes arrival.time = false →
      ∃ early handed late, before = early ++ handed :: late ∧ (state.after early).hands handed = true ∧
        arrival.time < handed.time + minPeriod

/-- After a sample that passes the cap and is lost, the next comes a period later. -/
def PeriodAfterLoss (state : DataTopicState) (arrivals : List Arrival) (minPeriod : Int) : Prop :=
  ∀ before lost next after, arrivals = before ++ lost :: next :: after →
    (state.after before).loses lost = true → lost.time + minPeriod ≤ next.time

section Loss

variable {state : DataTopicState} {arrival : Arrival} {arrivals : List Arrival} {minPeriod : Int}

theorem hands_iff : state.hands arrival = true ↔
    state.passes arrival.time = true ∧ state.loses arrival = false := by
  unfold DataTopicState.hands DataTopicState.loses
  rcases enter_cases state arrival.time arrival.attempt with
    ⟨dropped, same⟩ | ⟨passed, refused, same⟩ | ⟨writer, passed, ensured, _, same⟩
  · simp [same, dropped]
  · simp [same, passed, refused]
  · simp only [same, passed, ensured]
    cases arrival.converts <;> cases state.encoding <;> decide

theorem after_append (state : DataTopicState) (first second : List Arrival) :
    state.after (first ++ second) = (state.after first).after second :=
  List.foldl_append

theorem after_passed (capped : state.minPeriod = some minPeriod) {before : List Arrival}
    (passed : (state.after before).passes arrival.time = true) :
    (state.after (before ++ [arrival])).lastForwardTime = some arrival.time := by
  rw [after_append, after_cons, after_nil, enter_lastForwardTime]
  exact rateCap_passed ((after_minPeriod state before).trans capped) passed

/-- The window starts at the last sample that passed, and all later ones are within a
period of it. -/
theorem window_of_passed (capped : state.minPeriod = some minPeriod) (positive : 0 < minPeriod)
    (fresh : state.lastForwardTime = none) (ordered : Ordered arrivals) :
    (arrivals = [] ∧ (state.after arrivals).lastForwardTime = none) ∨
    ∃ before last after, arrivals = before ++ last :: after ∧
      (state.after before).passes last.time = true ∧
      (state.after arrivals).lastForwardTime = some last.time ∧
      ∀ arrival ∈ after, arrival.time < last.time + minPeriod := by
  induction arrivals using List.reverseRecOn with
  | nil => exact .inl ⟨rfl, fresh⟩
  | append_singleton arrivals arrival ih =>
      refine .inr ?_
      have cappedAfter := (after_minPeriod state arrivals).trans capped
      have orderedBefore : Ordered arrivals := ordered.sublist (List.sublist_append_left _ _)
      cases passed : (state.after arrivals).passes arrival.time with
      | true => exact ⟨arrivals, arrival, [], rfl, passed, after_passed capped passed, nofun⟩
      | false =>
          rcases ih orderedBefore with ⟨_, unopened⟩ | ⟨before, last, after, split, lastPassed, opened, soon⟩
          · rw [passes_first cappedAfter unopened] at passed
            cases passed
          · have notBefore : last.time ≤ arrival.time := by
              have relations := (List.pairwise_append.mp ordered).2.2
              exact relations last (by simp [split]) arrival (List.mem_singleton_self _)
            have early : arrival.time < last.time + minPeriod := by
              rw [Bool.eq_false_iff, Ne, passes_iff cappedAfter positive opened] at passed
              exact Int.not_le.mp passed
            refine ⟨before, last, after ++ [arrival], by simp [split], lastPassed, ?_, ?_⟩
            · have kept := rateCap_dropped passed opened
              rw [resetWindow, if_neg (Int.not_lt.mpr notBefore)] at kept
              rw [after_append, after_cons, after_nil, enter_lastForwardTime]
              exact kept
            · intro other member
              rcases List.mem_append.mp member with there | last
              · exact soon other there
              · rw [List.mem_singleton.mp last]
                exact early

theorem passed_period_apart (capped : state.minPeriod = some minPeriod) (positive : 0 < minPeriod)
    {early late : List Arrival} {first second : Arrival}
    (ordered : Ordered (early ++ first :: (late ++ [second])))
    (firstPassed : (state.after early).passes first.time = true)
    (secondPassed : (state.after (early ++ first :: late)).passes second.time = true) :
    first.time + minPeriod ≤ second.time := by
  have opened := after_passed capped firstPassed
  have cappedAfter := (after_minPeriod state (early ++ [first])).trans capped
  have notBefore := (List.pairwise_cons.mp (List.pairwise_append.mp ordered).2.1).1
  refine passed_after_period cappedAfter positive opened (Int.le_refl _) notBefore second.time ?_
  have through : ((state.after (early ++ [first])).after late).passes second.time = true := by
    rwa [← after_append, List.append_assoc, List.singleton_append]
  simp [DataTopicState.passedTimes, meetings_append, DataTopicState.meetings, through]

end Loss

/-- The cap counts from the samples that were handed over exactly if no sample comes within
a period of one that was lost. -/
theorem capsAfterForwarded_iff {state : DataTopicState} {arrivals : List Arrival} {minPeriod : Int}
    (capped : state.minPeriod = some minPeriod) (positive : 0 < minPeriod)
    (fresh : state.lastForwardTime = none) (ordered : Ordered arrivals) :
    CapsAfterForwarded state arrivals minPeriod ↔ PeriodAfterLoss state arrivals minPeriod := by
  constructor
  · intro caps before lost next after split loses
    have passed : (state.after before).passes lost.time = true := by
      rw [DataTopicState.loses, Bool.and_eq_true] at loses
      exact loses.1
    have opened := after_passed capped passed
    have cappedAfter := (after_minPeriod state (before ++ [lost])).trans capped
    by_contra soon
    have dropped : (state.after (before ++ [lost])).passes next.time = false := by
      rw [Bool.eq_false_iff, Ne, passes_iff cappedAfter positive opened]
      exact soon
    obtain ⟨early, handed, late, found, hands, within⟩ :=
      caps (before ++ [lost]) next after (by simp [split]) dropped
    obtain ⟨handedPassed, kept⟩ := hands_iff.mp hands
    rcases List.eq_nil_or_concat late with rfl | ⟨late, last, rfl⟩
    · -- the lost sample itself
      obtain ⟨rfl, same⟩ := List.append_inj' found rfl
      cases same
      rw [loses] at kept
      cases kept
    · -- one before it, which the lost sample follows by a period
      rw [List.concat_eq_append, ← List.cons_append, ← List.append_assoc] at found
      obtain ⟨rfl, same⟩ := List.append_inj' found rfl
      cases same
      have orderedHere : Ordered (early ++ handed :: (late ++ [lost])) := by
        refine ordered.sublist ?_
        rw [split]
        simp only [List.append_assoc, List.cons_append]
        exact List.Sublist.append_left (List.Sublist.cons_cons _ (List.Sublist.append_left
          (List.Sublist.cons_cons _ (List.nil_sublist _)) _)) _
      have apart := passed_period_apart capped positive orderedHere handedPassed passed
      have notBefore : lost.time ≤ next.time := by
        rw [split] at ordered
        have tail := (List.pairwise_append.mp ordered).2.1
        exact (List.pairwise_cons.mp tail).1 next List.mem_cons_self
      omega
  · intro periods before arrival after split dropped
    have orderedBefore : Ordered before := by
      rw [split] at ordered
      exact (List.pairwise_append.mp ordered).1
    have cappedAfter := (after_minPeriod state before).trans capped
    rcases window_of_passed capped positive fresh orderedBefore with
      ⟨_, unopened⟩ | ⟨early, last, late, found, passed, opened, soon⟩
    · rw [passes_first cappedAfter unopened] at dropped
      cases dropped
    · have within : arrival.time < last.time + minPeriod := by
        rw [Bool.eq_false_iff, Ne, passes_iff cappedAfter positive opened] at dropped
        exact Int.not_le.mp dropped
      refine ⟨early, last, late, found, hands_iff.mpr ⟨passed, ?_⟩, within⟩
      cases loses : (state.after early).loses last with
      | false => rfl
      | true =>
          -- whatever follows the lost sample came within its period
          cases late with
          | nil =>
              have apart := periods early last arrival after (by simp [split, found]) loses
              omega
          | cons next late =>
              have apart := periods early last next (late ++ arrival :: after) (by simp [split, found]) loses
              have early := soon next List.mem_cons_self
              omega

section Lost

/-- The track could not be published when the first sample came. -/
def unpublished (time : Int) : Arrival where
  time
  attempt := ⟨true, some ⟨"std_msgs/msg/String", .ros2Msg⟩, .failed⟩

/-- The second sample is dropped although none was forwarded before it. -/
theorem lost_sample_uses_period :
    ¬ CapsAfterForwarded { minPeriod := some 100 } [unpublished 0, writable 50] 100 := by
  intro caps
  obtain ⟨early, handed, late, found, hands, _⟩ :=
    caps [unpublished 0] (writable 50) [] rfl (by decide)
  cases early with
  | nil =>
      cases found
      revert hands
      decide
  | cons first early => simp at found

/-- The second sample comes a full period after the one that was lost, and passes. -/
theorem caps_after_forwarded_in_time :
    CapsAfterForwarded { minPeriod := some 100 } [unpublished 0, writable 100] 100 := by
  refine (capsAfterForwarded_iff rfl (by decide) rfl (by decide)).mpr ?_
  intro before lost next after split _
  cases before with
  | nil =>
      cases split
      decide
  | cons first before =>
      cases before with
      | nil => cases split
      | cons second before => simp at split

end Lost

end RosPortal.Outbound
