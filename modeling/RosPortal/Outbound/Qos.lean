import RosPortal.Portal.Graph

/-! The quality of service of an outbound subscription, aggregated over the publishers of
its topic, and the rules by which a requested quality of service matches an offered one. -/

set_option autoImplicit false

namespace RosPortal.Outbound

open Portal

inductive ReliabilityPolicy where
  | systemDefault
  | bestEffort
  | reliable
  | bestAvailable
  | unknown
deriving DecidableEq, Repr

inductive DurabilityPolicy where
  | systemDefault
  | volatile
  | transientLocal
  | bestAvailable
  | unknown
deriving DecidableEq, Repr

inductive LivelinessPolicy where
  | systemDefault
  | automatic
  | manualByTopic
  | bestAvailable
  | unknown
deriving DecidableEq, Repr

/-- A quality of service that keeps the last samples; a duration that is unset is infinite. -/
structure QoS where
  depth : Nat
  reliability : ReliabilityPolicy := .reliable
  durability : DurabilityPolicy := .volatile
  deadline : Option Nat := none
  liveliness : LivelinessPolicy := .systemDefault
  livelinessLeaseDuration : Option Nat := none
deriving DecidableEq, Repr

def ReliabilityPolicy.strength : ReliabilityPolicy → Nat
  | .reliable => 1
  | _ => 0

def DurabilityPolicy.strength : DurabilityPolicy → Nat
  | .transientLocal => 1
  | _ => 0

def LivelinessPolicy.strength : LivelinessPolicy → Nat
  | .manualByTopic => 1
  | _ => 0

def DurationCompatible (offered requested : Option Nat) : Prop :=
  ∀ longest ∈ requested, ∃ duration ∈ offered, duration ≤ longest

/-- No requested policy is stronger than the offered one. -/
structure QoS.Compatible (offered requested : QoS) : Prop where
  reliability : requested.reliability.strength ≤ offered.reliability.strength
  durability : requested.durability.strength ≤ offered.durability.strength
  deadline : DurationCompatible offered.deadline requested.deadline
  liveliness : requested.liveliness.strength ≤ offered.liveliness.strength
  lease : DurationCompatible offered.livelinessLeaseDuration requested.livelinessLeaseDuration

/-- The part of `TopicForwarder::Options` that `determineQoS` reads. -/
structure QosOptions where
  bestEffortQosTopicPatterns : List (String → Bool) := []
  minQosDepth : Nat := 1
  maxQosDepth : Nat := 25

/-- The counters of the loop of `determineQoS`, of type `size_t`. -/
structure Tally where
  depth : Nat := 0
  reliableCount : Nat := 0
  transientLocalCount : Nat := 0
deriving DecidableEq, Repr

def wrap (value : Nat) : Nat := value % 18446744073709551616

/-- The body of the loop of `determineQoS`. -/
def Tally.add (tally : Tally) (qos : QoS) : Tally where
  depth := wrap (tally.depth + max 1 qos.depth)
  reliableCount :=
    if qos.reliability = .reliable then wrap (tally.reliableCount + 1) else tally.reliableCount
  transientLocalCount :=
    if qos.durability = .transientLocal then wrap (tally.transientLocalCount + 1)
    else tally.transientLocalCount

def clampDepth (options : QosOptions) (depth : Nat) : Nat :=
  let depth := max depth options.minQosDepth
  if options.maxQosDepth < depth then options.maxQosDepth else depth

def bestEffortForced (options : QosOptions) (topicName : String) : Bool :=
  matchesAnyPattern topicName options.bestEffortQosTopicPatterns

/-- The publishers are what `get_publishers_info_by_topic` reports. -/
def determineQoS (options : QosOptions) (topicName : String) (publisherInfo : List QoS) : QoS :=
  let tally := publisherInfo.foldl Tally.add {}
  { depth := clampDepth options tally.depth
    reliability :=
      if bestEffortForced options topicName then .bestEffort
      else if !publisherInfo.isEmpty && tally.reliableCount = publisherInfo.length then .reliable
      else .bestEffort
    durability :=
      if !publisherInfo.isEmpty && tally.transientLocalCount = publisherInfo.length then .transientLocal
      else .volatile }

section Loop

/-- The sum of the depths, at least one for each publisher. -/
def depthSum : List QoS → Nat
  | [] => 0
  | qos :: publisherInfo => max 1 qos.depth + depthSum publisherInfo

theorem wrap_of_lt {value : Nat} (small : value < 18446744073709551616) : wrap value = value :=
  Nat.mod_eq_of_lt small

/-- As long as the depth does not wrap, no counter does, and each counts what it is for. -/
theorem foldl_add (publisherInfo : List QoS) {tally : Tally}
    (reliable : tally.reliableCount ≤ tally.depth) (transientLocal : tally.transientLocalCount ≤ tally.depth)
    (small : tally.depth + depthSum publisherInfo < 18446744073709551616) :
    publisherInfo.foldl Tally.add tally =
      { depth := tally.depth + depthSum publisherInfo
        reliableCount := tally.reliableCount + publisherInfo.countP fun qos => qos.reliability = .reliable
        transientLocalCount :=
          tally.transientLocalCount + publisherInfo.countP fun qos => qos.durability = .transientLocal } := by
  induction publisherInfo generalizing tally with
  | nil => rfl
  | cons qos publisherInfo ih =>
      simp only [depthSum] at small
      have positive : 1 ≤ max 1 qos.depth := Nat.le_max_left 1 qos.depth
      have added : tally.add qos =
          { depth := tally.depth + max 1 qos.depth
            reliableCount := tally.reliableCount + if qos.reliability = .reliable then 1 else 0
            transientLocalCount := tally.transientLocalCount + if qos.durability = .transientLocal then 1 else 0 } := by
        simp only [Tally.add, Tally.mk.injEq]
        refine ⟨wrap_of_lt (by omega), ?_, ?_⟩
        · split_ifs
          · exact wrap_of_lt (by omega)
          · rfl
        · split_ifs
          · exact wrap_of_lt (by omega)
          · rfl
      have next := @ih (tally.add qos)
      rw [added] at next
      rw [List.foldl_cons, added, next]
      · simp only [depthSum, List.countP_cons, decide_eq_true_eq, Tally.mk.injEq]
        omega
      · dsimp only
        split_ifs <;> omega
      · dsimp only
        split_ifs <;> omega
      · dsimp only
        omega

theorem all_counted_iff (publisherInfo : List QoS) (counts : QoS → Bool) :
    (!publisherInfo.isEmpty && decide (publisherInfo.countP counts = publisherInfo.length)) = true ↔
      publisherInfo ≠ [] ∧ ∀ qos ∈ publisherInfo, counts qos = true := by
  rw [Bool.and_eq_true, Bool.not_eq_true', List.isEmpty_eq_false_iff, decide_eq_true_eq, List.countP_eq_length]

end Loop

section Policies

variable {options : QosOptions} {topicName : String} {publisherInfo : List QoS}

theorem tally_eq (small : depthSum publisherInfo < 18446744073709551616) :
    publisherInfo.foldl Tally.add {} =
      { depth := depthSum publisherInfo
        reliableCount := publisherInfo.countP fun qos => qos.reliability = .reliable
        transientLocalCount := publisherInfo.countP fun qos => qos.durability = .transientLocal } := by
  have counted := @foldl_add publisherInfo {} (Nat.le_refl 0) (Nat.le_refl 0) (by simpa using small)
  simpa using counted

theorem reliable_iff (small : depthSum publisherInfo < 18446744073709551616) :
    (determineQoS options topicName publisherInfo).reliability = .reliable ↔
      publisherInfo ≠ [] ∧ (∀ qos ∈ publisherInfo, qos.reliability = .reliable) ∧
        bestEffortForced options topicName = false := by
  have counted := all_counted_iff publisherInfo fun qos => qos.reliability = .reliable
  simp only [decide_eq_true_eq] at counted
  simp only [determineQoS, tally_eq small]
  cases forced : bestEffortForced options topicName with
  | true => simp
  | false =>
      rw [if_neg Bool.false_ne_true]
      split_ifs with every
      · have allReliable := counted.mp every
        exact iff_of_true rfl ⟨allReliable.1, allReliable.2, rfl⟩
      · rw [counted] at every
        exact iff_of_false nofun fun all => every ⟨all.1, all.2.1⟩

theorem transientLocal_iff (small : depthSum publisherInfo < 18446744073709551616) :
    (determineQoS options topicName publisherInfo).durability = .transientLocal ↔
      publisherInfo ≠ [] ∧ ∀ qos ∈ publisherInfo, qos.durability = .transientLocal := by
  have counted := all_counted_iff publisherInfo fun qos => qos.durability = .transientLocal
  simp only [decide_eq_true_eq] at counted
  simp only [determineQoS, tally_eq small]
  split_ifs with every
  · exact iff_of_true rfl (counted.mp every)
  · rw [counted] at every
    exact iff_of_false nofun every

theorem ReliabilityPolicy.strength_pos {policy : ReliabilityPolicy} : 0 < policy.strength ↔ policy = .reliable := by
  cases policy <;> decide

theorem DurabilityPolicy.strength_pos {policy : DurabilityPolicy} :
    0 < policy.strength ↔ policy = .transientLocal := by
  cases policy <;> decide

theorem ReliabilityPolicy.strength_le {weaker stronger : ReliabilityPolicy}
    (implied : weaker = .reliable → stronger = .reliable) : weaker.strength ≤ stronger.strength := by
  cases weaker with
  | reliable => exact Nat.le_of_eq (congrArg strength (implied rfl).symm)
  | _ => exact Nat.zero_le _

theorem DurabilityPolicy.strength_le {weaker stronger : DurabilityPolicy}
    (implied : weaker = .transientLocal → stronger = .transientLocal) : weaker.strength ≤ stronger.strength := by
  cases weaker with
  | transientLocal => exact Nat.le_of_eq (congrArg strength (implied rfl).symm)
  | _ => exact Nat.zero_le _

theorem determined_compatible (small : depthSum publisherInfo < 18446744073709551616) {qos : QoS}
    (member : qos ∈ publisherInfo) : qos.Compatible (determineQoS options topicName publisherInfo) where
  reliability := ReliabilityPolicy.strength_le fun reliable => ((reliable_iff small).mp reliable).2.1 qos member
  durability := DurabilityPolicy.strength_le fun kept => ((transientLocal_iff small).mp kept).2 qos member
  deadline := nofun
  liveliness := Nat.zero_le _
  lease := nofun

/-- With a publisher to match, no policy could be stronger, but for a reliability that is
forced to best effort. -/
theorem determined_strongest (small : depthSum publisherInfo < 18446744073709551616) (published : publisherInfo ≠ [])
    {requested : QoS} (compatible : ∀ qos ∈ publisherInfo, qos.Compatible requested) :
    (bestEffortForced options topicName = false →
      requested.reliability.strength ≤ (determineQoS options topicName publisherInfo).reliability.strength) ∧
    requested.durability.strength ≤ (determineQoS options topicName publisherInfo).durability.strength := by
  constructor
  · intro free
    refine ReliabilityPolicy.strength_le fun reliable => (reliable_iff small).mpr ⟨published, ?_, free⟩
    intro qos member
    have rule := (compatible qos member).reliability
    rw [reliable] at rule
    exact ReliabilityPolicy.strength_pos.mp rule
  · refine DurabilityPolicy.strength_le fun kept => (transientLocal_iff small).mpr ⟨published, ?_⟩
    intro qos member
    have rule := (compatible qos member).durability
    rw [kept] at rule
    exact DurabilityPolicy.strength_pos.mp rule

theorem determined_depth (small : depthSum publisherInfo < 18446744073709551616)
    (ordered : options.minQosDepth ≤ options.maxQosDepth) :
    (determineQoS options topicName publisherInfo).depth =
      max options.minQosDepth (min (depthSum publisherInfo) options.maxQosDepth) := by
  simp only [determineQoS, tally_eq small, clampDepth]
  split_ifs <;> omega

end Policies

/-- The determined quality of service matches every publisher, is as strong as they allow
where there are any, and keeps as many samples as they do within the configured bounds. -/
theorem determineQoS_spec (options : QosOptions) (topicName : String) (publisherInfo : List QoS)
    (small : depthSum publisherInfo < 18446744073709551616)
    (ordered : options.minQosDepth ≤ options.maxQosDepth) :
    (∀ qos ∈ publisherInfo, qos.Compatible (determineQoS options topicName publisherInfo)) ∧
    ((determineQoS options topicName publisherInfo).reliability = .reliable ↔
      publisherInfo ≠ [] ∧ (∀ qos ∈ publisherInfo, qos.reliability = .reliable) ∧
        bestEffortForced options topicName = false) ∧
    ((determineQoS options topicName publisherInfo).durability = .transientLocal ↔
      publisherInfo ≠ [] ∧ ∀ qos ∈ publisherInfo, qos.durability = .transientLocal) ∧
    (publisherInfo ≠ [] → ∀ requested : QoS, (∀ qos ∈ publisherInfo, qos.Compatible requested) →
      (bestEffortForced options topicName = false →
        requested.reliability.strength ≤ (determineQoS options topicName publisherInfo).reliability.strength) ∧
      requested.durability.strength ≤ (determineQoS options topicName publisherInfo).durability.strength) ∧
    (determineQoS options topicName publisherInfo).depth =
      max options.minQosDepth (min (depthSum publisherInfo) options.maxQosDepth) :=
  ⟨fun _ member => determined_compatible small member, reliable_iff small, transientLocal_iff small,
    fun published _ compatible => determined_strongest small published compatible, determined_depth small ordered⟩

/-- Two reliable publishers, one of which keeps what it sent, and room for both. -/
theorem determineQoS_two_publishers :
    determineQoS {} "/map" [{ depth := 10, durability := .transientLocal }, { depth := 0 }] =
        { depth := 11 } ∧
      (determineQoS {} "/map" [{ depth := 10, durability := .transientLocal }, { depth := 0 }]).depth =
        max 1 (min (depthSum [{ depth := 10, durability := .transientLocal }, { depth := 0 }]) 25) :=
  ⟨rfl, (determineQoS_spec {} "/map" _ (by decide) (by decide)).2.2.2.2⟩

/-- Without a publisher a reliable subscription would do as well, and is not made. -/
theorem unpublished_topic_best_effort :
    (∀ qos ∈ ([] : List QoS), qos.Compatible { depth := 1, reliability := .reliable }) ∧
      bestEffortForced {} "/map" = false ∧
      ¬ (ReliabilityPolicy.reliable.strength ≤ (determineQoS {} "/map" []).reliability.strength) :=
  ⟨nofun, rfl, by decide⟩

end RosPortal.Outbound
