import RosPortal.Outbound.Expiry

/-! The tables refine the list of subscriptions that the discovery worker maintains: each
operation of the forwarder does to that list what it does to the tables. -/

set_option autoImplicit false

namespace RosPortal.Outbound

open Portal

def OutboundSubscription.listed (topicName : String) (subscription : OutboundSubscription) :
    Discovery.OutboundSubscription where
  topicName
  topicType := subscription.topicType
  publishersAbsentSince := subscription.publishersAbsentSince

/-- The list has the subscriptions of the tables, in whatever order. -/
def Refines (tables : Tables) (ros : Discovery.Ros) : Prop :=
  ∀ entry, entry ∈ ros.subscriptions ↔
    ∃ subscription, tables.subscriptions.lookup entry.topicName = some subscription ∧
      subscription.listed entry.topicName = entry

section Operations

variable {options : Options} {tables : Tables} {ros : Discovery.Ros}

theorem Refines.subscribed (refines : Refines tables ros) (topicName : String) :
    ros.subscribed topicName = tables.subscribed topicName := by
  rw [Bool.eq_iff_iff, Discovery.Ros.subscribed, List.any_eq_true, Tables.subscribed, Option.isSome_iff_exists]
  constructor
  · rintro ⟨entry, member, named⟩
    obtain ⟨subscription, known, _⟩ := (refines entry).mp member
    exact ⟨subscription, of_decide_eq_true named ▸ known⟩
  · rintro ⟨subscription, known⟩
    exact ⟨subscription.listed topicName, (refines _).mpr ⟨subscription, known, rfl⟩, decide_eq_true rfl⟩

theorem markAbsent_refines (refines : Refines tables ros) :
    Refines (tables.markAbsent ros.now ros.publisherCount) ros.markAbsent := by
  intro entry
  have marked : (tables.markAbsent ros.now ros.publisherCount).subscriptions.lookup entry.topicName =
      (tables.subscriptions.lookup entry.topicName).map fun subscription =>
        subscription.mark ros.now (ros.publisherCount entry.topicName) :=
    congrArg Topic.subscription (topic_markAbsent tables ros.now ros.publisherCount entry.topicName)
  rw [marked, Discovery.Ros.markAbsent, List.mem_map]
  constructor
  · rintro ⟨before, member, rfl⟩
    obtain ⟨subscription, known, same⟩ := (refines before).mp member
    refine ⟨subscription.mark ros.now (ros.publisherCount before.topicName), by rw [known]; rfl, ?_⟩
    rw [← same]
    rfl
  · rintro ⟨_, known, same⟩
    obtain ⟨subscription, before, rfl⟩ := Option.map_eq_some_iff.mp known
    refine ⟨subscription.listed entry.topicName, (refines _).mpr ⟨subscription, before, rfl⟩, ?_⟩
    rw [← same]
    rfl

/-- Reaping leaves the same of an entry as of the subscription. -/
theorem reapSubscription_listed (topicName : String) (subscription : OutboundSubscription) :
    ros.reapSubscription options.toOptions (subscription.listed topicName) =
      (subscription.reap ros.now (ros.publisherCount topicName) options.inactiveSubscriptionGrace).map
        (OutboundSubscription.listed topicName) := by
  obtain ⟨handle, absentSince, topicType, observed⟩ := subscription
  cases absentSince with
  | none => rfl
  | some since =>
      change (if 0 < ros.publisherCount topicName then _
        else if ros.now - since < options.inactiveSubscriptionGrace then _ else _) =
          Option.map _ (if 0 < ros.publisherCount topicName then _
            else if ros.now - since < options.inactiveSubscriptionGrace then _ else _)
      by_cases present : 0 < ros.publisherCount topicName
      · rw [if_pos present, if_pos present]
        rfl
      · by_cases early : ros.now - since < options.inactiveSubscriptionGrace
        · rw [if_neg present, if_pos early, if_neg present, if_pos early]
          rfl
        · rw [if_neg present, if_neg early, if_neg present, if_neg early]
          rfl

theorem reapExpiredSubscriptions_refines (refines : Refines tables ros) :
    Refines (tables.reapExpiredSubscriptions options ros.now ros.publisherCount).1
      (ros.reapExpiredSubscriptions options.toOptions) := by
  intro entry
  rw [reapExpiredSubscriptions_lookup, Discovery.Ros.reapExpiredSubscriptions, List.mem_filterMap]
  constructor
  · rintro ⟨before, member, left⟩
    obtain ⟨subscription, known, same⟩ := (refines before).mp member
    rw [← same, reapSubscription_listed] at left
    obtain ⟨kept, reaped, rfl⟩ := Option.map_eq_some_iff.mp left
    exact ⟨kept, Option.bind_eq_some_iff.mpr ⟨subscription, known, reaped⟩, rfl⟩
  · rintro ⟨kept, known, same⟩
    obtain ⟨subscription, before, reaped⟩ := Option.bind_eq_some_iff.mp known
    refine ⟨subscription.listed entry.topicName, (refines _).mpr ⟨subscription, before, rfl⟩, ?_⟩
    rw [reapSubscription_listed, reaped, Option.map_some, same]

/-- A subscription that is made is new and of the type it is made for. -/
theorem createSubscriber_created (options : Options) {topicName : String} (topicType : String)
    (absent : tables.subscribed topicName = false) :
    ∃ subscription : OutboundSubscription,
      subscription.publishersAbsentSince = none ∧ subscription.topicType = topicType ∧
      (tables.createSubscriber options topicName topicType .created).subscriptions =
        tables.subscriptions.insert topicName subscription := by
  unfold Tables.createSubscriber
  cases chosen : subscriberFor topicType with
  | image =>
      have image : kImageMsgType = topicType := by
        unfold subscriberFor at chosen
        split_ifs at chosen with same
        exact same.symm
      refine ⟨{ handle := .image, topicType := kImageMsgType }, rfl, image, ?_⟩
      simp [Tables.subscribeVideoTopic, absent]
  | compressedImage =>
      have compressed : kCompressedImageMsgType = topicType := by
        unfold subscriberFor at chosen
        split_ifs at chosen with _ same
        exact same.symm
      refine ⟨{ handle := .compressedImage, topicType := kCompressedImageMsgType }, rfl, compressed, ?_⟩
      simp [Tables.subscribeVideoTopic, absent]
  | data typeName =>
      refine ⟨{ handle := .data topicType, topicType }, rfl, rfl, ?_⟩
      simp [Tables.createDataSubscriber, absent]

theorem insert_refines {next : Tables} {topicName topicType : String} {subscription : OutboundSubscription}
    (refines : Refines tables ros) (absent : tables.subscribed topicName = false)
    (unmarked : subscription.publishersAbsentSince = none) (typed : subscription.topicType = topicType)
    (inserted : next.subscriptions = tables.subscriptions.insert topicName subscription) :
    Refines next { ros with subscriptions := { topicName, topicType } :: ros.subscriptions } := by
  have entered : subscription.listed topicName = { topicName, topicType } := by
    simp [OutboundSubscription.listed, unmarked, typed]
  intro entry
  rw [inserted, List.mem_cons]
  by_cases here : entry.topicName = topicName
  · have nothing : entry ∉ ros.subscriptions := by
      intro member
      obtain ⟨earlier, known, _⟩ := (refines entry).mp member
      rw [here] at known
      cases (subscribed_eq_false_iff.mp absent).symm.trans known
    rw [here, AList.lookup_insert, or_iff_left nothing]
    simp only [Option.some.injEq, exists_eq_left', entered]
    exact eq_comm
  · rw [AList.lookup_insert_ne here, ← refines entry, or_iff_right]
    rintro rfl
    exact here rfl

/-- Where making subscriptions succeeds, an entry of the snapshot is treated alike. -/
theorem wanted_refines (options : Options) (refines : Refines tables ros) (entry : String × List String) :
    Refines ((tables.wanted options entry).elim tables fun topicType =>
        tables.createSubscriber options entry.1 topicType .created)
      (ros.reconcileTopic options.toOptions entry) := by
  unfold Tables.wanted Discovery.Ros.reconcileTopic
  rw [refines.subscribed]
  cases known : tables.subscribed entry.1 with
  | true => exact refines
  | false =>
      simp only [Bool.false_eq_true, if_false]
      split_ifs
      · exact refines
      · cases types : entry.2 with
        | nil => exact refines
        | cons topicType rest =>
            obtain ⟨subscription, unmarked, typed, inserted⟩ :=
              createSubscriber_created options topicType known
            exact insert_refines refines known unmarked typed inserted

theorem reconcileEntries_refines (entries : List (String × List String)) (refines : Refines tables ros) :
    Refines (tables.reconcileEntries options (fun _ => .created) entries)
      (entries.foldl (Discovery.Ros.reconcileTopic options.toOptions) ros) := by
  induction entries generalizing tables ros with
  | nil => exact refines
  | cons entry entries ih =>
      have treated := wanted_refines options refines entry
      rw [Tables.reconcileEntries, List.foldl_cons]
      cases wanted : tables.wanted options entry with
      | none =>
          rw [wanted] at treated
          exact ih treated
      | some topicType =>
          rw [wanted] at treated
          exact ih treated

/-- Where making subscriptions succeeds, the discovery worker's view of the forwarder is kept. -/
theorem reconcileTopics_refines (topics : TopicNamesAndTypes) (refines : Refines tables ros) :
    Refines (tables.reconcileTopics options ros.now ros.publisherCount (fun _ => .created) topics)
      (ros.reconcileTopics options.toOptions topics) :=
  reconcileEntries_refines topics.entries (markAbsent_refines refines)

end Operations

end RosPortal.Outbound
