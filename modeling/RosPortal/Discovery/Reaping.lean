import RosPortal.Discovery.Recovery
import RosPortal.Discovery.Subscriptions

/-! Unmatched subscriptions and reappearing topics. Reconciling marks and makes what it
should, but the shortcut compares names and types only, and the portal's own subscription
keeps a topic in them whose publishers have gone. -/

set_option autoImplicit false

namespace RosPortal.Discovery

open Interleaving Portal

/-- The snapshot has every topic that a publisher of another node is on. -/
def Ros.Covered (ros : Ros) (topics : TopicNamesAndTypes) : Prop :=
  ∀ publisher ∈ ros.publishers, ∃ types, (publisher.topicName, types) ∈ topics.entries ∧ types ≠ []

theorem namesAndTypes_lists {endpoints : List (String × String)} {endpoint : String × String}
    (member : endpoint ∈ endpoints) :
    ∃ types, (endpoint.1, types) ∈ (namesAndTypes endpoints).entries ∧ types ≠ [] := by
  refine ⟨_, List.mem_map.mpr ⟨endpoint.1, ?_, rfl⟩, ?_⟩
  · rw [List.mem_insertionSort, List.mem_dedup]
    exact List.mem_map_of_mem member
  · apply List.ne_nil_of_mem
    rw [List.mem_insertionSort, List.mem_dedup]
    exact List.mem_map_of_mem (List.mem_filter.mpr ⟨member, decide_eq_true rfl⟩)

theorem Ros.covered_graph (ros : Ros) : ros.Covered ros.topicNamesAndTypes := by
  intro publisher member
  apply @namesAndTypes_lists _ (publisher.topicName, publisher.topicType)
  simp only [List.mem_append, List.mem_map]
  exact .inl (.inl ⟨publisher, member, rfl⟩)

namespace Ros

variable {options : ForwarderOptions} {ros : Ros} {entry : String × List String} {topicName : String}

@[simp] theorem publisherCount_markAbsent : ros.markAbsent.publisherCount topicName = ros.publisherCount topicName :=
  rfl

@[simp] theorem subscribed_markAbsent : ros.markAbsent.subscribed topicName = ros.subscribed topicName := by
  simp [subscribed, markAbsent, List.any_map, Function.comp_def]

theorem markAbsent_marked : ros.markAbsent.AbsenceMarked := by
  intro subscription member unmatched
  obtain ⟨earlier, _, rfl⟩ := List.mem_map.mp member
  have absent : ros.publisherCount earlier.topicName = 0 := unmatched
  simp [absent]

theorem reconcileTopic_cases (options : ForwarderOptions) (ros : Ros) (entry : String × List String) :
    (reconcileTopic options ros entry = ros ∧
      (ros.subscribed entry.1 = true ∨ options.forwardsTopic entry.1 = false ∨ entry.2 = [])) ∨
    ∃ topicType, ros.subscribed entry.1 = false ∧ options.forwardsTopic entry.1 = true ∧ entry.2 ≠ [] ∧
      reconcileTopic options ros entry = { ros with
        subscriptions := { topicName := entry.1, topicType := topicType } :: ros.subscriptions } := by
  obtain ⟨name, types⟩ := entry
  unfold reconcileTopic
  by_cases held : ros.subscribed name = true
  · exact .inl ⟨by simp [held], .inl held⟩
  · rw [if_neg held]
    by_cases ignored : (!matchesAnyPattern name options.outgoingTopicPatterns || isRmwBufferTopic name) = true
    · rw [if_pos ignored]
      refine .inl ⟨rfl, .inr (.inl ?_)⟩
      have negated : options.forwardsTopic name = !(!matchesAnyPattern name options.outgoingTopicPatterns ||
          isRmwBufferTopic name) := by
        simp [ForwarderOptions.forwardsTopic]
      rw [negated, ignored]
      rfl
    · rw [if_neg ignored]
      cases types with
      | nil => exact .inl ⟨rfl, .inr (.inr rfl)⟩
      | cons topicType types =>
          refine .inr ⟨topicType, Bool.not_eq_true _ ▸ held, ?_, List.cons_ne_nil _ _, rfl⟩
          simpa [ForwarderOptions.forwardsTopic] using ignored

theorem reconcileTopic_publishers : (reconcileTopic options ros entry).publishers = ros.publishers := by
  rcases reconcileTopic_cases options ros entry with ⟨same, _⟩ | ⟨_, _, _, _, same⟩
  all_goals rw [same]

theorem reconcileTopic_keeps (held : ros.subscribed topicName = true) :
    (reconcileTopic options ros entry).subscribed topicName = true := by
  rcases reconcileTopic_cases options ros entry with ⟨same, _⟩ | ⟨_, _, _, _, same⟩
  · rw [same]
    exact held
  · rw [same]
    exact Bool.or_eq_true_iff.mpr (.inr held)

theorem reconcileTopic_subscribes (wanted : options.forwardsTopic entry.1 = true) (typed : entry.2 ≠ []) :
    (reconcileTopic options ros entry).subscribed entry.1 = true := by
  rcases reconcileTopic_cases options ros entry with ⟨same, held | unwanted | untyped⟩ | ⟨_, _, _, _, same⟩
  · rw [same]
    exact held
  · rw [wanted] at unwanted
    cases unwanted
  · exact absurd untyped typed
  · rw [same]
    simp [subscribed]

theorem foldl_publishers (entries : List (String × List String)) (ros : Ros) :
    (entries.foldl (reconcileTopic options) ros).publishers = ros.publishers := by
  induction entries generalizing ros with
  | nil => rfl
  | cons entry entries ih => exact (ih _).trans reconcileTopic_publishers

theorem foldl_keeps (entries : List (String × List String)) {ros : Ros}
    (held : ros.subscribed topicName = true) :
    (entries.foldl (reconcileTopic options) ros).subscribed topicName = true := by
  induction entries generalizing ros with
  | nil => exact held
  | cons entry entries ih => exact ih (reconcileTopic_keeps held)

theorem foldl_subscribes {entries : List (String × List String)} (ros : Ros) (listed : entry ∈ entries)
    (wanted : options.forwardsTopic entry.1 = true) (typed : entry.2 ≠ []) :
    (entries.foldl (reconcileTopic options) ros).subscribed entry.1 = true := by
  induction entries generalizing ros with
  | nil => cases listed
  | cons first entries ih =>
      rcases List.mem_cons.mp listed with rfl | later
      · exact foldl_keeps entries (reconcileTopic_subscribes wanted typed)
      · exact ih _ later

theorem foldl_made {entries : List (String × List String)} {ros : Ros} {subscription : OutboundSubscription}
    (member : subscription ∈ (entries.foldl (reconcileTopic options) ros).subscriptions) :
    subscription ∈ ros.subscriptions ∨
      ∃ entry ∈ entries, subscription.topicName = entry.1 ∧ subscription.publishersAbsentSince = none ∧
        entry.2 ≠ [] ∧ options.forwardsTopic entry.1 = true ∧ ros.subscribed entry.1 = false := by
  induction entries generalizing ros with
  | nil => exact .inl member
  | cons first entries ih =>
      rcases ih member with earlier | ⟨entry, listed, named, unmarked, typed, wanted, unsubscribed⟩
      · rcases reconcileTopic_cases options ros first with ⟨same, _⟩ | ⟨_, unsubscribed, wanted, typed, same⟩
        · rw [same] at earlier
          exact .inl earlier
        · rw [same] at earlier
          rcases List.mem_cons.mp earlier with rfl | there
          · exact .inr ⟨first, List.mem_cons_self, rfl, rfl, typed, wanted, unsubscribed⟩
          · exact .inl there
      · refine .inr ⟨entry, List.mem_cons_of_mem _ listed, named, unmarked, typed, wanted, ?_⟩
        cases held : ros.subscribed entry.1 with
        | false => rfl
        | true => exact absurd (unsubscribed.symm.trans (reconcileTopic_keeps held)) Bool.false_ne_true

theorem publisherCount_congr {other : Ros} (same : other.publishers = ros.publishers) :
    other.publisherCount topicName = ros.publisherCount topicName := by
  unfold publisherCount
  rw [same]

theorem publisherCount_pos {publisher : Publisher} (present : publisher ∈ ros.publishers)
    (matching : publisher.matching = true) : 0 < ros.publisherCount publisher.topicName := by
  apply List.length_pos_of_mem
  exact List.mem_filter.mpr ⟨present, by simp [matching]⟩

@[simp] theorem reconcileTopics_publishers (topics : TopicNamesAndTypes) :
    (ros.reconcileTopics options topics).publishers = ros.publishers :=
  foldl_publishers topics.entries ros.markAbsent

/-- Reconciling marks every subscription that nothing publishes to, if it makes none such. -/
theorem reconcileTopics_marked {topics : TopicNamesAndTypes}
    (matched : ∀ entry ∈ topics.entries, entry.2 ≠ [] → options.forwardsTopic entry.1 = true →
      ros.subscribed entry.1 = false → ros.publisherCount entry.1 ≠ 0) :
    (ros.reconcileTopics options topics).AbsenceMarked := by
  intro subscription member unmatched
  rw [publisherCount_congr (reconcileTopics_publishers topics)] at unmatched
  rcases foldl_made member with earlier | ⟨entry, listed, named, _, typed, wanted, unsubscribed⟩
  · exact markAbsent_marked subscription earlier unmatched
  · rw [subscribed_markAbsent] at unsubscribed
    rw [named] at unmatched
    exact absurd unmatched (matched entry listed typed wanted unsubscribed)

/-- Reconciling a snapshot that has every published topic subscribes all that are forwarded. -/
theorem reconcileTopics_subscribed {topics : TopicNamesAndTypes} (covered : ros.Covered topics) :
    (ros.reconcileTopics options topics).Subscribed options := by
  intro publisher present _ wanted
  rw [reconcileTopics_publishers] at present
  obtain ⟨types, listed, typed⟩ := covered publisher present
  exact foldl_subscribes ros.markAbsent listed wanted typed

theorem reapSubscription_cases {before after : OutboundSubscription}
    (kept : ros.reapSubscription options before = some after) :
    after.topicName = before.topicName ∧
      (after.publishersAbsentSince = none ∧
          (before.publishersAbsentSince = none ∨ 0 < ros.publisherCount before.topicName) ∨
        ∃ since, after = before ∧ before.publishersAbsentSince = some since ∧
          ros.now < since + options.inactiveSubscriptionGrace) := by
  unfold reapSubscription at kept
  split at kept
  · cases kept
    exact ⟨rfl, .inl ⟨‹_›, .inl ‹_›⟩⟩
  · rename_i since marked
    split at kept
    · cases kept
      exact ⟨rfl, .inl ⟨rfl, .inr ‹_›⟩⟩
    · split at kept
      · cases kept
        exact ⟨rfl, .inr ⟨since, rfl, marked, by omega⟩⟩
      · cases kept

theorem reapSubscription_matched {before : OutboundSubscription}
    (matched : 0 < ros.publisherCount before.topicName) :
    ∃ after, ros.reapSubscription options before = some after := by
  unfold reapSubscription
  split
  · exact ⟨_, rfl⟩
  · rw [if_pos matched]
    exact ⟨_, rfl⟩

theorem reapExpiredSubscriptions_marked (marked : ros.AbsenceMarked) :
    (ros.reapExpiredSubscriptions options).AbsenceMarked := by
  intro subscription member unmatched
  obtain ⟨earlier, present, kept⟩ := List.mem_filterMap.mp member
  obtain ⟨named, ⟨_, unmarked | matched⟩ | ⟨since, rfl, absent, _⟩⟩ := reapSubscription_cases kept
  · have absent : ros.publisherCount earlier.topicName = 0 := named ▸ unmatched
    have held := marked earlier present absent
    rw [unmarked] at held
    cases held
  · have absent : ros.publisherCount earlier.topicName = 0 := named ▸ unmatched
    omega
  · rw [absent]
    rfl

theorem reapExpiredSubscriptions_subscribed (subscribed : ros.Subscribed options) :
    (ros.reapExpiredSubscriptions options).Subscribed options := by
  intro publisher present matching wanted
  obtain ⟨subscription, member, named⟩ := List.any_eq_true.mp (subscribed publisher present matching wanted)
  have same : subscription.topicName = publisher.topicName := of_decide_eq_true named
  have matched : 0 < ros.publisherCount subscription.topicName := same ▸ publisherCount_pos present matching
  obtain ⟨after, kept⟩ := @reapSubscription_matched options _ _ matched
  apply List.any_eq_true.mpr
  refine ⟨after, List.mem_filterMap.mpr ⟨subscription, member, kept⟩, ?_⟩
  exact decide_eq_true ((reapSubscription_cases kept).1.trans same)

theorem reapExpiredSubscriptions_reaped :
    ((ros.reapExpiredSubscriptions options).noteLook ros true).Reaped options := by
  intro reaped last subscription member since marked
  have now : reaped = ros.now := (Option.some.inj last).symm
  obtain ⟨earlier, _, kept⟩ := List.mem_filterMap.mp member
  rcases (reapSubscription_cases kept).2 with ⟨unmarked, _⟩ | ⟨found, rfl, absent, early⟩
  · rw [unmarked] at marked
    cases marked
  · rw [absent] at marked
    cases marked
    rw [now]
    exact early

end Ros

section Looks

variable {options : ForwarderOptions} {ros : Ros} {topicName : String}

@[simp] theorem Ros.look_matched (reaping : Bool) :
    (ros.look reaping).matched topicName = true ↔ ros.publisherCount topicName ≠ 0 := by
  simp [Look.matched, Ros.look, Ros.publisherCount, List.any_eq_true]

theorem Ros.mem_look_subscribed (reaping : Bool) :
    topicName ∈ (ros.look reaping).subscribed ↔ ros.subscribed topicName = true := by
  simp [Ros.look, Ros.subscribed, List.any_eq_true]

theorem unmatchedSince_eq (topicName : String) (looks : List Look) :
    unmatchedSince topicName looks = (absentSince topicName looks).isSome := by
  induction looks with
  | nil => rfl
  | cons look earlier ih =>
      rw [unmatchedSince, absentSince, ih]
      cases look.matched topicName with
      | true => rfl
      | false =>
          cases look.reaping with
          | true => rfl
          | false => by_cases subscribed : topicName ∈ look.subscribed <;> simp [subscribed]

/-- What the looks say of the subscriptions: since when each is without publishers, and which topics
of the snapshot last reconciled are subscribed still. -/
structure Ros.Tracked (options : ForwarderOptions) (last : Option TopicNamesAndTypes) (ros : Ros) : Prop where
  marks : ∀ subscription ∈ ros.subscriptions,
    subscription.publishersAbsentSince = absentSince subscription.topicName ros.looks
  subscribed : ∀ topics ∈ last, ∀ entry ∈ topics.entries, entry.2 ≠ [] → options.forwardsTopic entry.1 = true →
    ros.subscribed entry.1 = unexpiredSince options entry.1 ros.looks

theorem Ros.Tracked.reconcile {last : Option TopicNamesAndTypes} (tracked : ros.Tracked options last)
    (topics : TopicNamesAndTypes) :
    ((ros.reconcileTopics options topics).noteLook ros false).Tracked options (some topics) := by
  constructor
  · intro subscription member
    have since : ∀ name, absentSince name (ros.look false :: ros.looks) =
        if ros.publisherCount name ≠ 0 then none
        else if ros.subscribed name = true then some ((absentSince name ros.looks).getD ros.now) else none := by
      intro name
      simp only [absentSince, Ros.look_matched, Ros.mem_look_subscribed]
      rfl
    change _ = absentSince subscription.topicName (ros.look false :: ros.looks)
    rw [since]
    rcases Ros.foldl_made member with earlier | ⟨entry, _, named, unmarked, _, _, unsubscribed⟩
    · obtain ⟨before, present, rfl⟩ := List.mem_map.mp earlier
      have held : ros.subscribed before.topicName = true := List.any_eq_true.mpr ⟨before, present, decide_eq_true rfl⟩
      by_cases unmatched : ros.publisherCount before.topicName = 0
      · simp [unmatched, held, tracked.marks before present]
      · simp [unmatched]
    · rw [Ros.subscribed_markAbsent, ← named] at unsubscribed
      simp [unmarked, unsubscribed]
  · rintro _ ⟨⟩ entry listed typed wanted
    exact Ros.foldl_subscribes ros.markAbsent listed wanted typed

theorem Ros.reapSubscription_eq (subscription : OutboundSubscription) :
    ros.reapSubscription options subscription =
      if ros.publisherCount subscription.topicName ≠ 0 ∨
          ∀ since ∈ subscription.publishersAbsentSince, ros.now - since < options.inactiveSubscriptionGrace then
        some { subscription with
          publishersAbsentSince :=
            if ros.publisherCount subscription.topicName ≠ 0 then none else subscription.publishersAbsentSince }
      else none := by
  obtain ⟨name, type, mark⟩ := subscription
  unfold Ros.reapSubscription
  cases mark with
  | none => simp
  | some since =>
      by_cases matched : ros.publisherCount name = 0
      · by_cases early : ros.now - since < options.inactiveSubscriptionGrace <;> simp [matched, early]
      · simp [matched, Nat.pos_of_ne_zero matched]

theorem Ros.Tracked.reap {last : Option TopicNamesAndTypes} (tracked : ros.Tracked options last) :
    ((ros.reapExpiredSubscriptions options).noteLook ros true).Tracked options last := by
  constructor
  · intro subscription member
    have since : absentSince subscription.topicName (ros.look true :: ros.looks) =
        if ros.publisherCount subscription.topicName ≠ 0 then none
        else absentSince subscription.topicName ros.looks := by
      simp only [absentSince, Ros.look_matched]
      rfl
    change _ = absentSince subscription.topicName (ros.look true :: ros.looks)
    obtain ⟨before, present, kept⟩ := List.mem_filterMap.mp member
    rw [Ros.reapSubscription_eq, Option.ite_none_right_eq_some] at kept
    obtain ⟨_, same⟩ := kept
    cases same
    rw [since, ← tracked.marks before present]
  · intro topics same entry listed typed wanted
    have before := tracked.subscribed topics same entry listed typed wanted
    change (ros.reapExpiredSubscriptions options).subscribed entry.1 =
      unexpiredSince options entry.1 (ros.look true :: ros.looks)
    rw [Bool.eq_iff_iff, unexpiredSince, ← before]
    simp only [Ros.subscribed, Ros.reapExpiredSubscriptions, List.any_eq_true, List.mem_filterMap, Ros.reapSubscription_eq,
      Option.ite_none_right_eq_some, Option.some.injEq, decide_eq_true_eq, Bool.or_eq_true, Bool.and_eq_true,
      Ros.look_matched, Option.all_eq_true]
    constructor
    · rintro ⟨_, ⟨subscription, present, kept, rfl⟩, named⟩
      refine .inr ⟨⟨subscription, present, named⟩, ?_⟩
      rw [tracked.marks subscription present] at kept
      exact named ▸ kept
    · rintro (impossible | ⟨⟨subscription, present, named⟩, kept⟩)
      · cases impossible
      · rw [← named, ← tracked.marks subscription present] at kept
        exact ⟨_, ⟨subscription, present, kept, rfl⟩, named⟩

end Looks

def Control.recording : Control TopicNamesAndTypes → Option TopicNamesAndTypes
  | .record _ taken => some taken
  | .topics _ | .compare _ _ | .reconcile _ _ | .wait | .settle | .invalidate | .reap => none

/-- The looks say what became of the subscriptions for the snapshot last reconciled, which the worker may
have yet to record. -/
def Tracking (options : ForwarderOptions) (state : ForwarderState) : Prop :=
  state.world.Tracked options (state.worker.recording.or state.manager.lastReconciledTopics)

/-- With all events handled, the worker's snapshot has every published topic, and what it
has reconciled is as it should be. -/
def Ros.Attended (options : ForwarderOptions) (ros : Ros) (cached : Option TopicNamesAndTypes) :
    Control TopicNamesAndTypes → Prop
  | .topics _ => ∀ topics ∈ cached, ros.Covered topics
  | .compare _ taken | .reconcile _ taken => ros.Covered taken
  | .record _ _ | .wait | .reap => ros.AbsenceMarked ∧ ros.Subscribed options
  | .settle | .invalidate => True

structure Attending (options : ForwarderOptions) (state : ForwarderState) : Prop where
  attended : state.manager.event = false → state.world.Attended options state.manager.topics state.worker
  reaped : state.worker = .wait → state.world.Reaped options
  first : state.worker.first = true → state.world.lastReap = none

theorem attending_initial (options : ForwarderOptions) (publishers : List Publisher)
    (subscribers : List (String × String)) (now : Int) :
    Attending options (initial { publishers, subscribers, now }) := by
  constructor
  · intro _ topics cached
    cases cached
  · intro waiting
    cases waiting
  · intro _
    rfl

/-- Inside the loop and past the wait, only what the worker has attended to is in question. -/
theorem Attending.inside {options : ForwarderOptions} {state : ForwarderState}
    (busy : state.worker ≠ .wait) (looping : state.worker.first = false)
    (attended : state.manager.event = false →
      state.world.Attended options state.manager.topics state.worker) : Attending options state where
  attended := attended
  reaped := fun waiting => absurd waiting busy
  first := fun first => by simp [looping] at first

section Step

variable {options : ForwarderOptions} {state : ForwarderState}

theorem attended_afterPass {ros : Ros} {cached : Option TopicNamesAndTypes} (looping : Bool)
    (marked : ros.AbsenceMarked) (subscribed : ros.Subscribed options) :
    ros.Attended options cached (afterPass looping) := by
  cases looping <;> exact ⟨marked, subscribed⟩

theorem reaped_of_none {ros : Ros} (none : ros.lastReap = none) : ros.Reaped options := by
  intro reaped last
  rw [none] at last
  cases last

theorem Ros.Attended.snapshot {ros : Ros} {manager : GraphManager TopicNamesAndTypes Unit}
    (covered : ∀ topics ∈ manager.topics, ros.Covered topics) :
    ros.Covered (manager.topicSnapshot ros.topicNamesAndTypes) := by
  unfold GraphManager.topicSnapshot
  cases cached : manager.topics with
  | none => exact ros.covered_graph
  | some topics => exact covered topics cached

/-- What happens outside the worker either sets the event or leaves the graph alone. -/
theorem attending_outside (inv : Attending options state) {label : Label RosChange}
    (outside : label ≠ .work) (notified : Notified state label) :
    Attending options (state.step (forwarderCallbacks options) label) := by
  obtain ⟨ros, manager, worker, history⟩ := state
  cases label with
  | work => exact absurd rfl outside
  | graphEvent =>
      constructor
      · intro quiet
        cases quiet
      · exact inv.reaped
      · exact inv.first
  | readServices => exact ⟨inv.attended, inv.reaped, inv.first⟩
  | readTopics =>
      refine ⟨?_, inv.reaped, inv.first⟩
      intro quiet
      have attended := inv.attended quiet
      cases worker with
      | topics looping =>
          intro topics cached
          cases cached
          exact Ros.Attended.snapshot attended
      | _ => exact attended
  | changed change raised =>
      cases raised with
      | true =>
          constructor
          · intro quiet
            cases quiet
          · cases change <;> exact inv.reaped
          · cases change <;> exact inv.first
      | false =>
          cases change with
          | publishers | subscribers => cases notified
          | clock elapsed =>
              refine ⟨?_, inv.reaped, inv.first⟩
              intro quiet
              have attended := inv.attended quiet
              cases worker <;> exact attended

/-- The shortcut is attentive just when there is nothing to mark and nothing to subscribe. -/
theorem attentive_shortcut_iff {ros : Ros} {manager : GraphManager TopicNamesAndTypes Unit} {looping : Bool}
    {taken : TopicNamesAndTypes} {history : History TopicNamesAndTypes Unit} (quiet : manager.event = false)
    (same : manager.lastReconciledTopics = some taken) (tracked : ros.Tracked options (some taken)) :
    (Control.compare looping taken).attentive options ⟨ros, manager, .compare looping taken, history⟩ = true ↔
      ros.AbsenceMarked ∧ ∀ entry ∈ taken.entries, entry.2 ≠ [] → options.forwardsTopic entry.1 = true →
        ros.publisherCount entry.1 ≠ 0 → ros.subscribed entry.1 = true := by
  simp only [Control.attentive, quiet, same, ne_eq, not_true_eq_false, decide_false, Bool.false_or,
    Bool.and_eq_true, List.all_eq_true, Bool.or_eq_true, decide_eq_true_eq, unmatchedSince_eq]
  constructor
  · rintro ⟨marked, unexpired⟩
    constructor
    · intro subscription member unmatched
      rw [tracked.marks subscription member]
      exact (marked subscription member).resolve_left (not_not_intro unmatched)
    · intro entry listed typed wanted matched
      rw [tracked.subscribed taken rfl entry listed typed wanted]
      rcases unexpired entry listed with ((untyped | unwanted) | unmatched) | held
      · exact absurd (List.isEmpty_iff.mp untyped) typed
      · simp [wanted] at unwanted
      · exact absurd unmatched matched
      · exact held
  · rintro ⟨marked, subscribed⟩
    constructor
    · intro subscription member
      by_cases unmatched : ros.publisherCount subscription.topicName = 0
      · rw [← tracked.marks subscription member]
        exact .inr (marked subscription member unmatched)
      · exact .inl unmatched
    · intro entry listed
      by_contra none
      simp only [not_or, Bool.not_eq_true', Bool.not_eq_false, List.isEmpty_iff] at none
      obtain ⟨⟨⟨typed, wanted⟩, matched⟩, expired⟩ := none
      rw [← tracked.subscribed taken rfl entry listed typed wanted] at expired
      exact expired (subscribed entry listed typed wanted matched)

theorem attended_shortcut {ros : Ros} {manager : GraphManager TopicNamesAndTypes Unit} {looping : Bool}
    {taken : TopicNamesAndTypes} {history : History TopicNamesAndTypes Unit} (covered : ros.Covered taken)
    (quiet : manager.event = false) (same : manager.lastReconciledTopics = some taken)
    (tracked : ros.Tracked options (some taken))
    (attentive : (Control.compare looping taken).attentive options
      ⟨ros, manager, .compare looping taken, history⟩ = true) :
    ros.AbsenceMarked ∧ ros.Subscribed options := by
  obtain ⟨marked, subscribed⟩ := (attentive_shortcut_iff quiet same tracked).mp attentive
  refine ⟨marked, fun publisher present matching wanted => ?_⟩
  obtain ⟨types, listed, typed⟩ := covered publisher present
  exact subscribed _ listed typed wanted (Nat.pos_iff_ne_zero.mp (Ros.publisherCount_pos present matching))

theorem unattended_shortcut {ros : Ros} {manager : GraphManager TopicNamesAndTypes Unit} {looping : Bool}
    {taken : TopicNamesAndTypes} {history : History TopicNamesAndTypes Unit}
    (quiet : manager.event = false) (same : manager.lastReconciledTopics = some taken)
    (tracked : ros.Tracked options (some taken))
    (inattentive : (Control.compare looping taken).attentive options
      ⟨ros, manager, .compare looping taken, history⟩ = false) :
    ¬ (ros.AbsenceMarked ∧ ros.Subscribed options) := by
  rintro ⟨marked, subscribed⟩
  have attentive : (Control.compare looping taken).attentive options
      ⟨ros, manager, .compare looping taken, history⟩ = true := by
    refine (attentive_shortcut_iff quiet same tracked).mpr ⟨marked, fun entry _ _ wanted matched => ?_⟩
    obtain ⟨publisher, found⟩ := List.exists_mem_of_length_pos (Nat.pos_of_ne_zero matched)
    obtain ⟨present, matching⟩ := List.mem_filter.mp found
    simp only [Bool.and_eq_true, decide_eq_true_eq] at matching
    rw [← matching.1] at wanted ⊢
    exact subscribed publisher present matching.2 wanted
  rw [attentive] at inattentive
  cases inattentive

/-- Reconciling leaves nothing undone, if it makes no subscription that nothing publishes to. -/
theorem attended_reconcile {ros : Ros} {manager : GraphManager TopicNamesAndTypes Unit} {looping : Bool}
    {taken : TopicNamesAndTypes} {history : History TopicNamesAndTypes Unit} (covered : ros.Covered taken)
    (quiet : manager.event = false)
    (attentive : (Control.reconcile looping taken).attentive options
      ⟨ros, manager, .reconcile looping taken, history⟩ = true) :
    (ros.reconcileTopics options taken).AbsenceMarked ∧ (ros.reconcileTopics options taken).Subscribed options := by
  refine ⟨Ros.reconcileTopics_marked ?_, Ros.reconcileTopics_subscribed covered⟩
  intro entry listed typed wanted unsubscribed
  simp only [Control.attentive, quiet, Bool.false_or, List.all_eq_true, Bool.or_eq_true] at attentive
  rcases attentive entry listed with ((untyped | unwanted) | held) | matched
  · exact absurd (List.isEmpty_iff.mp untyped) typed
  · simp [wanted] at unwanted
  · exact absurd (unsubscribed.symm.trans held) Bool.false_ne_true
  · exact of_decide_eq_true matched

theorem unattended_reconcile {state : ForwarderState} {looping : Bool} {taken : TopicNamesAndTypes}
    (inattentive : (Control.reconcile looping taken).attentive options state = false) :
    ¬ (state.world.reconcileTopics options taken).AbsenceMarked := by
  simp only [Control.attentive, Bool.or_eq_false_iff, List.all_eq_false] at inattentive
  obtain ⟨_, entry, listed, made⟩ := inattentive
  simp only [Bool.not_eq_true, Bool.or_eq_false_iff, List.isEmpty_eq_false_iff, Bool.not_eq_false',
    decide_eq_false_iff_not, ne_eq, not_not] at made
  obtain ⟨⟨⟨typed, wanted⟩, unsubscribed⟩, unmatched⟩ := made
  intro marked
  obtain ⟨subscription, member, named⟩ :=
    List.any_eq_true.mp (Ros.foldl_subscribes state.world.markAbsent listed wanted typed)
  have same : subscription.topicName = entry.1 := of_decide_eq_true named
  have unmarked : subscription.publishersAbsentSince = none := by
    rcases Ros.foldl_made member with earlier | ⟨_, _, _, unmarked, _⟩
    · obtain ⟨before, present, rfl⟩ := List.mem_map.mp earlier
      have held : state.world.subscribed entry.1 = true := List.any_eq_true.mpr ⟨before, present, named⟩
      exact absurd (unsubscribed.symm.trans held) Bool.false_ne_true
    · exact unmarked
  have absent : (state.world.reconcileTopics options taken).publisherCount subscription.topicName = 0 := by
    rw [Ros.publisherCount_congr (Ros.reconcileTopics_publishers taken), same]
    exact unmatched
  have isMarked := marked subscription member absent
  rw [unmarked] at isMarked
  cases isMarked

theorem reaped_afterPass {ros : Ros} {looping : Bool} (first : (!looping) = true → ros.lastReap = none)
    (waiting : (afterPass looping : Control TopicNamesAndTypes) = .wait) : ros.Reaped options := by
  cases looping with
  | true => cases waiting
  | false => exact reaped_of_none (first rfl)

theorem Tracking.compared {ros : Ros} {manager : GraphManager TopicNamesAndTypes Unit} {looping : Bool}
    {taken : TopicNamesAndTypes} {history : History TopicNamesAndTypes Unit}
    (tracked : Tracking options ⟨ros, manager, .compare looping taken, history⟩)
    (same : manager.lastReconciledTopics = some taken) : ros.Tracked options (some taken) :=
  same ▸ tracked

theorem attending_work (inv : Attending options state)
    (tracked : Tracking options state)
    (attentive : state.worker.attentive options state = true) :
    Attending options (state.work (forwarderCallbacks options)) := by
  obtain ⟨ros, manager, worker, history⟩ := state
  cases worker with
  | topics looping =>
      refine ⟨?_, ?_, inv.first⟩
      · intro quiet
        exact Ros.Attended.snapshot (inv.attended quiet)
      · intro waiting
        cases waiting
  | compare looping taken =>
      by_cases same : manager.lastReconciledTopics = some taken
      · simp only [State.work, same, ↓reduceIte]
        constructor
        · intro quiet
          obtain ⟨marked, subscribed⟩ :=
            attended_shortcut (inv.attended quiet) quiet same (tracked.compared same) attentive
          exact attended_afterPass looping marked subscribed
        · exact reaped_afterPass inv.first
        · intro first
          simp at first
      · simp only [State.work, same, ↓reduceIte]
        refine ⟨inv.attended, ?_, inv.first⟩
        intro waiting
        cases waiting
  | reconcile looping taken =>
      constructor
      · intro quiet
        exact attended_reconcile (inv.attended quiet) quiet attentive
      · intro waiting
        cases waiting
      · intro first
        exact inv.first first
  | record looping taken =>
      constructor
      · intro quiet
        obtain ⟨marked, subscribed⟩ := inv.attended quiet
        exact attended_afterPass looping marked subscribed
      · exact reaped_afterPass inv.first
      · intro first
        simp [State.work] at first
  | wait =>
      cases event : manager.event with
      | true =>
          simp only [State.work, event, ↓reduceIte]
          apply Attending.inside (by simp) rfl
          intro _
          trivial
      | false =>
          simp only [State.work, event, Bool.false_eq_true, ↓reduceIte]
          apply Attending.inside (by simp) rfl
          intro quiet
          exact inv.attended quiet
  | settle =>
      apply Attending.inside (by simp [State.work]) rfl
      intro _
      trivial
  | invalidate =>
      apply Attending.inside (by simp [State.work]) rfl
      intro _ topics cached
      cases cached
  | reap =>
      constructor
      · intro quiet
        obtain ⟨marked, subscribed⟩ := inv.attended quiet
        exact ⟨Ros.reapExpiredSubscriptions_marked marked,
          Ros.reapExpiredSubscriptions_subscribed subscribed⟩
      · intro _
        exact Ros.reapExpiredSubscriptions_reaped
      · intro first
        cases first

theorem tracking_step (tracked : Tracking options state) (label : Label RosChange) :
    Tracking options (state.step (forwarderCallbacks options) label) := by
  obtain ⟨ros, manager, worker, history⟩ := state
  cases label with
  | graphEvent | readServices | readTopics => exact tracked
  | changed change raised => cases change <;> cases raised <;> exact ⟨tracked.marks, tracked.subscribed⟩
  | work =>
      cases worker with
      | topics | settle | invalidate => exact tracked
      | compare looping taken =>
          by_cases same : manager.lastReconciledTopics = some taken
          · cases looping <;> simpa [Tracking, State.step, State.work, same, afterPass, Control.recording] using tracked
          · simpa [Tracking, State.step, State.work, same, Control.recording] using tracked
      | reconcile looping taken => exact Ros.Tracked.reconcile tracked taken
      | record looping taken => cases looping <;> exact tracked
      | wait =>
          cases event : manager.event <;>
            simpa [Tracking, State.step, State.work, event, Control.recording, State.wake, GraphManager.setEvent]
              using tracked
      | reap => exact Ros.Tracked.reap tracked

end Step

theorem tracking_of_run {options : ForwarderOptions} {permitted : ForwarderState → Label RosChange → Prop}
    {publishers : List Publisher} {subscribers : List (String × String)} {now : Int} {state : ForwarderState}
    (run : (machine (forwarderCallbacks options)).Run permitted (initial { publishers, subscribers, now }) state) :
    Tracking options state := by
  have start : Tracking options (initial { publishers, subscribers, now }) := by
    constructor
    · intro subscription member
      cases member
    · intro topics none
      cases none
  refine run.invariant start ?_
  intro state next label tracked _ stepped
  cases stepped
  exact tracking_step tracked label

theorem attending_of_run {options : ForwarderOptions} {publishers : List Publisher}
    {subscribers : List (String × String)} {now : Int} {state : ForwarderState}
    (run : (machine (forwarderCallbacks options)).Run (Attentive options)
      (initial { publishers, subscribers, now }) state) : Attending options state := by
  apply run.invariant_with tracking_of_run (attending_initial options publishers subscribers now)
  intro state next label tracked inv attentive stepped
  cases stepped
  cases label with
  | work => exact attending_work inv tracked (attentive.2 rfl)
  | graphEvent | readServices | readTopics | changed =>
      apply attending_outside inv _ attentive.1
      simp

section Unattended

variable {options : ForwarderOptions} {ros : Ros}

/-- Something that should have been marked or subscribed is not. -/
def Ros.Amiss (options : ForwarderOptions) (ros : Ros) : Prop := ¬ (ros.AbsenceMarked ∧ ros.Subscribed options)

theorem Ros.Amiss.reap (amiss : ros.Amiss options) :
    ((ros.reapExpiredSubscriptions options).noteLook ros true).Amiss options := by
  rintro ⟨marked, subscribed⟩
  refine amiss ⟨?_, ?_⟩
  · intro subscription member unmatched
    cases mark : subscription.publishersAbsentSince with
    | some since => rfl
    | none =>
        have kept : ros.reapSubscription options subscription = some subscription := by
          rw [Ros.reapSubscription, mark]
        have isMarked := marked subscription (List.mem_filterMap.mpr ⟨subscription, member, kept⟩) unmatched
        rw [mark] at isMarked
        cases isMarked
  · intro publisher present matching wanted
    obtain ⟨after, member, named⟩ := List.any_eq_true.mp (subscribed publisher present matching wanted)
    obtain ⟨before, there, kept⟩ := List.mem_filterMap.mp member
    refine List.any_eq_true.mpr ⟨before, there, ?_⟩
    rwa [← (Ros.reapSubscription_cases kept).1]

/-- Left alone the worker comes to wait, with what is amiss left so. -/
theorem amiss_at_wait {permitted : ForwarderState → Label RosChange → Prop} (works : ∀ state, permitted state .work)
    {start state : ForwarderState} (run : (machine (forwarderCallbacks options)).Run permitted start state)
    (passed : state.worker = .wait ∨ state.worker = .reap) (quiet : state.manager.event = false)
    (amiss : state.world.Amiss options) :
    ∃ final, (machine (forwarderCallbacks options)).Run permitted start final ∧ final.worker = .wait ∧
      final.manager.event = false ∧ final.world.Amiss options := by
  obtain ⟨ros, manager, worker, history⟩ := state
  rcases passed with rfl | rfl
  · exact ⟨_, run, rfl, quiet, amiss⟩
  · exact ⟨_, run.step (works _) rfl, rfl, quiet, amiss.reap⟩

theorem afterPass_over (looping : Bool) :
    (afterPass looping : Control TopicNamesAndTypes) = .wait ∨ (afterPass looping : Control TopicNamesAndTypes) = .reap := by
  cases looping
  · exact .inl rfl
  · exact .inr rfl

theorem amiss_of_inattentive {permitted : ForwarderState → Label RosChange → Prop}
    (works : ∀ state, permitted state .work) {start state : ForwarderState}
    (run : (machine (forwarderCallbacks options)).Run permitted start state)
    (tracked : Tracking options state)
    (inattentive : state.worker.attentive options state = false) :
    ∃ final, (machine (forwarderCallbacks options)).Run permitted start final ∧ final.worker = .wait ∧
      final.manager.event = false ∧ final.world.Amiss options := by
  have stepped : (machine (forwarderCallbacks options)).Run permitted start (state.work (forwarderCallbacks options)) :=
    run.step (works _) rfl
  obtain ⟨ros, manager, worker, history⟩ := state
  cases worker with
  | compare looping taken =>
      have shortcut : manager.event = false ∧ manager.lastReconciledTopics = some taken := by
        simp only [Control.attentive, Bool.or_eq_false_iff, decide_eq_false_iff_not, ne_eq, not_not] at inattentive
        exact inattentive.1
      obtain ⟨quiet, same⟩ := shortcut
      have amiss : ros.Amiss options := unattended_shortcut quiet same (tracked.compared same) inattentive
      simp only [State.work, same, ↓reduceIte] at stepped
      exact amiss_at_wait works stepped (afterPass_over looping) quiet amiss
  | reconcile looping taken =>
      have quiet : manager.event = false := by
        simp only [Control.attentive, Bool.or_eq_false_iff] at inattentive
        exact inattentive.1
      have amiss : ((ros.reconcileTopics options taken).noteLook ros false).Amiss options :=
        fun attended => unattended_reconcile inattentive attended.1
      exact amiss_at_wait works (stepped.step (works _) rfl) (afterPass_over looping) quiet amiss
  | topics | record | wait | settle | invalidate | reap => cases inattentive

end Unattended

/-- With every graph event handled, subscriptions that nothing publishes to are marked and,
once their grace period is over at a wake-up, gone, and reappeared topics are subscribed,
in every run whose shortcuts skip nothing. A step that skips something leads to a state in
which that is not so. -/
theorem absences_noticed (options : ForwarderOptions) (publishers : List Publisher)
    (subscribers : List (String × String)) (now : Int) :
    (∀ state, (machine (forwarderCallbacks options)).Run (Attentive options)
        (initial { publishers, subscribers, now }) state →
      state.worker = .wait → state.manager.event = false → Noticed options state.world) ∧
    ∀ state, (machine (forwarderCallbacks options)).Run Notified (initial { publishers, subscribers, now }) state →
      state.worker.attentive options state = false →
      ∃ final, (machine (forwarderCallbacks options)).Run Notified (initial { publishers, subscribers, now }) final ∧
        final.worker = .wait ∧ final.manager.event = false ∧ ¬ Noticed options final.world := by
  constructor
  · intro state run waiting handled
    have inv := attending_of_run run
    have attended := inv.attended handled
    rw [waiting] at attended
    exact ⟨attended.1, inv.reaped waiting, attended.2⟩
  · intro state run inattentive
    obtain ⟨final, reached, waiting, handled, amiss⟩ :=
      amiss_of_inattentive (fun _ => trivial) run (tracking_of_run run) inattentive
    exact ⟨final, reached, waiting, handled, fun noticed => amiss ⟨noticed.marked, noticed.subscribed⟩⟩

def forwardAll : ForwarderOptions := { outgoingTopicPatterns := [fun _ => true] }

def camera : Publisher := { topicName := "/camera", topicType := "sensor_msgs/msg/Image" }

def lidar : Publisher := { topicName := "/lidar", topicType := "sensor_msgs/msg/LaserScan" }

/-- The pass before the loop on a snapshot that it applies. -/
def firstForwarding : List (Label RosChange) := List.replicate 4 .work

/-- A wake-up by an event whose snapshot is applied, or is the one that was. -/
def changedWakeUp : List (Label RosChange) := List.replicate 8 .work

def unchangedWakeUp : List (Label RosChange) := List.replicate 6 .work

/-- One topic's publisher goes as another topic appears, and comes back after the grace period. -/
def departureAndReturn : List (Label RosChange) :=
  firstForwarding ++ .changed (.publishers [lidar]) true :: changedWakeUp ++
    [.changed (.clock 31000000000) false, .work, .work, .graphEvent] ++ changedWakeUp ++
    .changed (.publishers [lidar, camera]) true :: changedWakeUp

theorem absences_noticed_after_return :
    ∃ state, (machine (forwarderCallbacks forwardAll)).Run (Attentive forwardAll)
        (initial { publishers := [camera] }) state ∧
      state.world.subscriptions.map OutboundSubscription.topicName = ["/camera", "/lidar"] ∧
      Noticed forwardAll state.world := by
  obtain ⟨state, run, waiting, handled, made⟩ := Machine.Run.exists_of_exec
    (machine (forwarderCallbacks forwardAll)) (Attentive forwardAll)
    (initial { publishers := [camera] }) departureAndReturn
    (fun state => state.worker = .wait ∧ state.manager.event = false ∧
      state.world.subscriptions.map OutboundSubscription.topicName = ["/camera", "/lidar"])
    (by decide +kernel)
  exact ⟨state, run, made, (absences_noticed forwardAll [camera] [] 0).1 state run waiting handled⟩

/-- The only publisher goes; the portal's own subscription keeps its topic in the graph. -/
theorem absence_unnoticed :
    ∃ state, (machine (forwarderCallbacks forwardAll)).Run Notified
        (initial { publishers := [camera] }) state ∧
      state.worker = .wait ∧ state.manager.event = false ∧ ¬ Noticed forwardAll state.world := by
  obtain ⟨state, run, waiting, handled, subscription, member, unmatched, unmarked⟩ :=
    Machine.Run.exists_of_exec (machine (forwarderCallbacks forwardAll)) Notified
      (initial { publishers := [camera] })
      (firstForwarding ++ .changed (.publishers []) true :: unchangedWakeUp)
      (fun state => state.worker = .wait ∧ state.manager.event = false ∧
        ∃ subscription ∈ state.world.subscriptions,
          state.world.publisherCount subscription.topicName = 0 ∧
            subscription.publishersAbsentSince.isSome = false) (by decide +kernel)
  refine ⟨state, run, waiting, handled, ?_⟩
  intro noticed
  rw [noticed.marked subscription member unmatched] at unmarked
  cases unmarked

end RosPortal.Discovery
