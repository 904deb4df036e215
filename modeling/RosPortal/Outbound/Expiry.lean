import RosPortal.Interleaving.Machine
import RosPortal.Outbound.Tables

/-! Subscriptions whose publishers are gone are kept for a grace period. The calls that count
the publishers and reap, one after the other, and the wait between them. -/

set_option autoImplicit false

namespace RosPortal.Outbound

open Interleaving Portal

def kMaxWait : Int := 5000000000

/-- `GraphManager::nextWait`. -/
def nextWait (deadline : Option Int) (now : Int) : Int :=
  match deadline with
  | none => kMaxWait
  | some deadline =>
      let remaining := deadline - now
      if remaining < 0 then 0 else if kMaxWait < remaining then kMaxWait else remaining

namespace Tables

variable (options : Options)

/-- The second loop of `reconcileTopics`, which an exception that is not caught ends. -/
def reconcileEntries (creations : String → Creation) : Tables → List (String × List String) → Tables
  | tables, [] => tables
  | tables, entry :: entries =>
      match tables.wanted options entry with
      | none => tables.reconcileEntries creations entries
      | some topicType =>
          let created := tables.createSubscriber options entry.1 topicType (creations entry.1)
          if creations entry.1 = .threw then created else created.reconcileEntries creations entries

def reconcileTopics (tables : Tables) (now : Int) (publisherCount : String → Nat)
    (creations : String → Creation) (topics : TopicNamesAndTypes) : Tables :=
  (tables.markAbsent now publisherCount).reconcileEntries options creations topics.entries

end Tables

/-- The tables and the time of the last call. When they were last reaped is recorded; no step
reads it. -/
structure Forwarder where
  tables : Tables := {}
  now : Int
  lastReap : Option Int := none

/-- Calls with the time that they read, how many publishers they count for each topic, and
how making subscriptions goes. -/
inductive Call where
  | reconcileTopics (now : Int) (publisherCount : String → Nat) (creations : String → Creation)
      (topics : TopicNamesAndTypes)
  | reapExpiredSubscriptions (now : Int) (publisherCount : String → Nat)
  | nextExpiryDeadline (now : Int)

def Call.now : Call → Int
  | .reconcileTopics now _ _ _ | .reapExpiredSubscriptions now _ | .nextExpiryDeadline now => now

def Forwarder.call (options : Options) (forwarder : Forwarder) : Call → Forwarder
  | .reconcileTopics now publisherCount creations topics =>
      { forwarder with
        tables := forwarder.tables.reconcileTopics options now publisherCount creations topics
        now }
  | .reapExpiredSubscriptions now publisherCount =>
      { tables := (forwarder.tables.reapExpiredSubscriptions options now publisherCount).1
        now
        lastReap := some now }
  | .nextExpiryDeadline now => { forwarder with now }

/-- The clock does not go back. -/
def calls (options : Options) : Machine Forwarder Call where
  step? forwarder call := if call.now < forwarder.now then none else some (forwarder.call options call)

/-- Among the observations, newest first, one at that time saw no publishers, and none since
then saw any. -/
def AbsentSince (since : Int) (observed : List (Int × Nat)) : Prop :=
  ∃ recent older, observed = recent ++ (since, 0) :: older ∧ ∀ observation ∈ recent, observation.2 = 0

/-- A call removes the subscription of a topic: it reaps, sees no publishers, and none have
been seen for the grace period, and what the tables have on the topic goes. -/
structure Expired (options : Options) (subscription : OutboundSubscription) (after : Tables) (call : Call)
    (topicName : String) : Prop where
  absent : ∃ now publisherCount since, call = .reapExpiredSubscriptions now publisherCount ∧
    publisherCount topicName = 0 ∧ AbsentSince since subscription.observed ∧
    since + options.inactiveSubscriptionGrace ≤ now
  dataTopicState : after.dataTopicStates.lookup topicName = none
  imageTopicState : after.imageTopicStates.lookup topicName = none

/-- What reaping makes of a topic that it does not remove. -/
structure Untouched (before after : Tables) (publishers : Nat) (topicName : String) : Prop where
  dataTopicState : after.dataTopicStates.lookup topicName = before.dataTopicStates.lookup topicName
  imageTopicState : after.imageTopicStates.lookup topicName = before.imageTopicStates.lookup topicName
  subscription : ∀ earlier ∈ before.subscriptions.lookup topicName,
    ∀ later ∈ after.subscriptions.lookup topicName, later.handle = earlier.handle ∧
      (later.publishersAbsentSince = earlier.publishersAbsentSince ∨
        0 < publishers ∧ later.publishersAbsentSince = none)

section Observations

variable {since now : Int} {publishers : Nat} {observed : List (Int × Nat)}

theorem absentSince_first : AbsentSince since ((since, 0) :: observed) :=
  ⟨[], observed, rfl, nofun⟩

theorem AbsentSince.observe (absent : AbsentSince since observed) :
    AbsentSince since ((now, 0) :: observed) := by
  obtain ⟨recent, older, rfl, quiet⟩ := absent
  exact ⟨(now, 0) :: recent, older, rfl, List.forall_mem_cons.mpr ⟨rfl, quiet⟩⟩

end Observations

/-- What is known of a subscription: since its publishers are marked absent none were seen, and
its grace period was not over when the tables were last reaped. -/
structure OutboundSubscription.Watched (grace : Int) (lastReap : Option Int)
    (subscription : OutboundSubscription) : Prop where
  absent : ∀ since ∈ subscription.publishersAbsentSince, AbsentSince since subscription.observed
  unexpired : 0 < grace → ∀ reaped ∈ lastReap, ∀ since ∈ subscription.publishersAbsentSince,
    reaped < since + grace

section Subscriptions

variable {grace now : Int} {lastReap : Option Int} {publishers : Nat} {subscription kept : OutboundSubscription}

theorem watched_unmarked (unmarked : subscription.publishersAbsentSince = none) :
    subscription.Watched grace lastReap where
  absent since marked := by
    rw [unmarked] at marked
    cases marked
  unexpired _ reaped _ since marked := by
    rw [unmarked] at marked
    cases marked

theorem OutboundSubscription.Watched.mark (watched : subscription.Watched grace lastReap)
    (notLater : ∀ reaped ∈ lastReap, reaped ≤ now) :
    (subscription.mark now publishers).Watched grace lastReap := by
  by_cases none : publishers = 0
  · subst publishers
    cases marked : subscription.publishersAbsentSince with
    | none =>
        have fresh : (subscription.mark now 0).publishersAbsentSince = some now := by
          simp [OutboundSubscription.mark, marked]
        refine ⟨fun since known => ?_, fun positive reaped last since known => ?_⟩
        · cases fresh.symm.trans known
          exact absentSince_first
        · cases fresh.symm.trans known
          have := notLater reaped last
          omega
    | some since =>
        have same : (subscription.mark now 0).publishersAbsentSince = some since := by
          simp [OutboundSubscription.mark, marked]
        refine ⟨fun other known => ?_, fun positive reaped last other known => ?_⟩
        · cases same.symm.trans known
          exact (watched.absent since marked).observe
        · cases same.symm.trans known
          exact watched.unexpired positive reaped last since marked
  · exact watched_unmarked (by simp [OutboundSubscription.mark, none])

theorem reap_cases (subscription : OutboundSubscription) (now : Int) (publishers : Nat) (grace : Int) :
    (subscription.publishersAbsentSince = none ∧ subscription.reap now publishers grace = some subscription) ∨
    (0 < publishers ∧ ∃ kept, subscription.reap now publishers grace = some kept ∧
      kept.handle = subscription.handle ∧ kept.publishersAbsentSince = none) ∨
    (∃ since, publishers = 0 ∧ subscription.publishersAbsentSince = some since ∧ now < since + grace ∧
      subscription.reap now publishers grace = some (subscription.observe now 0)) ∨
    ∃ since, publishers = 0 ∧ subscription.publishersAbsentSince = some since ∧ since + grace ≤ now ∧
      subscription.reap now publishers grace = none := by
  cases marked : subscription.publishersAbsentSince with
  | none => exact .inl ⟨rfl, by simp [OutboundSubscription.reap, marked]⟩
  | some since =>
      refine .inr ?_
      by_cases present : 0 < publishers
      · exact .inl ⟨present, { subscription.observe now publishers with publishersAbsentSince := none },
          by simp [OutboundSubscription.reap, marked, present], rfl, rfl⟩
      · have none : publishers = 0 := by omega
        subst publishers
        refine .inr ?_
        by_cases early : now - since < grace
        · exact .inl ⟨since, rfl, rfl, by omega, by simp [OutboundSubscription.reap, marked, early]⟩
        · exact .inr ⟨since, rfl, rfl, by omega, by simp [OutboundSubscription.reap, marked, early]⟩

/-- After reaping, no grace period is over. -/
theorem OutboundSubscription.Watched.reap (watched : subscription.Watched grace lastReap)
    (reaped : subscription.reap now publishers grace = some kept) :
    kept.Watched grace (some now) ∧ ∀ since ∈ kept.publishersAbsentSince, now < since + grace := by
  rcases reap_cases subscription now publishers grace with ⟨unmarked, same⟩ | ⟨_, other, same, _, reset⟩ |
    ⟨since, _, marked, early, same⟩ | ⟨_, _, _, _, gone⟩
  · cases same.symm.trans reaped
    refine ⟨watched_unmarked unmarked, fun since known => ?_⟩
    cases unmarked.symm.trans known
  · cases same.symm.trans reaped
    refine ⟨watched_unmarked reset, fun since known => ?_⟩
    cases reset.symm.trans known
  · cases same.symm.trans reaped
    have later : ∀ known ∈ (subscription.observe now 0).publishersAbsentSince, now < known + grace := by
      intro known present
      cases marked.symm.trans present
      exact early
    refine ⟨⟨fun known present => ?_, fun _ time last known present => ?_⟩, later⟩
    · exact (watched.absent known present).observe
    · cases last
      exact later known present
  · cases gone.symm.trans reaped

end Subscriptions

section Creating

variable {options : Options} {tables next : Tables}

/-- Each subscription of the tables is one of before, or is new and has not been looked at. -/
def Tables.Extends (before after : Tables) : Prop :=
  ∀ topicName : String,
    after.subscriptions.lookup topicName = before.subscriptions.lookup topicName ∨
      before.subscriptions.lookup topicName = none ∧
        ∃ subscription, after.subscriptions.lookup topicName = some subscription ∧
          subscription.publishersAbsentSince = none

theorem Tables.Extends.trans {middle : Tables} (first : tables.Extends middle)
    (second : middle.Extends next) : tables.Extends next := by
  intro topicName
  rcases second topicName with same | ⟨absent, made⟩
  · rw [same]
    exact first topicName
  · rcases first topicName with same | ⟨_, subscription, known, _⟩
    · exact .inr ⟨same.symm.trans absent, made⟩
    · cases absent.symm.trans known

theorem extends_insert {topicName : String} {subscription : OutboundSubscription}
    (absent : tables.subscribed topicName = false) (fresh : subscription.publishersAbsentSince = none)
    (inserted : next.subscriptions = tables.subscriptions.insert topicName subscription) :
    tables.Extends next := by
  intro other
  rw [inserted]
  by_cases same : other = topicName
  · subst other
    exact .inr ⟨subscribed_eq_false_iff.mp absent, subscription, AList.lookup_insert _, fresh⟩
  · exact .inl (AList.lookup_insert_ne same)

theorem createDataSubscriber_extends (tables : Tables) (topicName topicType : String) (creation : Creation) :
    tables.Extends (tables.createDataSubscriber options topicName topicType creation) := by
  unfold Tables.createDataSubscriber
  cases known : tables.subscribed topicName with
  | true => exact fun _ => .inl rfl
  | false =>
      cases creation with
      | threw => exact fun _ => .inl rfl
      | failed => exact fun _ => .inl rfl
      | created => exact extends_insert known rfl rfl

theorem subscribeVideoTopic_extends (tables : Tables) (topicName topicType : String) (compressed : Bool)
    (creation : Creation) :
    tables.Extends (tables.subscribeVideoTopic topicName topicType compressed creation) := by
  unfold Tables.subscribeVideoTopic
  cases known : tables.subscribed topicName with
  | true => exact fun _ => .inl rfl
  | false =>
      cases creation with
      | threw => exact fun _ => .inl rfl
      | failed => exact fun _ => .inl rfl
      | created => exact extends_insert known rfl rfl

theorem createSubscriber_extends (options : Options) (tables : Tables) (topicName topicType : String) (creation : Creation) :
    tables.Extends (tables.createSubscriber options topicName topicType creation) := by
  unfold Tables.createSubscriber
  split
  · exact subscribeVideoTopic_extends tables topicName _ _ creation
  · exact subscribeVideoTopic_extends tables topicName _ _ creation
  · exact createDataSubscriber_extends tables topicName topicType creation

theorem reconcileEntries_extends (options : Options) (creations : String → Creation) (entries : List (String × List String))
    (tables : Tables) : tables.Extends (tables.reconcileEntries options creations entries) := by
  induction entries generalizing tables with
  | nil => exact fun _ => .inl rfl
  | cons entry entries ih =>
      rw [Tables.reconcileEntries]
      split
      · exact ih tables
      next topicType _ =>
        have created := createSubscriber_extends options tables entry.1 topicType (creations entry.1)
        dsimp only
        split_ifs
        · exact created
        · exact created.trans (ih _)

theorem reconcileTopics_subscription (options : Options) (tables : Tables) (now : Int)
    (publisherCount : String → Nat) (creations : String → Creation) (topics : TopicNamesAndTypes)
    (topicName : String) :
    (tables.reconcileTopics options now publisherCount creations topics).subscriptions.lookup topicName =
        (tables.subscriptions.lookup topicName).map (fun subscription =>
          subscription.mark now (publisherCount topicName)) ∨
      tables.subscriptions.lookup topicName = none ∧
        ∃ subscription, (tables.reconcileTopics options now publisherCount creations
            topics).subscriptions.lookup topicName = some subscription ∧
          subscription.publishersAbsentSince = none := by
  have marked : (tables.markAbsent now publisherCount).subscriptions.lookup topicName =
      (tables.subscriptions.lookup topicName).map fun subscription =>
        subscription.mark now (publisherCount topicName) :=
    congrArg Topic.subscription (topic_markAbsent tables now publisherCount topicName)
  rcases reconcileEntries_extends options creations topics.entries
      (tables.markAbsent now publisherCount) topicName with same | ⟨absent, made⟩
  · exact .inl (same.trans marked)
  · rw [marked, Option.map_eq_none_iff] at absent
    exact .inr ⟨absent, made⟩

end Creating

section Waiting

variable {options : Options} {tables : Tables}

theorem nextWait_bounds (deadline : Option Int) (now : Int) :
    0 ≤ nextWait deadline now ∧ nextWait deadline now ≤ kMaxWait := by
  unfold nextWait
  cases deadline with
  | none => exact (by decide : 0 ≤ kMaxWait ∧ kMaxWait ≤ kMaxWait)
  | some deadline =>
      dsimp only
      unfold kMaxWait
      split_ifs <;> omega

/-- The worker does not go round without waiting before a deadline. -/
theorem nextWait_pos {deadline : Option Int} {now : Int} (later : ∀ time ∈ deadline, now < time) :
    0 < nextWait deadline now := by
  unfold nextWait
  cases deadline with
  | none => exact (by decide : 0 < kMaxWait)
  | some deadline =>
      have ahead := later deadline rfl
      dsimp only
      unfold kMaxWait
      split_ifs <;> omega

theorem foldl_earlierDeadline {names : List String} {earliest : Option Int} {deadline : Int}
    (reported : names.foldl (tables.earlierDeadline options) earliest = some deadline) :
    earliest = some deadline ∨ ∃ topicName ∈ names, tables.deadline options topicName = some deadline := by
  induction names generalizing earliest with
  | nil => exact .inl reported
  | cons topicName names ih =>
      rcases ih reported with here | ⟨other, member, known⟩
      · cases known : tables.deadline options topicName with
        | none =>
            simp only [Tables.earlierDeadline, known] at here
            exact .inl here
        | some candidate =>
            cases earliest with
            | none =>
                simp only [Tables.earlierDeadline, known] at here
                exact .inr ⟨topicName, List.mem_cons_self, known.trans here⟩
            | some sofar =>
                simp only [Tables.earlierDeadline, known] at here
                split_ifs at here
                · exact .inr ⟨topicName, List.mem_cons_self, known.trans here⟩
                · exact .inl here
      · exact .inr ⟨other, List.mem_cons_of_mem _ member, known⟩

theorem nextExpiryDeadline_marked {deadline : Int} (reported : tables.nextExpiryDeadline options = some deadline) :
    ∃ topicName subscription since, tables.subscriptions.lookup topicName = some subscription ∧
      subscription.publishersAbsentSince = some since ∧
      since + options.inactiveSubscriptionGrace = deadline := by
  rcases foldl_earlierDeadline reported with none | ⟨topicName, _, known⟩
  · cases none
  · obtain ⟨since, marked, sum⟩ := Option.map_eq_some_iff.mp known
    obtain ⟨subscription, subscribed, absent⟩ := Option.bind_eq_some_iff.mp marked
    exact ⟨topicName, subscription, since, subscribed, absent, sum⟩

end Waiting

section Calls

variable {options : Options} {forwarder next : Forwarder} {call : Call}

structure Forwarder.Sound (options : Options) (forwarder : Forwarder) : Prop where
  watched : ∀ (topicName : String) (subscription : OutboundSubscription),
    forwarder.tables.subscriptions.lookup topicName = some subscription →
      subscription.Watched options.inactiveSubscriptionGrace forwarder.lastReap
  reaped : ∀ reaped ∈ forwarder.lastReap, reaped ≤ forwarder.now

theorem step_call (stepped : (calls options).step? forwarder call = some next) :
    forwarder.now ≤ call.now ∧ next = forwarder.call options call := by
  simp only [calls] at stepped
  split_ifs at stepped with back
  exact ⟨Int.not_lt.mp back, (Option.some.inj stepped).symm⟩

theorem sound_initial (start : Int) : Forwarder.Sound options { now := start } where
  watched topicName subscription known := by cases known
  reaped := nofun

theorem reapExpiredSubscriptions_lookup (options : Options) (tables : Tables) (now : Int)
    (publisherCount : String → Nat) (topicName : String) :
    (tables.reapExpiredSubscriptions options now publisherCount).1.subscriptions.lookup topicName =
      (tables.subscriptions.lookup topicName).bind fun subscription =>
        subscription.reap now (publisherCount topicName) options.inactiveSubscriptionGrace := by
  refine (congrArg Topic.subscription (topic_reapExpiredSubscriptions options tables now publisherCount topicName)).trans ?_
  cases known : tables.subscriptions.lookup topicName with
  | none => simp [Topic.reap, Tables.topic, known]
  | some subscription =>
      simp only [Topic.reap, Tables.topic, known, Option.bind_some]
      split <;> simp [*]

theorem reaped_deadline {deadline now : Int} {publisherCount : String → Nat} (sound : forwarder.Sound options)
    (reported : (forwarder.tables.reapExpiredSubscriptions options now publisherCount).1.nextExpiryDeadline
      options = some deadline) : now < deadline := by
  obtain ⟨topicName, kept, since, known, marked, rfl⟩ := nextExpiryDeadline_marked reported
  rw [reapExpiredSubscriptions_lookup] at known
  obtain ⟨subscription, subscribed, reaped⟩ := Option.bind_eq_some_iff.mp known
  exact ((sound.watched topicName subscription subscribed).reap reaped).2 since marked

theorem Forwarder.Sound.step (sound : forwarder.Sound options)
    (stepped : (calls options).step? forwarder call = some next) : next.Sound options := by
  obtain ⟨notBefore, rfl⟩ := step_call stepped
  cases call with
  | reconcileTopics now publisherCount creations topics =>
      have notLater : ∀ reaped ∈ forwarder.lastReap, reaped ≤ now :=
        fun reaped last => Int.le_trans (sound.reaped reaped last) notBefore
      refine ⟨fun topicName subscription known => ?_, notLater⟩
      rcases reconcileTopics_subscription options forwarder.tables now publisherCount creations topics
          topicName with
        looked | ⟨_, fresh, made, unmarked⟩
      · obtain ⟨earlier, before, rfl⟩ := Option.map_eq_some_iff.mp (looked.symm.trans known)
        exact (sound.watched topicName earlier before).mark notLater
      · cases made.symm.trans known
        exact watched_unmarked unmarked
  | reapExpiredSubscriptions now publisherCount =>
      refine ⟨fun topicName kept known => ?_, fun reaped last => ?_⟩
      · obtain ⟨subscription, before, reaped⟩ :=
          Option.bind_eq_some_iff.mp ((reapExpiredSubscriptions_lookup options _ now publisherCount topicName).symm.trans known)
        exact ((sound.watched topicName subscription before).reap reaped).1
      · cases last
        exact Int.le_refl now
  | nextExpiryDeadline now =>
      exact ⟨sound.watched, fun reaped last => Int.le_trans (sound.reaped reaped last) notBefore⟩

theorem sound_of_reaches {start : Int} (reached : (calls options).Reaches { now := start } forwarder) :
    forwarder.Sound options :=
  reached.invariant (sound_initial start) fun sound _ stepped => sound.step stepped

theorem expired_of_removed {topicName : String} {subscription : OutboundSubscription}
    (sound : forwarder.Sound options) (stepped : (calls options).step? forwarder call = some next)
    (before : forwarder.tables.subscriptions.lookup topicName = some subscription)
    (removed : next.tables.subscriptions.lookup topicName = none) :
    Expired options subscription next.tables call topicName := by
  obtain ⟨_, rfl⟩ := step_call stepped
  cases call with
  | reconcileTopics now publisherCount creations topics =>
      rcases reconcileTopics_subscription options forwarder.tables now publisherCount creations topics
          topicName with
        looked | ⟨absent, _⟩
      · rw [before] at looked
        cases looked.symm.trans removed
      · cases absent.symm.trans before
  | reapExpiredSubscriptions now publisherCount =>
      have left := topic_reapExpiredSubscriptions options forwarder.tables now publisherCount topicName
      have gone := (reapExpiredSubscriptions_lookup options _ now publisherCount topicName).symm.trans removed
      rw [before, Option.bind_some] at gone
      simp only [Topic.reap, Tables.topic, before, gone] at left
      obtain ⟨_, dataTopicState, imageTopicState⟩ := Topic.mk.inj left
      refine ⟨?_, dataTopicState, imageTopicState⟩
      rcases reap_cases subscription now (publisherCount topicName) options.inactiveSubscriptionGrace with
        ⟨_, same⟩ | ⟨_, _, same, _⟩ | ⟨_, _, _, _, same⟩ | ⟨since, nobody, marked, ended, _⟩
      · cases same.symm.trans gone
      · cases same.symm.trans gone
      · cases same.symm.trans gone
      · have absent := (sound.watched topicName subscription before).absent since marked
        exact ⟨now, publisherCount, since, rfl, nobody, absent, ended⟩
  | nextExpiryDeadline now => cases before.symm.trans removed

theorem untouched_of_kept {tables : Tables} {now : Int} {publisherCount : String → Nat} {topicName : String}
    (kept : (tables.reapExpiredSubscriptions options now publisherCount).1.subscribed topicName =
      tables.subscribed topicName) :
    Untouched tables (tables.reapExpiredSubscriptions options now publisherCount).1
      (publisherCount topicName) topicName := by
  have left := topic_reapExpiredSubscriptions options tables now publisherCount topicName
  cases before : tables.subscriptions.lookup topicName with
  | none =>
      rw [Topic.reap_absent before] at left
      obtain ⟨_, dataTopicState, imageTopicState⟩ := Topic.mk.inj left
      refine ⟨dataTopicState, imageTopicState, fun earlier known => ?_⟩
      cases before.symm.trans known
  | some subscription =>
      have reaped := reapExpiredSubscriptions_lookup options tables now publisherCount topicName
      rw [before, Option.bind_some] at reaped
      simp only [Tables.subscribed, reaped, before, Option.isSome_some] at kept
      obtain ⟨later, survived⟩ := Option.isSome_iff_exists.mp kept
      simp only [Topic.reap, Tables.topic, before, survived] at left
      obtain ⟨known, dataTopicState, imageTopicState⟩ := Topic.mk.inj left
      refine ⟨dataTopicState, imageTopicState, fun earlier same other found => ?_⟩
      cases before.symm.trans same
      cases known.symm.trans found
      rcases reap_cases subscription now (publisherCount topicName) options.inactiveSubscriptionGrace with
        ⟨_, unmarked⟩ | ⟨present, _, reset, made, cleared⟩ | ⟨_, _, _, _, observed⟩ | ⟨_, _, _, _, gone⟩
      · cases unmarked.symm.trans survived
        exact ⟨rfl, .inl rfl⟩
      · cases reset.symm.trans survived
        exact ⟨made, .inr ⟨present, cleared⟩⟩
      · cases observed.symm.trans survived
        exact ⟨rfl, .inl rfl⟩
      · cases gone.symm.trans survived

/-- Reaping removes only what has been without publishers for the grace period, with all of it
and nothing else, and leaves no deadline that is over. The wait is bounded. -/
theorem reaping_safe (options : Options) (start : Int) {forwarder next : Forwarder} {call : Call}
    (reached : (calls options).Reaches { now := start } forwarder)
    (stepped : (calls options).step? forwarder call = some next) :
    (∀ (topicName : String) (subscription : OutboundSubscription),
      forwarder.tables.subscriptions.lookup topicName = some subscription →
      next.tables.subscriptions.lookup topicName = none →
        Expired options subscription next.tables call topicName) ∧
    (∀ (now : Int) (publisherCount : String → Nat), call = .reapExpiredSubscriptions now publisherCount →
      (∀ topicName, next.tables.subscribed topicName = forwarder.tables.subscribed topicName →
        Untouched forwarder.tables next.tables (publisherCount topicName) topicName) ∧
      (∀ deadline ∈ next.tables.nextExpiryDeadline options, now < deadline) ∧
      0 < nextWait (next.tables.nextExpiryDeadline options) now) ∧
    (0 < options.inactiveSubscriptionGrace → ∀ reaped ∈ next.lastReap,
      ∀ deadline ∈ next.tables.nextExpiryDeadline options, reaped < deadline) ∧
    ∀ now, 0 ≤ nextWait (next.tables.nextExpiryDeadline options) now ∧
      nextWait (next.tables.nextExpiryDeadline options) now ≤ kMaxWait := by
  have sound := sound_of_reaches reached
  refine ⟨fun topicName subscription => expired_of_removed sound stepped, ?_, ?_,
    fun now => nextWait_bounds _ now⟩
  · rintro now publisherCount rfl
    obtain ⟨_, rfl⟩ := step_call stepped
    have ahead : ∀ deadline ∈ (forwarder.call options
        (.reapExpiredSubscriptions now publisherCount)).tables.nextExpiryDeadline options, now < deadline :=
      fun deadline reported => reaped_deadline sound reported
    exact ⟨fun topicName kept => untouched_of_kept kept, ahead, nextWait_pos ahead⟩
  · intro positive reaped last deadline reported
    obtain ⟨topicName, subscription, since, known, marked, rfl⟩ := nextExpiryDeadline_marked reported
    exact ((sound.step stepped).watched topicName subscription known).unexpired positive reaped last since marked

end Calls

/-- A sensor that was there at 0, was gone at 10, and is still gone at 50. -/
def sensorGone : List Call :=
  let topics : TopicNamesAndTypes := ⟨[("/imu", ["sensor_msgs/msg/Imu"])], by simp⟩
  [.reconcileTopics 0 (fun _ => 1) (fun _ => .created) topics,
    .reconcileTopics 10 (fun _ => 0) (fun _ => .created) topics,
    .reapExpiredSubscriptions 50 fun _ => 0]

/-- With a grace period of 100, its subscription goes at 110. -/
theorem reaping_safe_sensor :
    ∃ (forwarder next : Forwarder) (subscription : OutboundSubscription),
      forwarder.tables.subscriptions.lookup "/imu" = some subscription ∧
      Expired { outgoingTopicPatterns := [fun _ => true], inactiveSubscriptionGrace := 100 } subscription
        next.tables (.reapExpiredSubscriptions 110 fun _ => 0) "/imu" := by
  obtain ⟨forwarder, reached, held⟩ := Machine.Reaches.exists_of_exec
    (calls { outgoingTopicPatterns := [fun _ => true], inactiveSubscriptionGrace := 100 }) { now := 0 }
    sensorGone (fun forwarder => forwarder.tables.subscribed "/imu" = true ∧
      (((calls { outgoingTopicPatterns := [fun _ => true], inactiveSubscriptionGrace := 100 }).step?
        forwarder (.reapExpiredSubscriptions 110 fun _ => 0)).any fun next =>
          !next.tables.subscribed "/imu") = true) (by decide +kernel)
  obtain ⟨subscribed, removed⟩ := held
  obtain ⟨subscription, known⟩ := Option.isSome_iff_exists.mp subscribed
  obtain ⟨next, stepped, gone⟩ := (Option.any_eq_true _ _).mp removed
  refine ⟨forwarder, next, subscription, known, ?_⟩
  exact (reaping_safe _ 0 reached stepped).1 "/imu" subscription known
    (subscribed_eq_false_iff.mp ((Bool.not_eq_true' _).mp gone))

end RosPortal.Outbound
