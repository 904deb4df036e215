import RosPortal.Interleaving.ThreadPool
import RosPortal.Outbound.Tables

/-! Threads that reconcile and reap outbound topics and callbacks that use them, one critical
section at a time. The three tables stay consistent. -/

set_option autoImplicit false

namespace RosPortal.Outbound

open Interleaving Portal

namespace Access

/-- Where a thread is. A thread in `capturing` has found an image topic state. -/
inductive Control where
  | idle
  | reconciling (entries : List (String × List String))
  | creating (topicName topicType : String) (entries : List (String × List String))
  | capturing (index : Nat)
deriving DecidableEq, Repr

/-- The calls and the callbacks with what they find. `skip` is a frame that does not get as
far as a sink. -/
inductive Choice where
  | reconcile (now : Int) (publisherCount : String → Nat) (topics : TopicNamesAndTypes)
  | check
  | create (creation : Creation)
  | reap (now : Int) (publisherCount : String → Nat)
  | sample (topicName : String) (now : Int) (attempt : WriterAttempt)
  | image (topicName : String) (compressed : Bool)
  | capture (publish : Video.PublishVideoTrack) (width height : Int)
  | skip

/-- What a callback goes on with. The callback for compressed images needs a decoder. -/
def found (tables : Tables) (topicName : String) (compressed : Bool) : Control :=
  match tables.findImageTopicState topicName with
  | none => .idle
  | some index =>
      if compressed && !tables.images[index]?.any ImageTopicState.jpegDecoder then .idle
      else .capturing index

def advance (options : Options) (tables : Tables) : Control → Choice → Option (Tables × Control)
  | .idle, .reconcile now publisherCount topics =>
      some (tables.markAbsent now publisherCount, .reconciling topics.entries)
  | .reconciling [], .check => some (tables, .idle)
  | .reconciling (entry :: entries), .check =>
      match tables.wanted options entry with
      | none => some (tables, .reconciling entries)
      | some topicType => some (tables, .creating entry.1 topicType entries)
  | .creating topicName topicType entries, .create creation =>
      some (tables.createSubscriber options topicName topicType creation,
        if creation = .threw then .idle else .reconciling entries)
  | .idle, .reap now publisherCount =>
      some ((tables.reapExpiredSubscriptions options now publisherCount).1, .idle)
  | .idle, .sample topicName now attempt => some (tables.admitSample topicName now attempt, .idle)
  | .idle, .image topicName compressed => some (tables, found tables topicName compressed)
  | .capturing index, .capture publish width height =>
      some (tables.ensureVideoSink index publish width height, .idle)
  | .capturing _, .skip => some (tables, .idle)
  | _, _ => none

def program (options : Options) : Program Tables Control Choice := ⟨advance options⟩

abbrev Config : Type := Pool Tables Control

def initial (threads : Nat) : Config := ⟨{}, List.replicate threads .idle⟩

end Access

/-- The keys of the subscriptions are those of the two other tables together, each in one of
them, and a topic has what the kind of its type needs. -/
structure Tables.Consistent (tables : Tables) : Prop where
  once : tables.subscriptions.keys.Nodup
  keys : ∀ topicName : String, topicName ∈ tables.subscriptions ↔
    topicName ∈ tables.dataTopicStates ∨ topicName ∈ tables.imageTopicStates
  disjoint : ∀ topicName : String,
    ¬ (topicName ∈ tables.dataTopicStates ∧ topicName ∈ tables.imageTopicStates)
  kind : ∀ (topicName : String) (subscription : OutboundSubscription),
    tables.subscriptions.lookup topicName = some subscription →
      subscription.handle = subscriberFor subscription.topicType
  state : ∀ (topicName : String) (subscription : OutboundSubscription),
    tables.subscriptions.lookup topicName = some subscription →
      (topicName ∈ tables.dataTopicStates ↔ subscription.handle = .data subscription.topicType)
  decoder : ∀ (topicName : String) (subscription : OutboundSubscription) (index : Nat),
    tables.subscriptions.lookup topicName = some subscription →
    tables.imageTopicStates.lookup topicName = some index →
      ∃ state, tables.images[index]? = some state ∧
        subscription.handle = if state.jpegDecoder then .compressedImage else .image

structure Tables.SameMaps (before after : Tables) : Prop where
  subscriptions : after.subscriptions = before.subscriptions
  dataTopicStates : after.dataTopicStates = before.dataTopicStates
  imageTopicStates : after.imageTopicStates = before.imageTopicStates

def Tables.KeepsHandles (before after : Tables) : Prop :=
  ∀ (topicName : String) (earlier later : OutboundSubscription),
    before.subscriptions.lookup topicName = some earlier →
    after.subscriptions.lookup topicName = some later →
      later.handle = earlier.handle ∧ later.topicType = earlier.topicType

section Topics

/-- A topic is consistent: it is absent from all tables, or has the state for its kind. -/
inductive Topic.Consistent (images : List ImageTopicState) : Topic → Prop where
  | absent : Consistent images ⟨none, none, none⟩
  | data {subscription : OutboundSubscription} {state : DataTopicState} :
      subscriberFor subscription.topicType = .data subscription.topicType →
      subscription.handle = .data subscription.topicType →
      Consistent images ⟨some subscription, some state, none⟩
  | image {subscription : OutboundSubscription} {index : Nat} {state : ImageTopicState} :
      images[index]? = some state →
      subscriberFor subscription.topicType = (if state.jpegDecoder then .compressedImage else .image) →
      subscription.handle = (if state.jpegDecoder then .compressedImage else .image) →
      Consistent images ⟨some subscription, none, some index⟩

variable {images images' : List ImageTopicState} {topic : Topic}

theorem Topic.Consistent.of_none (consistent : topic.Consistent images) (none : topic.subscription = none) :
    topic = ⟨.none, .none, .none⟩ := by
  cases consistent with
  | absent => rfl
  | data _ _ => cases none
  | image _ _ _ => cases none

/-- The states may change, as long as they keep their decoders. -/
theorem Topic.Consistent.mono (consistent : topic.Consistent images)
    (kept : ∀ (index : Nat) (state : ImageTopicState), images[index]? = some state →
      ∃ state', images'[index]? = some state' ∧ state'.jpegDecoder = state.jpegDecoder) :
    topic.Consistent images' := by
  cases consistent with
  | absent => exact .absent
  | data typed made => exact .data typed made
  | image present typed made =>
      obtain ⟨state', present', same⟩ := kept _ _ present
      rw [← same] at typed made
      exact .image present' typed made

theorem Topic.Consistent.append (added : List ImageTopicState) (consistent : topic.Consistent images) :
    topic.Consistent (images ++ added) :=
  consistent.mono fun _ state present =>
    ⟨state, (List.getElem?_append_left (List.getElem?_eq_some_iff.mp present).1).trans present, rfl⟩

theorem Topic.Consistent.of_subscription {subscription kept : OutboundSubscription}
    (consistent : topic.Consistent images) (subscribed : topic.subscription = some subscription)
    (sameHandle : kept.handle = subscription.handle) (sameType : kept.topicType = subscription.topicType) :
    Topic.Consistent images { topic with subscription := some kept } := by
  cases consistent with
  | absent => cases subscribed
  | data typed made =>
      cases subscribed
      rw [← sameType] at typed made
      exact .data typed (sameHandle.trans made)
  | image present typed made =>
      cases subscribed
      rw [← sameType] at typed
      exact .image present typed (sameHandle.trans made)

theorem Topic.Consistent.of_dataTopicState {state changed : DataTopicState}
    (consistent : topic.Consistent images) (known : topic.dataTopicState = some state) :
    Topic.Consistent images { topic with dataTopicState := some changed } := by
  cases consistent with
  | absent => cases known
  | data typed made => exact .data typed made
  | image _ _ _ => cases known

theorem Topic.Consistent.subscribed_iff (consistent : topic.Consistent images) :
    topic.subscription.isSome = true ↔
      topic.dataTopicState.isSome = true ∨ topic.imageTopicState.isSome = true := by
  cases consistent <;> simp

theorem Topic.Consistent.one_state (consistent : topic.Consistent images) :
    ¬ (topic.dataTopicState.isSome = true ∧ topic.imageTopicState.isSome = true) := by
  cases consistent <;> simp

theorem Topic.Consistent.kind {subscription : OutboundSubscription} (consistent : topic.Consistent images)
    (known : topic.subscription = some subscription) :
    subscription.handle = subscriberFor subscription.topicType := by
  cases consistent with
  | absent => cases known
  | data typed made =>
      cases known
      exact made.trans typed.symm
  | image _ typed made =>
      cases known
      exact made.trans typed.symm

theorem Topic.Consistent.data_iff {subscription : OutboundSubscription} (consistent : topic.Consistent images)
    (known : topic.subscription = some subscription) :
    topic.dataTopicState.isSome = true ↔ subscription.handle = .data subscription.topicType := by
  cases consistent with
  | absent => cases known
  | data _ made =>
      cases known
      simp [made]
  | image _ _ made =>
      cases known
      rw [made]
      split <;> simp

theorem Topic.Consistent.decoder {subscription : OutboundSubscription} {index : Nat}
    (consistent : topic.Consistent images) (known : topic.subscription = some subscription)
    (present : topic.imageTopicState = some index) :
    ∃ state, images[index]? = some state ∧
      subscription.handle = if state.jpegDecoder then .compressedImage else .image := by
  cases consistent with
  | absent => cases known
  | data _ _ => cases present
  | image found _ made =>
      cases known
      cases present
      exact ⟨_, found, made⟩

theorem reap_same {subscription kept : OutboundSubscription} {now grace : Int} {publisherCount : Nat}
    (reaped : subscription.reap now publisherCount grace = some kept) :
    kept.handle = subscription.handle ∧ kept.topicType = subscription.topicType := by
  unfold OutboundSubscription.reap at reaped
  split at reaped
  · cases reaped
    exact ⟨rfl, rfl⟩
  · split_ifs at reaped
    · cases reaped
      exact ⟨rfl, rfl⟩
    · cases reaped
      exact ⟨rfl, rfl⟩

theorem Topic.Consistent.mark (consistent : topic.Consistent images) (now : Int) (publisherCount : Nat) :
    (topic.mark now publisherCount).Consistent images := by
  cases known : topic.subscription with
  | none => rwa [Topic.mark_absent known]
  | some subscription =>
      simp only [Topic.mark, known, Option.map_some]
      exact consistent.of_subscription known rfl rfl

theorem Topic.Consistent.reap (consistent : topic.Consistent images) (now grace : Int)
    (publisherCount : Nat) : (topic.reap now publisherCount grace).Consistent images := by
  cases known : topic.subscription with
  | none => rwa [Topic.reap_absent known]
  | some subscription =>
      simp only [Topic.reap, known]
      split
      next kept reaped =>
        obtain ⟨sameHandle, sameType⟩ := reap_same reaped
        exact consistent.of_subscription known sameHandle sameType
      · exact .absent

end Topics

section Creating

variable {options : Options} {tables next : Tables} {topicName topicType : String} {creation : Creation}

/-- What creating a subscription does: the maps stay as they are, or the topic comes to all
it needs. -/
inductive Tables.Creates (tables : Tables) (topicName : String) (creation : Creation) (next : Tables) :
    Prop where
  | kept (added : List ImageTopicState) : tables.SameMaps next → next.images = tables.images ++ added →
      Creates tables topicName creation next
  | created (added : List ImageTopicState) : creation = .created →
      (tables.topic topicName).subscription = none → next.images = tables.images ++ added →
      (∀ other, other ≠ topicName → next.topic other = tables.topic other) →
      (next.topic topicName).Consistent next.images → Creates tables topicName creation next

theorem erase_insert {Value : Type} {map : AList fun _ : String => Value} (value : Value)
    (absent : map.lookup topicName = none) : (map.insert topicName value).erase topicName = map := by
  have fresh : topicName ∉ map := AList.lookup_eq_none.mp absent
  apply AList.ext
  change (map.insert topicName value).entries.kerase topicName = map.entries
  rw [AList.entries_insert_of_notMem fresh]
  exact List.kerase_cons_eq rfl

theorem createDataSubscriber_creates (typed : subscriberFor topicType = .data topicType)
    (fresh : (tables.topic topicName).subscription = none → tables.topic topicName = ⟨none, none, none⟩) :
    tables.Creates topicName creation
      (tables.createDataSubscriber options topicName topicType creation) := by
  unfold Tables.createDataSubscriber
  cases known : tables.subscribed topicName with
  | true => exact .kept [] ⟨rfl, rfl, rfl⟩ (List.append_nil _).symm
  | false =>
      have unsubscribed := subscribed_eq_false_iff.mp known
      obtain ⟨_, noData, noImage⟩ := Topic.mk.inj (fresh unsubscribed)
      cases creation with
      | threw => exact .kept [] ⟨rfl, rfl, rfl⟩ (List.append_nil _).symm
      | failed => exact .kept [] ⟨rfl, erase_insert _ noData, rfl⟩ (List.append_nil _).symm
      | created =>
          refine .created [] rfl unsubscribed (List.append_nil _).symm ?_ ?_
          · intro other different
            simp [Tables.topic, AList.lookup_insert_ne different]
          · simp only [Bool.false_eq_true, if_false, Tables.topic, AList.lookup_insert, noImage]
            exact .data typed rfl

theorem subscribeVideoTopic_creates {compressed : Bool}
    (typed : subscriberFor topicType = if compressed then .compressedImage else .image)
    (fresh : (tables.topic topicName).subscription = none → tables.topic topicName = ⟨none, none, none⟩) :
    tables.Creates topicName creation (tables.subscribeVideoTopic topicName topicType compressed creation) := by
  unfold Tables.subscribeVideoTopic
  cases known : tables.subscribed topicName with
  | true => exact .kept [] ⟨rfl, rfl, rfl⟩ (List.append_nil _).symm
  | false =>
      have unsubscribed := subscribed_eq_false_iff.mp known
      obtain ⟨_, noData, noImage⟩ := Topic.mk.inj (fresh unsubscribed)
      cases creation with
      | threw => exact .kept [] ⟨rfl, rfl, rfl⟩ (List.append_nil _).symm
      | failed => exact .kept [_] ⟨rfl, rfl, erase_insert _ noImage⟩ rfl
      | created =>
          refine .created [_] rfl unsubscribed rfl ?_ ?_
          · intro other different
            simp [Tables.topic, AList.lookup_insert_ne different]
          · simp only [Bool.false_eq_true, if_false, Tables.topic, AList.lookup_insert, noData]
            exact .image List.getElem?_concat_length typed rfl

theorem subscriberFor_image : subscriberFor kImageMsgType = .image := rfl

theorem subscriberFor_compressedImage : subscriberFor kCompressedImageMsgType = .compressedImage := by
  decide +kernel

theorem subscriberFor_data {typeName : String} (chosen : subscriberFor topicType = .data typeName) :
    typeName = topicType := by
  unfold subscriberFor at chosen
  split_ifs at chosen
  exact (Subscriber.data.inj chosen).symm

theorem createSubscriber_creates
    (fresh : (tables.topic topicName).subscription = none → tables.topic topicName = ⟨none, none, none⟩) :
    tables.Creates topicName creation (tables.createSubscriber options topicName topicType creation) := by
  unfold Tables.createSubscriber
  cases chosen : subscriberFor topicType with
  | image => exact subscribeVideoTopic_creates subscriberFor_image fresh
  | compressedImage => exact subscribeVideoTopic_creates subscriberFor_compressedImage fresh
  | data typeName =>
      cases subscriberFor_data chosen
      exact createDataSubscriber_creates chosen fresh

end Creating

namespace Access

section Steps

variable {options : Options} {tables : Tables}

inductive Transition (options : Options) (tables : Tables) : Choice → Tables → Prop where
  | same {choice : Choice} : Transition options tables choice tables
  | marked {now : Int} {publisherCount : String → Nat} {topics : TopicNamesAndTypes} :
      Transition options tables (.reconcile now publisherCount topics) (tables.markAbsent now publisherCount)
  | reaped {now : Int} {publisherCount : String → Nat} :
      Transition options tables (.reap now publisherCount)
        (tables.reapExpiredSubscriptions options now publisherCount).1
  | creating {topicName topicType : String} {creation : Creation} :
      Transition options tables (.create creation)
        (tables.createSubscriber options topicName topicType creation)
  | sampled {topicName : String} {now : Int} {attempt : WriterAttempt} :
      Transition options tables (.sample topicName now attempt) (tables.admitSample topicName now attempt)
  | captured {index : Nat} {publish : Video.PublishVideoTrack} {width height : Int} :
      Transition options tables (.capture publish width height)
        (tables.ensureVideoSink index publish width height)

theorem advance_transition {next : Tables} {before after : Control} {choice : Choice}
    (advanced : advance options tables before choice = some (next, after)) :
    Transition options tables choice next := by
  cases before with
  | idle =>
      cases choice with
      | reconcile now publisherCount topics =>
          cases advanced
          exact .marked
      | reap now publisherCount =>
          cases advanced
          exact .reaped
      | sample topicName now attempt =>
          cases advanced
          exact .sampled
      | image topicName compressed =>
          cases advanced
          exact .same
      | check | create _ | capture _ _ _ | skip => cases advanced
  | reconciling entries =>
      cases choice with
      | check =>
          cases entries with
          | nil =>
              cases advanced
              exact .same
          | cons entry entries =>
              simp only [advance] at advanced
              split at advanced
              · cases advanced
                exact .same
              · cases advanced
                exact .same
      | reconcile _ _ _ | create _ | reap _ _ | sample _ _ _ | image _ _ | capture _ _ _ | skip =>
          cases entries <;> cases advanced
  | creating topicName topicType entries =>
      cases choice with
      | create creation =>
          cases advanced
          exact .creating
      | reconcile _ _ _ | check | reap _ _ | sample _ _ _ | image _ _ | capture _ _ _ | skip => cases advanced
  | capturing index =>
      cases choice with
      | capture publish width height =>
          cases advanced
          exact .captured
      | skip =>
          cases advanced
          exact .same
      | reconcile _ _ _ | check | create _ | reap _ _ | sample _ _ _ | image _ _ => cases advanced

end Steps

section Invariant

variable {options : Options} {tables : Tables}

def AllConsistent (tables : Tables) : Prop := ∀ topicName, (tables.topic topicName).Consistent tables.images

theorem allConsistent_initial : AllConsistent {} := fun _ => .absent

theorem AllConsistent.fresh (consistent : AllConsistent tables) {topicName : String}
    (unsubscribed : (tables.topic topicName).subscription = none) :
    tables.topic topicName = ⟨none, none, none⟩ :=
  (consistent topicName).of_none unsubscribed

theorem AllConsistent.creating (consistent : AllConsistent tables) (options : Options)
    (topicName topicType : String) (creation : Creation) :
    tables.Creates topicName creation (tables.createSubscriber options topicName topicType creation) :=
  createSubscriber_creates consistent.fresh

theorem AllConsistent.markAbsent (consistent : AllConsistent tables) (now : Int)
    (publisherCount : String → Nat) : AllConsistent (tables.markAbsent now publisherCount) := by
  intro topicName
  rw [topic_markAbsent, markAbsent_images]
  exact (consistent topicName).mark now _

theorem AllConsistent.reap (consistent : AllConsistent tables) (now : Int)
    (publisherCount : String → Nat) :
    AllConsistent (tables.reapExpiredSubscriptions options now publisherCount).1 := by
  intro topicName
  rw [topic_reapExpiredSubscriptions, reapExpiredSubscriptions_images]
  exact (consistent topicName).reap now _ _

theorem AllConsistent.creates {next : Tables} {topicName : String} {creation : Creation}
    (consistent : AllConsistent tables) (creates : tables.Creates topicName creation next) :
    AllConsistent next := by
  intro other
  cases creates with
  | kept added same grown =>
      have unchanged : next.topic other = tables.topic other := by
        simp only [Tables.topic, same.subscriptions, same.dataTopicStates, same.imageTopicStates]
      rw [unchanged, grown]
      exact (consistent other).append added
  | created added _ _ grown others made =>
      by_cases same : other = topicName
      · exact same ▸ made
      · rw [others other same, grown]
        exact (consistent other).append added

theorem topic_admitSample (tables : Tables) (topicName other : String) (now : Int) (attempt : WriterAttempt) :
    (tables.admitSample topicName now attempt).topic other = tables.topic other ∨
      ∃ state admitted, (tables.topic other).dataTopicState = some state ∧
        (tables.admitSample topicName now attempt).topic other =
          { tables.topic other with dataTopicState := some admitted } := by
  unfold Tables.admitSample
  split
  · exact .inl rfl
  next state known =>
    by_cases same : other = topicName
    · subst other
      exact .inr ⟨state, (state.enter now attempt).1, known, by simp [Tables.topic]⟩
    · exact .inl (by simp [Tables.topic, AList.lookup_insert_ne same])

theorem AllConsistent.admitSample (consistent : AllConsistent tables) (topicName : String) (now : Int)
    (attempt : WriterAttempt) : AllConsistent (tables.admitSample topicName now attempt) := by
  have sameImages : (tables.admitSample topicName now attempt).images = tables.images := by
    unfold Tables.admitSample
    split <;> rfl
  intro other
  rw [sameImages]
  rcases topic_admitSample tables topicName other now attempt with same | ⟨state, admitted, known, changed⟩
  · exact same ▸ consistent other
  · rw [changed]
    exact (consistent other).of_dataTopicState known

theorem AllConsistent.ensureVideoSink (consistent : AllConsistent tables) (index : Nat)
    (publish : Video.PublishVideoTrack) (width height : Int) :
    AllConsistent (tables.ensureVideoSink index publish width height) := by
  intro topicName
  refine (consistent topicName).mono fun position state present => ?_
  by_cases here : index = position
  · subst position
    simp only [Tables.ensureVideoSink, List.getElem?_modify_eq, present]
    exact ⟨_, rfl, rfl⟩
  · exact ⟨state, by simp [Tables.ensureVideoSink, present, here], rfl⟩

theorem AllConsistent.transition {next : Tables} {choice : Choice} (consistent : AllConsistent tables)
    (transition : Transition options tables choice next) : AllConsistent next := by
  cases transition with
  | same => exact consistent
  | marked => exact consistent.markAbsent _ _
  | reaped => exact consistent.reap _ _
  | creating => exact consistent.creates (consistent.creating options _ _ _)
  | sampled => exact consistent.admitSample _ _ _
  | captured => exact consistent.ensureVideoSink _ _ _ _

theorem allConsistent_of_reaches {threads : Nat} {config : Config}
    (reached : (program options).machine.Reaches (initial threads) config) : AllConsistent config.shared := by
  induction reached with
  | refl => exact allConsistent_initial
  | step _ _ stepped consistent =>
      obtain ⟨before, after, step⟩ := Program.stepOf stepped
      exact consistent.transition (advance_transition step.advanced)

end Invariant

section Kept

variable {options : Options} {tables next : Tables}

theorem keepsHandles_of_same (same : ∀ topicName : String, (next.topic topicName).subscription =
    (tables.topic topicName).subscription) : tables.KeepsHandles next := by
  intro topicName earlier later before after
  have one : some later = some earlier := after.symm.trans ((same topicName).trans before)
  cases one
  exact ⟨rfl, rfl⟩

theorem Transition.keepsHandles {choice : Choice} (transition : Transition options tables choice next)
    (consistent : AllConsistent tables) : tables.KeepsHandles next := by
  cases transition with
  | same => exact keepsHandles_of_same fun _ => rfl
  | @marked now publisherCount _ =>
      intro topicName earlier later before after
      have marked : (tables.topic topicName).mark now (publisherCount topicName) =
          (tables.markAbsent now publisherCount).topic topicName :=
        (topic_markAbsent tables now publisherCount topicName).symm
      have seen := congrArg Topic.subscription marked
      simp only [Topic.mark, Tables.topic, before, after, Option.map_some, Option.some.injEq] at seen
      rw [← seen]
      exact ⟨rfl, rfl⟩
  | @reaped now publisherCount =>
      intro topicName earlier later before after
      have reaped := congrArg Topic.subscription
        (topic_reapExpiredSubscriptions options tables now publisherCount topicName)
      simp only [Topic.reap, Tables.topic, before, after] at reaped
      split at reaped
      next kept survived =>
        cases reaped
        exact reap_same survived
      · cases reaped
  | @creating topicName topicType creation =>
      cases consistent.creating options topicName topicType creation with
      | kept added same _ =>
          exact keepsHandles_of_same fun other => by simp only [Tables.topic, same.subscriptions]
      | created added _ unsubscribed _ others _ =>
          intro other earlier later before after
          by_cases here : other = topicName
          · subst other
            cases unsubscribed.symm.trans before
          · have one := (congrArg Topic.subscription (others other here)).symm.trans after
            cases before.symm.trans one
            exact ⟨rfl, rfl⟩
  | @sampled topicName now attempt =>
      refine keepsHandles_of_same fun other => ?_
      rcases topic_admitSample tables topicName other now attempt with same | ⟨_, _, _, changed⟩
      · rw [same]
      · rw [changed]
  | captured => exact keepsHandles_of_same fun _ => rfl

/-- Only a creation that succeeds changes the maps. -/
theorem Transition.sameMaps {creation : Creation} (transition : Transition options tables (.create creation) next)
    (consistent : AllConsistent tables) (failing : creation ≠ .created) : tables.SameMaps next := by
  cases transition with
  | same => exact ⟨rfl, rfl, rfl⟩
  | @creating topicName topicType =>
      cases consistent.creating options topicName topicType creation with
      | kept _ same _ => exact same
      | created _ succeeded _ _ _ _ => exact absurd succeeded failing

end Kept

theorem AllConsistent.tables {tables : Tables} (consistent : AllConsistent tables) : tables.Consistent where
  once := tables.subscriptions.keys_nodup
  keys topicName := by
    rw [← AList.lookup_isSome, ← AList.lookup_isSome, ← AList.lookup_isSome]
    exact (consistent topicName).subscribed_iff
  disjoint topicName := by
    rw [← AList.lookup_isSome, ← AList.lookup_isSome]
    exact (consistent topicName).one_state
  kind topicName _ known := (consistent topicName).kind known
  state topicName _ known := by
    rw [← AList.lookup_isSome]
    exact (consistent topicName).data_iff known
  decoder topicName _ _ known present := (consistent topicName).decoder known present

/-- Whatever happens, the tables are consistent, a topic keeps its subscription for as long as
it is subscribed, and a creation that fails leaves the maps as they were. -/
theorem tables_consistent (options : Options) (threads : Nat) {config : Config}
    (reached : (program options).machine.Reaches (initial threads) config) :
    config.shared.Consistent ∧
      ∀ (label : Nat × Choice) (next : Config), (program options).machine.step? config label = some next →
        config.shared.KeepsHandles next.shared ∧
          ∀ creation, label.2 = .create creation → creation ≠ .created →
            config.shared.SameMaps next.shared := by
  have consistent := allConsistent_of_reaches reached
  refine ⟨consistent.tables, fun label next stepped => ?_⟩
  obtain ⟨before, after, step⟩ := Program.stepOf stepped
  have transition := advance_transition step.advanced
  refine ⟨transition.keepsHandles consistent, fun creation chosen failing => ?_⟩
  rw [chosen] at transition
  exact transition.sameMaps consistent failing

def sensorTopics : TopicNamesAndTypes where
  entries := [("/camera", [kImageMsgType]), ("/imu", ["sensor_msgs/msg/Imu"])]
  sorted := by decide +kernel

/-- Two threads are about to subscribe the camera. -/
def bothCreating : List (Nat × Choice) :=
  [(0, .reconcile 0 (fun _ => 1) sensorTopics), (1, .reconcile 0 (fun _ => 1) sensorTopics),
    (0, .check), (1, .check)]

/-- The first of them fails and goes on to subscribe the sensor, the second succeeds. -/
def oneFails : List (Nat × Choice) :=
  [(0, .create .failed), (1, .create .created), (0, .check), (0, .create .created), (1, .check)]

theorem tables_consistent_two_threads :
    ∃ config : Config, config.shared.subscriptions.keys = ["/imu", "/camera"] ∧ config.shared.Consistent := by
  obtain ⟨config, reached, keys⟩ := Machine.Reaches.exists_of_exec
    (program { outgoingTopicPatterns := [fun _ => true] }).machine (initial 2) (bothCreating ++ oneFails)
    (fun config => config.shared.subscriptions.keys = ["/imu", "/camera"]) (by decide +kernel)
  exact ⟨config, keys, (tables_consistent _ 2 reached).1⟩

end Access

end RosPortal.Outbound
