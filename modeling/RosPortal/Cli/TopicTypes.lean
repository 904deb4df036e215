import Mathlib.Data.List.Dedup
import RosPortal.Cli.TopicPub

/-! When all messages of a topic have one type: the cache keeps what it has, so the one way to
a second type is to publish before the first has got into it. -/

set_option autoImplicit false

namespace RosPortal.Cli.TopicPub

open JsonText Interleaving

section Steps

variable {shared shared' : Shared} {before after : Control} {choice : Choice}

def Control.done : Control → Bool
  | .returned _ | .threw _ => true
  | _ => false

inductive Transition : Shared → Control → Choice → Shared → Control → Prop where
  | ended {shared : Shared} {cacheFullRejections : Nat} {before after : Control} {choice : Choice} :
      before.uncached? = none → choice.succeeds = false → after.done = true →
      Transition shared before choice { shared with cacheFullRejections } after
  | resolved {shared : Shared} {options : TopicPubOptions} {topic : Bytes} {choice : Choice} :
      Transition shared (.called options) choice shared (.resolved options topic)
  | permitted {shared : Shared} {options : TopicPubOptions} {topic : Bytes} {choice : Choice} :
      Transition shared (.resolved options topic) choice
        { shared with allowed := topic :: shared.allowed } (.permitted options topic)
  | hit {shared : Shared} {options : TopicPubOptions} {topic : Bytes} {publisher : Nat} {choice : Choice} :
      shared.publishers.lookup topic = some ⟨options.msgType, publisher⟩ →
      Transition shared (.permitted options topic) choice shared (.ready options topic publisher true)
  | missed {shared : Shared} {options : TopicPubOptions} {topic : Bytes} {choice : Choice} :
      Transition shared (.permitted options topic) choice shared (.missed options topic)
  | checked {shared : Shared} {options : TopicPubOptions} {topic : Bytes} {choice : Choice} :
      Transition shared (.missed options topic) choice shared (.checked options topic)
  | created {shared : Shared} {options : TopicPubOptions} {topic : Bytes} {choice : Choice} :
      Transition shared (.checked options topic) choice { shared with created := shared.created + 1 }
        (.ready options topic shared.created false)
  | published {shared : Shared} {options : TopicPubOptions} {topic : Bytes} {publisher : Nat}
      {cached : Bool} {choice : Choice} : choice.succeeds = true →
      Transition shared (.ready options topic publisher cached) choice
        { shared with published := ⟨topic, options.msgType, publisher⟩ :: shared.published }
        (if cached then .returned ⟨true, [], []⟩ else .published options topic publisher)
  | inserted {shared : Shared} {options : TopicPubOptions} {topic : Bytes} {publisher : Nat} :
      Transition shared (.published options topic publisher) .insert
        (insertPublisher shared options topic publisher) (.returned ⟨true, [], []⟩)

theorem lookupPublisher_transition (options : TopicPubOptions) (topic : Bytes) :
    Transition shared (.permitted options topic) .lookup (lookupPublisher shared options topic).1
      (lookupPublisher shared options topic).2 := by
  unfold lookupPublisher
  split
  next entry found =>
    split_ifs with same
    · exact .ended rfl rfl rfl
    · obtain ⟨msgType, publisher⟩ := entry
      rw [ne_eq, not_not] at same
      exact .hit (found.trans (by rw [← same]))
  · split_ifs with full
    · exact .ended rfl rfl rfl
    · exact .missed

theorem publishMessage_transition (options : TopicPubOptions) (topic : Bytes) (publisher : Nat)
    (cached : Bool) (serialized publishing : Except Bytes Unit) :
    Transition shared (.ready options topic publisher cached) (.publish (.ok serialized) publishing)
      (publishMessage shared options topic publisher cached serialized publishing).1
      (publishMessage shared options topic publisher cached serialized publishing).2 := by
  cases serialized with
  | error what => exact .ended rfl rfl rfl
  | ok _ =>
      cases publishing with
      | error what => exact .ended rfl rfl rfl
      | ok _ => exact .published rfl

theorem checkSnapshot_transition (options : TopicPubOptions) (topic : Bytes)
    (topicNamesAndTypes : List (Bytes × List Bytes)) :
    Transition shared (.missed options topic) (.snapshot (.ok topicNamesAndTypes)) shared
      (checkSnapshot options topic topicNamesAndTypes) := by
  unfold checkSnapshot
  split
  · exact .checked
  · split_ifs
    · exact .ended rfl rfl rfl
    · exact .checked

theorem advance_transition (advanced : advance shared before choice = some (shared', after)) :
    Transition shared before choice shared' after := by
  unfold advance at advanced
  split at advanced
  · cases advanced
    exact .ended rfl rfl rfl
  · cases advanced
    exact .resolved
  · cases advanced
    exact .ended rfl rfl rfl
  · cases advanced
    exact .ended rfl rfl rfl
  · cases advanced
    exact .permitted
  next options topic =>
    have step := @lookupPublisher_transition shared options topic
    rw [Option.some.inj advanced] at step
    exact step
  · cases advanced
    exact .ended rfl rfl rfl
  next options topic topicNamesAndTypes =>
    cases advanced
    exact checkSnapshot_transition options topic topicNamesAndTypes
  · cases advanced
    exact .ended rfl rfl rfl
  · cases advanced
    exact .created
  · cases advanced
    exact .ended rfl rfl rfl
  next options topic publisher cached serialized publishing =>
    have step := @publishMessage_transition shared options topic publisher cached serialized publishing
    rw [Option.some.inj advanced] at step
    exact step
  · cases advanced
    exact .inserted
  · cases advanced

end Steps

section Insertion

variable {shared : Shared} {options : TopicPubOptions} {topic : Bytes} {publisher : Nat}

theorem insertPublisher_kept {key : Bytes} {entry : Entry}
    (found : shared.publishers.lookup key = some entry) :
    (insertPublisher shared options topic publisher).publishers.lookup key = some entry := by
  unfold insertPublisher
  split_ifs with room
  · have different : key ≠ topic := by
      rintro rfl
      cases room.1.symm.trans found
    exact (AList.lookup_insert_ne different).trans found
  · exact found

theorem insertPublisher_entry {key : Bytes} {entry : Entry}
    (found : (insertPublisher shared options topic publisher).publishers.lookup key = some entry) :
    shared.publishers.lookup key = some entry ∨
      (key = topic ∧ entry = ⟨options.msgType, publisher⟩) := by
  unfold insertPublisher at found
  split_ifs at found with room
  · by_cases same : key = topic
    · subst key
      rw [AList.lookup_insert] at found
      exact .inr ⟨rfl, (Option.some.inj found).symm⟩
    · exact .inl ((AList.lookup_insert_ne same).symm.trans found)
  · exact .inl found

theorem insertPublisher_bounded (bounded : shared.publishers.keys.length ≤ maxCachedTopicPublishers) :
    (insertPublisher shared options topic publisher).publishers.keys.length ≤
      maxCachedTopicPublishers := by
  unfold insertPublisher
  split_ifs with room
  · rw [AList.keys_insert, List.length_cons]
    have shorter := (@List.erase_sublist _ instBEqOfDecidableEq topic shared.publishers.keys).length_le
    exact Nat.succ_le_of_lt (Nat.lt_of_le_of_lt shorter room.2)
  · exact bounded

theorem insertPublisher_present (room : shared.publishers.lookup topic = none →
    shared.publishers.keys.length < maxCachedTopicPublishers) :
    ∃ entry, (insertPublisher shared options topic publisher).publishers.lookup topic = some entry := by
  cases found : shared.publishers.lookup topic with
  | some entry => exact ⟨entry, insertPublisher_kept found⟩
  | none =>
      rw [insertPublisher, if_pos ⟨found, room found⟩]
      exact ⟨_, AList.lookup_insert _⟩

theorem insertPublisher_recorded :
    (insertPublisher shared options topic publisher).published = shared.published ∧
      (insertPublisher shared options topic publisher).allowed = shared.allowed := by
  unfold insertPublisher
  split_ifs <;> exact ⟨rfl, rfl⟩

end Insertion

section Safety

variable {shared shared' : Shared} {before after : Control} {choice : Choice}

/-- The topic that the call may publish to. -/
def Control.topic? : Control → Option Bytes
  | .permitted _ topic | .missed _ topic | .checked _ topic | .ready _ topic _ _
  | .published _ topic _ => some topic
  | _ => none

/-- The entry that the publisher of the call came from. -/
def Control.entry? : Control → Option (Bytes × Entry)
  | .ready options topic publisher true => some (topic, ⟨options.msgType, publisher⟩)
  | _ => none

/-- What the call has published and is yet to cache. -/
def Control.publication? : Control → Option Publication
  | .published options topic publisher => some ⟨topic, options.msgType, publisher⟩
  | _ => none

structure Control.Sound (shared : Shared) (control : Control) : Prop where
  allowed : ∀ topic, control.topic? = some topic → topic ∈ shared.allowed
  cached : ∀ slot, control.entry? = some slot → shared.publishers.lookup slot.1 = some slot.2
  published : ∀ publication, control.publication? = some publication → publication ∈ shared.published

theorem Transition.grows (transition : Transition shared before choice shared' after) :
    shared.allowed ⊆ shared'.allowed ∧ shared.published ⊆ shared'.published ∧
      ∀ topic entry, shared.publishers.lookup topic = some entry →
        shared'.publishers.lookup topic = some entry := by
  cases transition with
  | permitted => exact ⟨List.subset_cons_self _ _, List.Subset.refl _, fun _ _ found => found⟩
  | published _ => exact ⟨List.Subset.refl _, List.subset_cons_self _ _, fun _ _ found => found⟩
  | inserted =>
      rw [insertPublisher_recorded.1, insertPublisher_recorded.2]
      exact ⟨List.Subset.refl _, List.Subset.refl _, fun _ _ found => insertPublisher_kept found⟩
  | ended | resolved | hit | missed | checked | created =>
      exact ⟨List.Subset.refl _, List.Subset.refl _, fun _ _ found => found⟩

theorem Control.Sound.mono {control : Control} (sound : control.Sound shared)
    (transition : Transition shared before choice shared' after) : control.Sound shared' where
  allowed topic targets := transition.grows.1 (sound.allowed topic targets)
  cached slot same := transition.grows.2.2 _ _ (sound.cached slot same)
  published publication same := transition.grows.2.1 (sound.published publication same)

theorem Control.Sound.of_done (done : after.done = true) : after.Sound shared := by
  constructor
  all_goals
    intro _ same
    cases after with
    | returned _ | threw _ => cases same
    | called _ | resolved _ _ | permitted _ _ | missed _ _ | checked _ _ | ready _ _ _ _
    | published _ _ _ => cases done

theorem Transition.sound (transition : Transition shared before choice shared' after)
    (sound : before.Sound shared) : after.Sound shared' := by
  cases transition with
  | ended _ _ done => exact .of_done done
  | inserted => exact .of_done rfl
  | resolved => constructor <;> rintro _ ⟨⟩
  | permitted =>
      constructor <;> rintro _ ⟨⟩
      exact List.mem_cons_self
  | hit found =>
      constructor <;> rintro _ ⟨⟩
      · exact sound.allowed _ rfl
      · exact found
  | missed | checked | created =>
      constructor <;> rintro _ ⟨⟩
      exact sound.allowed _ rfl
  | @published options topic publisher cached _ _ =>
      cases cached with
      | true => exact .of_done rfl
      | false =>
          constructor <;> rintro _ ⟨⟩
          · exact sound.allowed _ rfl
          · exact List.mem_cons_self

theorem Transition.bounded (transition : Transition shared before choice shared' after)
    (bounded : shared.publishers.keys.length ≤ maxCachedTopicPublishers) :
    shared'.publishers.keys.length ≤ maxCachedTopicPublishers := by
  cases transition with
  | inserted => exact insertPublisher_bounded bounded
  | ended | resolved | permitted | hit | missed | checked | created | published => exact bounded

/-- An entry was in the cache before, or its publisher has published and gets into it. -/
theorem Transition.entry_cases (transition : Transition shared before choice shared' after)
    {topic : Bytes} {entry : Entry} (found : shared'.publishers.lookup topic = some entry) :
    shared.publishers.lookup topic = some entry ∨
      before.publication? = some ⟨topic, entry.msgType, entry.publisher⟩ := by
  cases transition with
  | inserted =>
      rcases insertPublisher_entry found with earlier | ⟨rfl, rfl⟩
      · exact .inl earlier
      · exact .inr rfl
  | ended | resolved | permitted | hit | missed | checked | created | published => exact .inl found

/-- A message is published by a cached publisher, or by one of its own that is then to be
cached. -/
theorem Transition.published_cases (transition : Transition shared before choice shared' after) :
    shared'.published = shared.published ∨ ∃ publication,
      shared'.published = publication :: shared.published ∧ choice.succeeds = true ∧
        before.topic? = some publication.topic ∧
          (before.entry? = some (publication.topic, ⟨publication.msgType, publication.publisher⟩) ∨
            before.unpinned? = some (publication.topic, publication.msgType) ∧
              after.uncached? = some (publication.topic, publication.msgType)) := by
  cases transition with
  | @published options topic publisher cached _ succeeded =>
      refine .inr ⟨_, rfl, succeeded, rfl, ?_⟩
      cases cached with
      | true => exact .inl rfl
      | false => exact .inr ⟨rfl, rfl⟩
  | inserted => exact .inl insertPublisher_recorded.1
  | ended | resolved | permitted | hit | missed | checked | created => exact .inl rfl

structure Safe (pool : Pool Shared Control) : Prop where
  sound : ∀ control ∈ pool.threads, control.Sound pool.shared
  bounded : pool.shared.publishers.keys.length ≤ maxCachedTopicPublishers
  entries : ∀ topic entry, pool.shared.publishers.lookup topic = some entry →
    ⟨topic, entry.msgType, entry.publisher⟩ ∈ pool.shared.published
  allowed : ∀ publication ∈ pool.shared.published, publication.topic ∈ pool.shared.allowed

variable {pool next : Pool Shared Control} {thread : Nat} {requests : List TopicPubOptions}

theorem Safe.start : Safe (initial requests) := by
  constructor
  · intro control member
    obtain ⟨options, _, rfl⟩ := List.mem_map.mp member
    constructor <;> rintro _ ⟨⟩
  · exact Nat.zero_le _
  · intro topic entry found
    cases (AList.lookup_empty topic).symm.trans found
  · intro publication member
    cases member

theorem Safe.step (safe : Safe pool) (stepped : program.StepOf pool thread choice next before after) :
    Safe next := by
  have transition := advance_transition stepped.advanced
  have running : before.Sound pool.shared := safe.sound before (List.mem_of_getElem? stepped.running)
  obtain ⟨allowed, published, _⟩ := transition.grows
  constructor
  · exact stepped.everywhere safe.sound (transition.sound running) fun control sound => sound.mono transition
  · exact transition.bounded safe.bounded
  · intro topic entry found
    rcases transition.entry_cases found with earlier | inserted
    · exact published (safe.entries topic entry earlier)
    · exact published (running.published _ inserted)
  · rcases transition.published_cases with same | ⟨publication, added, _, targets, _⟩
    · rw [same]
      exact fun publication member => allowed (safe.allowed publication member)
    · rw [added, List.forall_mem_cons]
      exact ⟨allowed (running.allowed _ targets),
        fun publication member => allowed (safe.allowed publication member)⟩

theorem safe_of_run {permitted : Pool Shared Control → Nat × Choice → Prop}
    (run : program.machine.Run permitted (initial requests) pool) : Safe pool := by
  induction run with
  | refl => exact .start
  | step _ _ stepped safe =>
      obtain ⟨before, after, step⟩ := Program.stepOf stepped
      exact safe.step step

end Safety

section Types

variable {shared shared' : Shared} {before after : Control} {choice : Choice}
  {pool next : Pool Shared Control} {thread : Nat} {requests : List TopicPubOptions}

theorem publishedTopics_le (more : shared.published ⊆ shared'.published) :
    (publishedTopics shared).length ≤ (publishedTopics shared').length := by
  apply List.Subperm.length_le
  apply List.subperm_of_subset (List.nodup_dedup _)
  intro topic member
  rw [publishedTopics, List.mem_dedup] at *
  exact List.map_subset _ more member

/-- While few topics have been published to, one that is not in the cache finds room in it. -/
theorem Safe.room (safe : Safe pool)
    (few : (publishedTopics pool.shared).length < maxCachedTopicPublishers) {publication : Publication}
    (member : publication ∈ pool.shared.published)
    (absent : pool.shared.publishers.lookup publication.topic = none) :
    pool.shared.publishers.keys.length < maxCachedTopicPublishers := by
  have distinct : (publication.topic :: pool.shared.publishers.keys).Nodup :=
    List.nodup_cons.mpr ⟨AList.lookup_eq_none.mp absent, pool.shared.publishers.keys_nodup⟩
  have published : publication.topic :: pool.shared.publishers.keys ⊆ publishedTopics pool.shared := by
    intro topic listed
    rw [publishedTopics, List.mem_dedup]
    rcases List.mem_cons.mp listed with rfl | cached
    · exact List.mem_map_of_mem member
    · obtain ⟨entry, found⟩ := Option.isSome_iff_exists.mp (AList.lookup_isSome.mpr cached)
      exact List.mem_map_of_mem (safe.entries topic entry found)
  have fits := (List.subperm_of_subset distinct published).length_le
  rw [List.length_cons] at fits
  omega

theorem Transition.pins (transition : Transition shared before choice shared' after)
    {topic msgType : Bytes} (uncached : before.uncached? = some (topic, msgType))
    (room : shared.publishers.lookup topic = none →
      shared.publishers.keys.length < maxCachedTopicPublishers) :
    ∃ entry, shared'.publishers.lookup topic = some entry := by
  cases transition with
  | inserted =>
      cases uncached
      exact insertPublisher_present room
  | ended none_ _ _ => cases none_.symm.trans uncached
  | resolved | permitted | hit | missed | checked | created | published => cases uncached

/-- The topics have one type each, which the cache or a call that is about to fill it knows. -/
structure Pinned (pool : Pool Shared Control) : Prop where
  oneType : OneType pool.shared
  covered : ∀ publication ∈ pool.shared.published,
    (∃ entry, pool.shared.publishers.lookup publication.topic = some entry) ∨
      ∃ control ∈ pool.threads, control.uncached? = some (publication.topic, publication.msgType)

/-- A message that is published where the step is unrivalled has the type of the earlier ones. -/
theorem Pinned.agrees (pinned : Pinned pool) (safe : Safe pool)
    (unrivalled : Unrivalled pool (thread, choice)) (found : pool.threads[thread]? = some before)
    (succeeded : choice.succeeds = true) {publication : Publication}
    (source : before.entry? = some (publication.topic, ⟨publication.msgType, publication.publisher⟩) ∨
      before.unpinned? = some (publication.topic, publication.msgType))
    {earlier : Publication} (member : earlier ∈ pool.shared.published)
    (same : earlier.topic = publication.topic) : earlier.msgType = publication.msgType := by
  rcases source with cached | unpinned
  · have entry := (safe.sound before (List.mem_of_getElem? found)).cached _ cached
    exact pinned.oneType earlier member _ (safe.entries _ _ entry) same
  · obtain ⟨noEntry, noRival⟩ := unrivalled before found _ unpinned succeeded
    rcases pinned.covered earlier member with ⟨entry, cached⟩ | ⟨control, there, uncached⟩
    · have pinnedType := pinned.oneType earlier member _ (safe.entries _ _ cached) rfl
      rw [same] at cached
      exact pinnedType.trans (noEntry entry cached)
    · exact noRival control there _ uncached same

theorem Pinned.step (pinned : Pinned pool) (safe : Safe pool)
    (few : (publishedTopics pool.shared).length < maxCachedTopicPublishers)
    (unrivalled : Unrivalled pool (thread, choice))
    (stepped : program.StepOf pool thread choice next before after) : Pinned next := by
  have transition := advance_transition stepped.advanced
  have running := safe.sound before (List.mem_of_getElem? stepped.running)
  obtain ⟨_, _, kept⟩ := transition.grows
  -- an earlier message is still known: its call stays or fills the cache
  have known : ∀ publication ∈ pool.shared.published,
      (∃ entry, next.shared.publishers.lookup publication.topic = some entry) ∨
        ∃ control ∈ next.threads, control.uncached? = some (publication.topic, publication.msgType) := by
    intro publication member
    rcases pinned.covered publication member with ⟨entry, cached⟩ | ⟨control, there, uncached⟩
    · exact .inl ⟨entry, kept _ _ cached⟩
    · obtain ⟨other, found⟩ := List.mem_iff_getElem?.mp there
      by_cases same : other = thread
      · subst other
        rw [stepped.running] at found
        cases found
        exact .inl (transition.pins uncached (safe.room few member))
      · rw [← stepped.others other same] at found
        exact .inr ⟨control, List.mem_of_getElem? found, uncached⟩
  rcases transition.published_cases with same | ⟨publication, added, succeeded, _, source⟩
  · constructor
    · unfold OneType
      rw [same]
      exact pinned.oneType
    · rw [same]
      exact known
  · have agrees : ∀ earlier ∈ pool.shared.published, earlier.topic = publication.topic →
        earlier.msgType = publication.msgType := by
      intro earlier member same
      exact pinned.agrees safe unrivalled stepped.running succeeded (source.imp_right And.left) member same
    constructor
    · unfold OneType
      rw [added]
      intro first firstMember second secondMember same
      rcases List.mem_cons.mp firstMember with rfl | firstEarlier <;>
        rcases List.mem_cons.mp secondMember with rfl | secondEarlier
      · rfl
      · exact (agrees second secondEarlier same.symm).symm
      · exact agrees first firstEarlier same
      · exact pinned.oneType first firstEarlier second secondEarlier same
    · rw [added, List.forall_mem_cons]
      refine ⟨?_, known⟩
      rcases source with cached | ⟨_, uncached⟩
      · exact .inl ⟨_, kept _ _ (running.cached _ cached)⟩
      · exact .inr ⟨after, List.mem_of_getElem? stepped.advancedTo, uncached⟩

theorem pinned_of_run (run : program.machine.Run Unrivalled (initial requests) pool)
    (few : (publishedTopics pool.shared).length < maxCachedTopicPublishers) : Pinned pool := by
  induction run with
  | refl => constructor <;> rintro _ ⟨⟩
  | step earlier unrivalled stepped ih =>
      obtain ⟨before, after, step⟩ := Program.stepOf stepped
      have grows := (advance_transition step.advanced).grows.2.1
      have fewer := Nat.lt_of_le_of_lt (publishedTopics_le grows) few
      exact (ih fewer).step (safe_of_run earlier) fewer unrivalled step

theorem Transition.publishes (transition : Transition shared before choice shared' after)
    {topic msgType : Bytes} (unpinned : before.unpinned? = some (topic, msgType))
    (succeeded : choice.succeeds = true) :
    ∃ publisher, ⟨topic, msgType, publisher⟩ ∈ shared'.published := by
  cases transition with
  | @published options topic publisher cached _ _ =>
      cases cached with
      | true => cases unpinned
      | false =>
          cases unpinned
          exact ⟨publisher, List.mem_cons_self⟩
  | ended _ failed _ => cases failed.symm.trans succeeded
  | resolved | permitted | hit | missed | checked | created | inserted => cases unpinned

theorem Control.publication_of_uncached {control : Control} {topic msgType : Bytes}
    (uncached : control.uncached? = some (topic, msgType)) :
    ∃ publisher, control.publication? = some ⟨topic, msgType, publisher⟩ := by
  cases control with
  | published options topic publisher =>
      cases uncached
      exact ⟨publisher, rfl⟩
  | called _ | resolved _ _ | permitted _ _ | missed _ _ | checked _ _ | ready _ _ _ _ | returned _
  | threw _ => cases uncached

/-- A message that is published against a rival gives its topic a second type. -/
theorem Safe.rivalled (safe : Safe pool)
    (stepped : program.StepOf pool thread choice next before after)
    (rivalled : ¬ Unrivalled pool (thread, choice)) : ¬ OneType next.shared := by
  intro oneType
  apply rivalled
  intro control found message unpinned succeeded
  cases stepped.running.symm.trans found
  have transition := advance_transition stepped.advanced
  obtain ⟨_, published, _⟩ := transition.grows
  obtain ⟨publisher, new⟩ := transition.publishes unpinned succeeded
  constructor
  · intro entry cached
    exact oneType _ (published (safe.entries _ entry cached)) _ new rfl
  · intro other there rival uncached same
    obtain ⟨rivalPublisher, publication⟩ := Control.publication_of_uncached uncached
    exact oneType _ (published ((safe.sound other there).published _ publication)) _ new same

/-- The cache is bounded and keeps its entries, only topics that the policy has allowed are
published to, and they have one type each exactly as long as nothing is published against a
rival. -/
theorem topics_published_with_one_type (requests : List TopicPubOptions) :
    (∀ pool, program.machine.Reaches (initial requests) pool →
      pool.shared.publishers.keys.length ≤ maxCachedTopicPublishers ∧
      (∀ publication ∈ pool.shared.published, publication.topic ∈ pool.shared.allowed) ∧
      ∀ label next, program.machine.step? pool label = some next →
        (∀ topic entry, pool.shared.publishers.lookup topic = some entry →
          next.shared.publishers.lookup topic = some entry) ∧
        (¬ Unrivalled pool label → ¬ OneType next.shared)) ∧
    ∀ pool, program.machine.Run Unrivalled (initial requests) pool →
      (publishedTopics pool.shared).length < maxCachedTopicPublishers → OneType pool.shared := by
  constructor
  · intro pool reached
    have safe := safe_of_run reached
    refine ⟨safe.bounded, safe.allowed, ?_⟩
    intro label next stepped
    obtain ⟨before, after, step⟩ := Program.stepOf stepped
    exact ⟨(advance_transition step.advanced).grows.2.2, safe.rivalled step⟩
  · intro pool run few
    exact (pinned_of_run run few).oneType

def greeting (msgType : Bytes) : TopicPubOptions := ⟨ascii "/chatter", msgType, ascii "data: 1"⟩

/-- A call up to its message, with a graph that does not know the topic. -/
def upToPublish (thread : Nat) : List (Nat × Choice) :=
  [(thread, .resolve (.ok (ascii "/chatter"))), (thread, .askPolicy (.ok true)), (thread, .lookup),
    (thread, .snapshot (.ok [])), (thread, .create (.ok ()))]

/-- One call after the other, of which the second finds the publisher of the first. -/
theorem one_type_in_turn :
    ∃ pool, program.machine.Run Unrivalled
        (initial [greeting (ascii "std_msgs/msg/String"), greeting (ascii "std_msgs/msg/String")]) pool ∧
      pool.shared.published.length = 2 ∧ OneType pool.shared := by
  obtain ⟨pool, run, few, twice⟩ := Machine.Run.exists_of_exec program.machine Unrivalled
    (initial [greeting (ascii "std_msgs/msg/String"), greeting (ascii "std_msgs/msg/String")])
    (upToPublish 0 ++ [(0, .publish (.ok (.ok ())) (.ok ())), (0, .insert)] ++ (upToPublish 1).take 3 ++
      [(1, .publish (.ok (.ok ())) (.ok ()))])
    (fun pool => (publishedTopics pool.shared).length < maxCachedTopicPublishers ∧
      pool.shared.published.length = 2) (by decide +kernel)
  exact ⟨pool, run, twice, (topics_published_with_one_type _).2 pool run few⟩

/-- Two calls that both miss the cache publish two types to one topic. -/
theorem concurrent_types :
    ∃ pool, program.machine.Reaches
        (initial [greeting (ascii "std_msgs/msg/String"), greeting (ascii "std_msgs/msg/Int32")]) pool ∧
      (publishedTopics pool.shared).length = 1 ∧ ¬ OneType pool.shared :=
  Machine.Reaches.exists_of_exec program.machine _
    (upToPublish 0 ++ upToPublish 1 ++ [(0, .publish (.ok (.ok ())) (.ok ())),
      (1, .publish (.ok (.ok ())) (.ok ())), (0, .insert), (1, .insert)])
    (fun pool => (publishedTopics pool.shared).length = 1 ∧ ¬ OneType pool.shared) (by decide +kernel)

end Types

end RosPortal.Cli.TopicPub
