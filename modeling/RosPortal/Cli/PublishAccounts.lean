import RosPortal.Cli.TopicTypes

/-! What concurrent publishes return against what they did: each success is one message, and the
cache turns calls away only once it is full, after which it stays as it is. -/

set_option autoImplicit false

namespace RosPortal.Cli.TopicPub

open JsonText Interleaving

/-- The call has published its message. -/
def Control.hasPublished : Control → Bool
  | .published _ _ _ => true
  | .returned response => response.success
  | _ => false

/-- The call was turned away by the cache. -/
def Control.turnedAway : Control → Bool
  | .returned response => response = failure (ascii "topic publisher cache limit reached")
  | _ => false

section Steps

variable {shared shared' : Shared} {before after : Control} {choice : Choice}

theorem lookupPublisher_published (options : TopicPubOptions) (topic : Bytes) :
    (lookupPublisher shared options topic).1.published = shared.published ∧
      (lookupPublisher shared options topic).2.hasPublished = false := by
  unfold lookupPublisher
  split
  · split_ifs
    · exact ⟨rfl, rfl⟩
    · exact ⟨rfl, rfl⟩
  · split_ifs
    · exact ⟨rfl, rfl⟩
    · exact ⟨rfl, rfl⟩

theorem checkSnapshot_published (options : TopicPubOptions) (topic : Bytes)
    (topicNamesAndTypes : List (Bytes × List Bytes)) :
    (checkSnapshot options topic topicNamesAndTypes).hasPublished = false := by
  unfold checkSnapshot
  split
  · rfl
  · split_ifs
    · rfl
    · rfl

theorem publishMessage_published (options : TopicPubOptions) (topic : Bytes) (publisher : Nat) (cached : Bool)
    (serialized publishing : Except Bytes Unit) :
    (publishMessage shared options topic publisher cached serialized publishing).1.published.length =
      shared.published.length +
        (publishMessage shared options topic publisher cached serialized publishing).2.hasPublished.toNat := by
  cases serialized with
  | error => rfl
  | ok =>
      cases publishing with
      | error => rfl
      | ok => cases cached <;> rfl

/-- A step publishes one message if the call arrives at having published, and none otherwise. -/
theorem advance_published (advanced : advance shared before choice = some (shared', after)) :
    shared'.published.length + before.hasPublished.toNat = shared.published.length + after.hasPublished.toNat := by
  revert advanced
  fun_cases advance shared before choice <;> intro advanced
  all_goals first | (cases advanced; done) | (cases advanced; rfl) | skip
  next options topic =>
    have step := @lookupPublisher_published shared options topic
    rw [Option.some.inj advanced] at step
    rw [step.1, step.2]
    rfl
  next options topic topicNamesAndTypes =>
    cases advanced
    rw [checkSnapshot_published]
    rfl
  next options topic publisher cached serialized publishing =>
    have step := @publishMessage_published shared options topic publisher cached serialized publishing
    rw [Option.some.inj advanced] at step
    exact step
  next options topic publisher =>
    cases advanced
    rw [insertPublisher_recorded.1]
    rfl

/-- A call is turned away only by a full cache, which counts it. -/
theorem advance_rejections (advanced : advance shared before choice = some (shared', after)) :
    shared'.cacheFullRejections = shared.cacheFullRejections ∨
      shared'.cacheFullRejections = shared.cacheFullRejections + 1 ∧ after.turnedAway = true ∧
        maxCachedTopicPublishers ≤ shared.publishers.keys.length := by
  revert advanced
  fun_cases advance shared before choice <;> intro advanced
  all_goals first | (cases advanced; done) | (cases advanced; exact .inl rfl) | skip
  next options topic =>
    have step : (lookupPublisher shared options topic).1.cacheFullRejections = shared.cacheFullRejections ∨
        (lookupPublisher shared options topic).1.cacheFullRejections = shared.cacheFullRejections + 1 ∧
          (lookupPublisher shared options topic).2.turnedAway = true ∧
            maxCachedTopicPublishers ≤ shared.publishers.keys.length := by
      unfold lookupPublisher
      split
      · split_ifs
        · exact .inl rfl
        · exact .inl rfl
      · split_ifs with full
        · exact .inr ⟨rfl, rfl, full⟩
        · exact .inl rfl
    rw [Option.some.inj advanced] at step
    exact step
  next options topic publisher cached serialized publishing =>
    have step : (publishMessage shared options topic publisher cached serialized publishing).1.cacheFullRejections =
        shared.cacheFullRejections := by
      cases serialized with
      | error => rfl
      | ok => cases publishing <;> rfl
    rw [Option.some.inj advanced] at step
    exact .inl step
  next options topic publisher =>
    cases advanced
    left
    unfold insertPublisher
    split_ifs <;> rfl

theorem advance_unfinished (advanced : advance shared before choice = some (shared', after)) :
    before.turnedAway = false := by
  cases before with
  | returned response => cases advanced
  | called | resolved | permitted | missed | checked | ready | published | threw => rfl

theorem Transition.keys_le (transition : Transition shared before choice shared' after) :
    shared.publishers.keys.length ≤ shared'.publishers.keys.length := by
  apply List.Subperm.length_le
  apply List.subperm_of_subset shared.publishers.keys_nodup
  intro topic listed
  obtain ⟨entry, found⟩ := Option.isSome_iff_exists.mp (AList.lookup_isSome.mpr listed)
  exact AList.lookup_isSome.mp (Option.isSome_iff_exists.mpr ⟨entry, transition.grows.2.2 _ _ found⟩)

end Steps

section Accounts

variable {pool final : Pool Shared Control} {requests : List TopicPubOptions}

theorem full_of_rejections (run : program.machine.Reaches (initial requests) pool) :
    0 < pool.shared.cacheFullRejections → maxCachedTopicPublishers ≤ pool.shared.publishers.keys.length := by
  induction run with
  | refl => exact fun rejected => absurd rejected (Nat.lt_irrefl 0)
  | step _ _ stepped ih =>
      intro rejected
      obtain ⟨before, after, step⟩ := Program.stepOf stepped
      have kept := (advance_transition step.advanced).keys_le
      rcases advance_rejections step.advanced with same | ⟨_, _, full⟩
      · rw [same] at rejected
        exact (ih rejected).trans kept
      · exact full.trans kept

/-- Each success is one message that was published, each cached publisher has published, and the
calls that the cache turned away found it full. -/
theorem publishes_accounted (requests : List TopicPubOptions) (pool : Pool Shared Control)
    (reached : program.machine.Reaches (initial requests) pool) :
    pool.shared.published.length = pool.threads.countP Control.hasPublished ∧
      pool.shared.cacheFullRejections ≤ pool.threads.countP Control.turnedAway ∧
      (0 < pool.shared.cacheFullRejections → pool.shared.publishers.keys.length = maxCachedTopicPublishers) ∧
      ∀ topic entry, pool.shared.publishers.lookup topic = some entry →
        ⟨topic, entry.msgType, entry.publisher⟩ ∈ pool.shared.published := by
  have safe := safe_of_run reached
  have none : (initial requests).threads.countP Control.hasPublished = 0 := by
    rw [List.countP_eq_zero]
    intro control member
    obtain ⟨options, _, rfl⟩ := List.mem_map.mp member
    exact Bool.false_ne_true
  have most := Program.counter_le_of_run (fun advanced => (advance_published advanced).le) (Nat.zero_le _) reached
  have least := Program.le_counter_of_run (fun advanced => (advance_published advanced).ge) none.le reached
  have rejections : pool.shared.cacheFullRejections ≤ pool.threads.countP Control.turnedAway := by
    apply Program.counter_le_of_run _ (Nat.zero_le _) reached
    intro shared shared' before after choice advanced
    rw [advance_unfinished advanced]
    rcases advance_rejections advanced with same | ⟨counted, away, _⟩
    · rw [same]
      exact Nat.le_add_right _ _
    · rw [counted, away]
      exact Nat.le_refl _
  exact ⟨Nat.le_antisymm most least, rejections,
    fun rejected => Nat.le_antisymm safe.bounded (full_of_rejections reached rejected), safe.entries⟩

/-- A call whose message is published and a call that the policy rejects. -/
theorem one_published_one_rejected :
    ∃ pool, program.machine.Reaches
        (initial [greeting (ascii "std_msgs/msg/String"), greeting (ascii "std_msgs/msg/String")]) pool ∧
      pool.threads.countP Control.hasPublished = 1 ∧ pool.shared.published.length = 1 := by
  obtain ⟨pool, reached, once⟩ := Machine.Reaches.exists_of_exec program.machine
    (initial [greeting (ascii "std_msgs/msg/String"), greeting (ascii "std_msgs/msg/String")])
    (upToPublish 0 ++ [(0, .publish (.ok (.ok ())) (.ok ())), (1, .resolve (.ok (ascii "/chatter"))),
      (1, .askPolicy (.ok false))])
    (fun pool => pool.threads.countP Control.hasPublished = 1) (by decide +kernel)
  exact ⟨pool, reached, once, (publishes_accounted _ pool reached).1.trans once⟩

end Accounts

section Full

/-- The call missed the cache and may yet publish with a publisher of its own. -/
def Control.missedCache : Control → Bool
  | .missed _ _ | .checked _ _ | .ready _ _ _ false => true
  | _ => false

/-- The message was published by a publisher that is not in the cache. -/
def Outside (publishers : AList fun _ : Bytes => Entry) (publication : Publication) : Bool :=
  publishers.lookup publication.topic ≠ some ⟨publication.msgType, publication.publisher⟩

variable {shared shared' : Shared} {before after : Control} {choice : Choice}
  {pool next final : Pool Shared Control} {thread : Nat} {requests : List TopicPubOptions}

theorem insertPublisher_full {options : TopicPubOptions} {topic : Bytes} {publisher : Nat}
    (full : maxCachedTopicPublishers ≤ shared.publishers.keys.length) :
    insertPublisher shared options topic publisher = shared :=
  if_neg fun room => absurd room.2 (Nat.not_lt.mpr full)

theorem lookupPublisher_full {options : TopicPubOptions} {topic : Bytes}
    (full : maxCachedTopicPublishers ≤ shared.publishers.keys.length) :
    (lookupPublisher shared options topic).1.publishers = shared.publishers ∧
      (lookupPublisher shared options topic).2.missedCache = false := by
  unfold lookupPublisher
  split
  · split_ifs
    · exact ⟨rfl, rfl⟩
    · exact ⟨rfl, rfl⟩
  · rw [if_pos full]
    exact ⟨rfl, rfl⟩

/-- Only a message of a publisher that is not cached counts as outside, and it uses up the miss. -/
theorem publishMessage_full {options : TopicPubOptions} {topic : Bytes} {publisher : Nat} {cached : Bool}
    (sound : (Control.ready options topic publisher cached).Sound shared) (serialized publishing : Except Bytes Unit) :
    let published := publishMessage shared options topic publisher cached serialized publishing
    published.1.publishers = shared.publishers ∧
      published.1.published.countP (Outside shared.publishers) + published.2.missedCache.toNat ≤
        shared.published.countP (Outside shared.publishers) +
          (Control.ready options topic publisher cached).missedCache.toNat := by
  cases serialized with
  | error => exact ⟨rfl, Nat.add_le_add_left (Nat.zero_le _) _⟩
  | ok =>
      cases publishing with
      | error => exact ⟨rfl, Nat.add_le_add_left (Nat.zero_le _) _⟩
      | ok =>
          refine ⟨rfl, ?_⟩
          simp only [publishMessage, List.countP_cons]
          cases cached with
          | false =>
              change _ + _ + 0 ≤ _ + 1
              split <;> omega
          | true =>
              have inside : Outside shared.publishers ⟨topic, options.msgType, publisher⟩ = false := by
                simpa [Outside] using sound.cached _ rfl
              rw [inside]
              exact Nat.le_refl _

/-- With a full cache, a message from outside of it costs one call that had missed it. -/
theorem advance_full (full : maxCachedTopicPublishers ≤ shared.publishers.keys.length)
    (sound : before.Sound shared) (advanced : advance shared before choice = some (shared', after)) :
    shared'.publishers = shared.publishers ∧
      shared'.published.countP (Outside shared.publishers) + after.missedCache.toNat ≤
        shared.published.countP (Outside shared.publishers) + before.missedCache.toNat := by
  revert advanced
  fun_cases advance shared before choice <;> intro advanced
  -- Left are the steps of the cache, the check of the graph and the publication.
  all_goals first
    | (cases advanced; done)
    | (cases advanced; exact ⟨rfl, Nat.le_refl _⟩)
    | (cases advanced; exact ⟨rfl, Nat.add_le_add_left (Nat.zero_le _) _⟩)
    | skip
  case case6 options topic =>
    have step := @lookupPublisher_full shared options topic full
    have same := (@lookupPublisher_published shared options topic).1
    rw [Option.some.inj advanced] at step same
    rw [same, step.2]
    exact ⟨step.1, Nat.le_refl _⟩
  case case8 options topic topicNamesAndTypes =>
    cases advanced
    exact ⟨rfl, Nat.add_le_add_left (Bool.toNat_le _) _⟩
  case case12 options topic publisher cached serialized publishing =>
    have step := publishMessage_full sound serialized publishing
    rw [Option.some.inj advanced] at step
    exact step
  case case13 options topic publisher =>
    cases advanced
    rw [insertPublisher_full full]
    exact ⟨rfl, Nat.le_refl _⟩

/-- A full cache stays as it is, and from then on all messages are those of its publishers, but
for at most one of each call that had missed it before. -/
theorem full_cache_final (reached : program.machine.Reaches (initial requests) pool)
    (full : pool.shared.publishers.keys.length = maxCachedTopicPublishers)
    (run : program.machine.Reaches pool final) :
    final.shared.publishers = pool.shared.publishers ∧
      final.shared.published.countP (Outside pool.shared.publishers) + final.threads.countP Control.missedCache ≤
        pool.shared.published.countP (Outside pool.shared.publishers) + pool.threads.countP Control.missedCache := by
  induction run with
  | refl => exact ⟨rfl, Nat.le_refl _⟩
  | step earlier _ stepped ih =>
      obtain ⟨same, bounded⟩ := ih
      obtain ⟨before, after, step⟩ := Program.stepOf stepped
      have safe := safe_of_run (reached.trans earlier)
      have still := full.ge
      rw [← same] at still
      have advanced := advance_full still (safe.sound before (List.mem_of_getElem? step.running)) step.advanced
      have counted := step.countP Control.missedCache
      rw [same] at advanced
      exact ⟨advanced.1, by omega⟩

/-- A call that publishes to a topic of its own. -/
def publishOwn (thread : Nat) : List (Nat × Choice) :=
  [(thread, .resolve (.ok [47, UInt8.ofNat (97 + thread)])), (thread, .askPolicy (.ok true)), (thread, .lookup),
    (thread, .snapshot (.ok [])), (thread, .create (.ok ())), (thread, .publish (.ok (.ok ())) (.ok ())),
    (thread, .insert)]

/-- The topic after the twentieth is turned away. -/
theorem twenty_first_topic_turned_away :
    ∃ pool final, program.machine.Reaches (initial (List.replicate 21 (greeting (ascii "std_msgs/msg/String")))) pool ∧
      program.machine.Reaches pool final ∧ final.shared.cacheFullRejections = 1 ∧
      final.shared.publishers = pool.shared.publishers := by
  obtain ⟨pool, reached, full, later⟩ := Machine.Reaches.exists_of_exec program.machine
    (initial (List.replicate 21 (greeting (ascii "std_msgs/msg/String"))))
    ((List.range 20).flatMap publishOwn)
    (fun pool => pool.shared.publishers.keys.length = maxCachedTopicPublishers ∧
      (program.machine.exec? pool ((publishOwn 20).take 3)).any
        (fun final => decide (final.shared.cacheFullRejections = 1)) = true) (by decide +kernel)
  obtain ⟨final, ran, away⟩ := Machine.Reaches.exists_of_exec program.machine pool ((publishOwn 20).take 3)
    (fun final => final.shared.cacheFullRejections = 1) later
  exact ⟨pool, final, reached, ran, away, (full_cache_final reached full ran).1⟩

end Full

end RosPortal.Cli.TopicPub
