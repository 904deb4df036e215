import RosPortal.Discovery.Reaping

/-! The video tracks of a room session. The state of an image topic is made and erased with its
subscription, by the discovery worker, and a callback that has found it publishes its track. -/

set_option autoImplicit false

namespace RosPortal.Video

open Interleaving Portal Discovery

/-- An `ImageTopicState`, which lives on in the callbacks that have found it. -/
structure SharedState where
  trackName : String
  hasSink : Bool := false
deriving DecidableEq, Repr

/-- `made` are all topic states there have been, the map and the callbacks refer to them by
position, and `tracks` are the names that were published and not unpublished. -/
structure Session where
  ros : Ros := {}
  made : List SharedState := []
  imageTopicStates : List (String × Nat) := []
  callbacks : List Nat := []
  tracks : List String := []
deriving DecidableEq, Repr

inductive SessionLabel where
  | change (change : RosChange)
  | markAbsent
  | reconcileTopic (entry : String × List String)
  | reapExpiredSubscriptions
  | receive (topicName : String)
  | ensureVideoSink (index : Nat) (published : Bool)
deriving DecidableEq, Repr

/-- `createSubscriber` makes a video subscription for these types. -/
def isVideoType (topicType : String) : Bool := topicType = kImageMsgType || topicType = kCompressedImageMsgType

namespace Session

variable (options : ForwarderOptions) (session : Session)

/-- The second loop of `reconcileTopics` makes the state of a new image topic. -/
def reconcileTopic (entry : String × List String) : Session :=
  let ros := Ros.reconcileTopic options session.ros entry
  if session.ros.subscribed entry.1 = false ∧ ros.subscribed entry.1 = true ∧
      entry.2.head?.any isVideoType = true then
    { session with
      ros
      made := session.made ++ [{ trackName := entry.1 }]
      imageTopicStates := (entry.1, session.made.length) :: session.imageTopicStates }
  else { session with ros }

/-- The states go with the subscriptions; nothing is unpublished. -/
def reapExpiredSubscriptions : Session :=
  let ros := Ros.reapExpiredSubscriptions options session.ros
  { session with
    ros
    imageTopicStates := session.imageTopicStates.filter fun entry => ros.subscribed entry.1 }

def findImageTopicState (topicName : String) : Option Nat := session.imageTopicStates.lookup topicName

/-- A callback finds the state of its topic, or returns. -/
def receive (topicName : String) : Session :=
  match session.findImageTopicState topicName with
  | some index => { session with callbacks := session.callbacks ++ [index] }
  | none => session

/-- A callback that holds the mutex of its state publishes the track if there is none. -/
def ensureVideoSink? (index : Nat) (published : Bool) : Option Session :=
  match session.callbacks[index]? with
  | none => none
  | some found =>
      match session.made[found]? with
      | none => none
      | some topic =>
          let returned := { session with callbacks := session.callbacks.eraseIdx index }
          if topic.hasSink || !published then some returned
          else
            some { returned with
              made := session.made.set found { topic with hasSink := true }
              tracks := session.tracks ++ [topic.trackName] }

def step? : SessionLabel → Option Session
  | .change change => some { session with ros := session.ros.change change }
  | .markAbsent => some { session with ros := session.ros.markAbsent }
  | .reconcileTopic entry => some (session.reconcileTopic options entry)
  | .reapExpiredSubscriptions => some (session.reapExpiredSubscriptions options)
  | .receive topicName => some (session.receive topicName)
  | .ensureVideoSink index published => session.ensureVideoSink? index published

def machine : Machine Session SessionLabel where
  step? session := session.step? options

/-- The topic has at most one live track, and none unless it is subscribed. -/
def OneTrack (topicName : String) : Prop :=
  session.tracks.count topicName ≤ 1 ∧
    (session.ros.subscribed topicName = false → session.tracks.count topicName = 0)

def withoutSink (index : Nat) : Bool := session.made[index]?.all fun topic => !topic.hasSink

/-- The topic is not reaped after its track was published, and no callback publishes one for a
state of the topic that has been reaped. -/
def KeepsTrack (topicName : String) (session : Session) : SessionLabel → Prop
  | .reapExpiredSubscriptions =>
      (session.ros.reapExpiredSubscriptions options).subscribed topicName = false →
        ∀ entry ∈ session.imageTopicStates, entry.1 = topicName → session.withoutSink entry.2 = true
  | .ensureVideoSink index true =>
      ∀ found ∈ session.callbacks[index]?, ∀ topic ∈ session.made[found]?,
        topic.trackName = topicName → topic.hasSink = false → (topicName, found) ∈ session.imageTopicStates
  | _ => True

instance (topicName : String) (label : SessionLabel) :
    Decidable (KeepsTrack options topicName session label) := by
  unfold KeepsTrack
  split <;> infer_instance

/-- A track of the topic belongs to the one state that the map has for it. -/
structure Tracked (topicName : String) (session : Session) : Prop where
  listed : ∀ entry ∈ session.imageTopicStates, session.ros.subscribed entry.1 = true ∧
    ∃ topic, session.made[entry.2]? = some topic ∧ topic.trackName = entry.1
  unique : ∀ first ∈ session.imageTopicStates, ∀ second ∈ session.imageTopicStates,
    first.1 = second.1 → first = second
  once : session.tracks.count topicName ≤ 1
  held : topicName ∈ session.tracks → ∃ index, (topicName, index) ∈ session.imageTopicStates ∧
    session.withoutSink index = false

variable {options : ForwarderOptions} {session next : Session} {topicName : String}

theorem Tracked.oneTrack (tracked : session.Tracked topicName) : session.OneTrack topicName := by
  refine ⟨tracked.once, ?_⟩
  intro unsubscribed
  apply List.count_eq_zero_of_not_mem
  intro live
  obtain ⟨index, member, _⟩ := tracked.held live
  rw [(tracked.listed _ member).1] at unsubscribed
  cases unsubscribed

theorem tracked_initial (ros : Ros) (topicName : String) : Tracked topicName { ros } where
  listed entry member := by cases member
  unique first member := by cases member
  once := Nat.zero_le 1
  held member := by cases member

/-- Subscriptions that stay subscribed keep everything as it is. -/
theorem Tracked.withRos (tracked : session.Tracked topicName) {ros : Ros}
    (kept : ∀ name, session.ros.subscribed name = true → ros.subscribed name = true) :
    Tracked topicName { session with ros } where
  listed entry member :=
    ⟨kept entry.1 (tracked.listed entry member).1, (tracked.listed entry member).2⟩
  unique := tracked.unique
  once := tracked.once
  held := tracked.held

theorem subscribed_change (ros : Ros) (change : RosChange) (name : String) :
    (ros.change change).subscribed name = ros.subscribed name := by
  cases change <;> rfl

theorem withoutSink_append {index : Nat} {topic : SharedState} (made : session.made[index]? = some topic)
    (more : List SharedState) :
    withoutSink { session with made := session.made ++ more } index = session.withoutSink index := by
  have inside : index < session.made.length := (List.getElem?_eq_some_iff.mp made).1
  simp only [withoutSink, List.getElem?_append_left inside]

theorem Tracked.reconcileTopic (tracked : session.Tracked topicName) (entry : String × List String) :
    (session.reconcileTopic options entry).Tracked topicName := by
  have kept : ∀ name, session.ros.subscribed name = true →
      (Ros.reconcileTopic options session.ros entry).subscribed name = true :=
    fun name held => Ros.reconcileTopic_keeps held
  unfold Session.reconcileTopic
  dsimp only
  split_ifs with makes
  · obtain ⟨absent, present, _⟩ := makes
    have unlisted : ∀ old ∈ session.imageTopicStates, old.1 ≠ entry.1 := by
      intro old member same
      have subscribed := (tracked.listed old member).1
      rw [same, absent] at subscribed
      cases subscribed
    constructor
    · intro listed member
      rcases List.mem_cons.mp member with rfl | old
      · exact ⟨present, _, List.getElem?_concat_length, rfl⟩
      · obtain ⟨subscribed, topic, made, named⟩ := tracked.listed listed old
        refine ⟨kept listed.1 subscribed, topic, ?_, named⟩
        have inside : listed.2 < session.made.length := (List.getElem?_eq_some_iff.mp made).1
        rw [List.getElem?_append_left inside, made]
    · intro first firstMember second secondMember same
      rcases List.mem_cons.mp firstMember with rfl | firstOld
      · rcases List.mem_cons.mp secondMember with rfl | secondOld
        · rfl
        · exact absurd same.symm (unlisted second secondOld)
      · rcases List.mem_cons.mp secondMember with rfl | secondOld
        · exact absurd same (unlisted first firstOld)
        · exact tracked.unique first firstOld second secondOld same
    · exact tracked.once
    · intro live
      obtain ⟨index, member, sink⟩ := tracked.held live
      obtain ⟨_, topic, made, _⟩ := tracked.listed _ member
      exact ⟨index, List.mem_cons_of_mem _ member, (withoutSink_append made _).trans sink⟩
  · exact tracked.withRos kept

theorem Tracked.reap (tracked : session.Tracked topicName)
    (keeps : KeepsTrack options topicName session .reapExpiredSubscriptions) :
    (session.reapExpiredSubscriptions options).Tracked topicName where
  listed entry member := by
    obtain ⟨old, subscribed⟩ := List.mem_filter.mp member
    exact ⟨subscribed, (tracked.listed entry old).2⟩
  unique first firstMember second secondMember :=
    tracked.unique first (List.mem_filter.mp firstMember).1 second (List.mem_filter.mp secondMember).1
  once := tracked.once
  held live := by
    obtain ⟨index, member, sink⟩ := tracked.held live
    refine ⟨index, List.mem_filter.mpr ⟨member, ?_⟩, sink⟩
    cases reaped : (session.ros.reapExpiredSubscriptions options).subscribed topicName with
    | true => rfl
    | false =>
        have none := keeps reaped (topicName, index) member rfl
        rw [sink] at none
        cases none

/-- What a callback does with the state that it has found. -/
theorem ensureVideoSink?_cases {index : Nat} {published : Bool}
    (stepped : session.ensureVideoSink? index published = some next) :
    ∃ found topic, session.callbacks[index]? = some found ∧ session.made[found]? = some topic ∧
      (next = { session with callbacks := session.callbacks.eraseIdx index } ∨
        (published = true ∧ topic.hasSink = false ∧ next = { session with
          callbacks := session.callbacks.eraseIdx index
          made := session.made.set found { topic with hasSink := true }
          tracks := session.tracks ++ [topic.trackName] })) := by
  unfold ensureVideoSink? at stepped
  cases called : session.callbacks[index]? with
  | none => simp [called] at stepped
  | some found =>
      cases made : session.made[found]? with
      | none => simp [called, made] at stepped
      | some topic =>
          refine ⟨found, topic, rfl, made, ?_⟩
          simp only [called, made] at stepped
          split_ifs at stepped with idle
          · cases stepped
            exact .inl rfl
          · cases stepped
            simp only [Bool.or_eq_true, Bool.not_eq_true', not_or, Bool.not_eq_true,
              Bool.not_eq_false] at idle
            exact .inr ⟨idle.2, idle.1, rfl⟩

theorem withoutSink_set {found other : Nat} (differs : other ≠ found) (topic : SharedState)
    (tracks : List String) (callbacks : List Nat) :
    withoutSink { session with callbacks, tracks, made := session.made.set found topic } other =
      session.withoutSink other := by
  simp only [withoutSink, List.getElem?_set_ne (Ne.symm differs)]

theorem Tracked.publish (tracked : session.Tracked topicName) {found : Nat} {topic : SharedState}
    (made : session.made[found]? = some topic) (unpublished : topic.hasSink = false)
    (current : topic.trackName = topicName → (topicName, found) ∈ session.imageTopicStates)
    (callbacks : List Nat) :
    Tracked topicName { session with
      callbacks
      made := session.made.set found { topic with hasSink := true }
      tracks := session.tracks ++ [topic.trackName] } where
  listed entry member := by
    obtain ⟨subscribed, old, oldMade, named⟩ := tracked.listed entry member
    have inside : found < session.made.length := (List.getElem?_eq_some_iff.mp made).1
    refine ⟨subscribed, ?_⟩
    by_cases same : entry.2 = found
    · rw [same] at oldMade
      cases made.symm.trans oldMade
      exact ⟨{ topic with hasSink := true }, by simp [same, inside], named⟩
    · exact ⟨old, (List.getElem?_set_ne (Ne.symm same)).trans oldMade, named⟩
  unique := tracked.unique
  once := by
    by_cases own : topic.trackName = topicName
    · have fresh : topicName ∉ session.tracks := by
        intro live
        obtain ⟨other, member, sink⟩ := tracked.held live
        cases tracked.unique _ member _ (current own) rfl
        simp [withoutSink, made, unpublished] at sink
      simp [own, List.count_eq_zero_of_not_mem fresh]
    · simpa [own] using tracked.once
  held live := by
    have inside : found < session.made.length := (List.getElem?_eq_some_iff.mp made).1
    by_cases own : topic.trackName = topicName
    · exact ⟨found, current own, by simp [withoutSink, inside]⟩
    · have old : topicName ∈ session.tracks := by
        rcases List.mem_append.mp live with old | new
        · exact old
        · exact absurd (List.mem_singleton.mp new).symm own
      obtain ⟨index, member, sink⟩ := tracked.held old
      refine ⟨index, member, (withoutSink_set ?_ _ _ _).trans sink⟩
      rintro rfl
      obtain ⟨_, other, otherMade, named⟩ := tracked.listed _ member
      cases made.symm.trans otherMade
      exact own named

theorem Tracked.ensureVideoSink (tracked : session.Tracked topicName) {index : Nat} {published : Bool}
    (keeps : KeepsTrack options topicName session (.ensureVideoSink index published))
    (stepped : session.ensureVideoSink? index published = some next) : next.Tracked topicName := by
  obtain ⟨found, topic, called, made, rfl | ⟨rfl, unpublished, rfl⟩⟩ := ensureVideoSink?_cases stepped
  · exact ⟨tracked.listed, tracked.unique, tracked.once, tracked.held⟩
  · exact tracked.publish made unpublished (fun own => keeps found called topic made own unpublished) _

theorem Tracked.step {label : SessionLabel} (tracked : session.Tracked topicName)
    (keeps : KeepsTrack options topicName session label) (stepped : session.step? options label = some next) :
    next.Tracked topicName := by
  cases label with
  | change change =>
      cases stepped
      exact tracked.withRos fun name held => (subscribed_change _ _ _).trans held
  | markAbsent =>
      cases stepped
      exact tracked.withRos fun name held => Ros.subscribed_markAbsent.trans held
  | reconcileTopic entry =>
      cases stepped
      exact tracked.reconcileTopic entry
  | reapExpiredSubscriptions =>
      cases stepped
      exact tracked.reap keeps
  | receive name =>
      cases stepped
      unfold Session.receive
      split
      · exact ⟨tracked.listed, tracked.unique, tracked.once, tracked.held⟩
      · exact tracked
  | ensureVideoSink index published => exact tracked.ensureVideoSink keeps stepped

/-- As long as no track of a topic is left behind, it has at most one in all states. -/
theorem oneTrack_of_run (options : ForwarderOptions) (ros : Ros) (topicName : String) (final : Session)
    (run : (machine options).Run (KeepsTrack options topicName) { ros } final) :
    final.OneTrack topicName :=
  (run.invariant (tracked_initial ros topicName) fun tracked keeps stepped =>
    tracked.step keeps stepped).oneTrack

/-- The camera is discovered, and a frame of it arrives. -/
def firstFrame : List SessionLabel :=
  [.reconcileTopic ("/camera", ["sensor_msgs/msg/Image"]), .receive "/camera", .ensureVideoSink 0 true]

/-- It goes away for longer than the grace period. -/
def absence : List SessionLabel :=
  [.change (.publishers []), .markAbsent, .change (.clock 31000000000), .reapExpiredSubscriptions,
    .change (.publishers [camera])]

theorem one_track_after_first_frame :
    ∃ final, (machine forwardAll).Run (KeepsTrack forwardAll "/camera")
        { ros := { publishers := [camera] } } final ∧
      final.tracks = ["/camera"] ∧ final.OneTrack "/camera" := by
  obtain ⟨final, run, published⟩ := Machine.Run.exists_of_exec (machine forwardAll)
    (KeepsTrack forwardAll "/camera") { ros := { publishers := [camera] } } firstFrame
    (fun final => final.tracks = ["/camera"]) (by decide +kernel)
  exact ⟨final, run, published,
    oneTrack_of_run forwardAll { publishers := [camera] } "/camera" final run⟩

/-- After it has come back the camera has two tracks. -/
theorem rediscovered_topic_has_two_tracks :
    ¬ ∀ (options : ForwarderOptions) (ros : Ros) (topicName : String) (final : Session),
      (machine options).Reaches { ros } final → final.OneTrack topicName := by
  intro single
  obtain ⟨final, reaches, twice⟩ := Machine.Reaches.exists_of_exec (machine forwardAll)
    { ros := { publishers := [camera] } } (firstFrame ++ absence ++ firstFrame)
    (fun final => final.tracks.count "/camera" = 2) (by decide +kernel)
  have once := (single forwardAll { publishers := [camera] } "/camera" final reaches).1
  rw [twice] at once
  exact absurd once (by decide)

end Session

end RosPortal.Video
