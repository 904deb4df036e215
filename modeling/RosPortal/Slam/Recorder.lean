import Mathlib.Data.List.Pairwise
import RosPortal.Slam.Keyframes
import RosPortal.Slam.StampBuffer

/-! The recorder of the SLAM bag: images and messages about the map come in, and the records of
the new keyframes and the trajectory so far go out. -/

set_option autoImplicit false

namespace RosPortal.Slam

structure Time where
  sec : Int
  nanosec : Int
deriving DecidableEq, Repr

def timeFromNs (stampNs : Int) : Time := ⟨stampNs / 1000000000, stampNs % 1000000000⟩

def nsFromTime (stamp : Time) : Int := stamp.sec * 1000000000 + stamp.nanosec

@[simp] theorem nsFromTime_timeFromNs (stampNs : Int) : nsFromTime (timeFromNs stampNs) = stampNs := by
  rw [nsFromTime, timeFromNs, Int.mul_comm]
  exact Int.mul_ediv_add_emod stampNs 1000000000

inductive Topic where
  | trajectory
  | finalTrajectory
  | odometry
  | image
deriving DecidableEq, Repr

structure PoseStamped (Pose : Type) where
  stamp : Time
  frameId : String
  pose : Pose

structure Path (Pose : Type) where
  stamp : Time
  frameId : String
  poses : List (PoseStamped Pose)

def pathMsg {Pose : Type} (poses : List (Int × Pose)) (frameId : String) : Path Pose where
  stamp := (poses.getLast?.map fun entry => timeFromNs entry.1).getD ⟨0, 0⟩
  frameId
  poses := poses.map fun entry => ⟨timeFromNs entry.1, frameId, entry.2⟩

inductive Message (Pose Jpeg : Type) where
  | path (path : Path Pose)
  | odometry (stamp : Time) (frameId childFrameId : String) (pose : Pose)
  | compressedImage (stamp : Time) (frameId format : String) (data : Jpeg)

structure Record (Pose Jpeg : Type) where
  topic : Topic
  message : Message Pose Jpeg
  stampNs : Int

/-- The parameters of the node, and what it makes of the left half of an image. -/
structure Settings (Image Jpeg : Type) where
  mapFrame : String
  odomFrame : String
  cameraFrame : String
  horizonNs : Int
  toleranceNs : Int
  leftEyeJpeg : Image → Option Jpeg

structure Recorder (Pose Image Jpeg : Type) where
  images : StampBuffer Image
  tracker : Option (KeyframeTracker Pose)
  bag : List (Record Pose Jpeg)

structure MapData (Pose : Type) where
  nodes : List (GraphNode Pose)
  posesId : List Int
  poses : List Pose
  mapToOdom : Pose

/-- Of the poses with one id, the last one counts. -/
def MapData.update {Pose : Type} (message : MapData Pose) : MapUpdate Pose :=
  ⟨message.nodes, .ofPairs (message.posesId.zip message.poses), message.mapToOdom⟩

/-- What the node receives; a message about the map comes with the transform to the camera that is
known at that time. -/
inductive Event (Pose Image : Type) where
  | image (stamp : Time) (message : Image)
  | mapData (transform : Option Pose) (message : MapData Pose)

variable {Pose Image Jpeg : Type}

def Event.image? : Event Pose Image → Option (Int × Image)
  | .image stamp message => some (nsFromTime stamp, message)
  | .mapData _ _ => none

section Records

variable (settings : Settings Image Jpeg)

def keyframeRecords (keyframe : Keyframe Pose Image) : List (Record Pose Jpeg) :=
  match settings.leftEyeJpeg keyframe.image with
  | none => []
  | some jpeg =>
      [⟨.odometry, .odometry (timeFromNs keyframe.stampNs) settings.odomFrame settings.cameraFrame keyframe.odomPose,
          keyframe.stampNs⟩,
        ⟨.image, .compressedImage (timeFromNs keyframe.stampNs) settings.cameraFrame "jpeg" jpeg, keyframe.stampNs⟩]

def pathRecord (topic : Topic) (poses : List (Int × Pose)) : Record Pose Jpeg :=
  let path := pathMsg poses settings.mapFrame
  ⟨topic, .path path, nsFromTime path.stamp⟩

end Records

def stampsOf (keyframes : List (Keyframe Pose Image)) : List Int :=
  (keyframes.map Keyframe.stampNs).mergeSort fun first second => decide (first ≤ second)

/-- A bag in which the records of some new keyframes and then a trajectory of all keyframes so far
follow each other. -/
inductive Written (settings : Settings Image Jpeg) : List (Keyframe Pose Image) → List (Record Pose Jpeg) → Prop where
  | start : Written settings [] []
  | append {keyframes : List (Keyframe Pose Image)} {bag : List (Record Pose Jpeg)}
      {new : List (Keyframe Pose Image)} {poses : List (Int × Pose)} :
      Written settings keyframes bag → new ≠ [] → poses.map Prod.fst = stampsOf (keyframes ++ new) →
      Written settings (keyframes ++ new)
        (bag ++ new.flatMap (keyframeRecords settings) ++ [pathRecord settings .trajectory poses])

variable [Mul Pose]

namespace Recorder

section Receive

variable (settings : Settings Image Jpeg)

def new : Recorder Pose Image Jpeg := ⟨.empty settings.horizonNs, none, []⟩

def onImage (recorder : Recorder Pose Image Jpeg) (stamp : Time) (message : Image) : Recorder Pose Image Jpeg :=
  { recorder with images := recorder.images.add (nsFromTime stamp) message }

def createTracker (recorder : Recorder Pose Image Jpeg) (transform : Option Pose) : Option (KeyframeTracker Pose) :=
  recorder.tracker.or (transform.map fun baseToCamera => .new baseToCamera settings.toleranceNs)

def onMapData (recorder : Recorder Pose Image Jpeg) (transform : Option Pose) (message : MapData Pose) :
    Recorder Pose Image Jpeg :=
  match recorder.createTracker settings transform with
  | none => recorder
  | some tracker =>
      let (tracker, keyframes) := tracker.update message.update recorder.images.nearest
      let recorder := { recorder with tracker := some tracker }
      if keyframes.isEmpty then recorder
      else
        { recorder with
          bag := recorder.bag ++ keyframes.flatMap (keyframeRecords settings) ++
            [pathRecord settings .trajectory tracker.snapshot] }

def receive (recorder : Recorder Pose Image Jpeg) : Event Pose Image → Recorder Pose Image Jpeg
  | .image stamp message => recorder.onImage stamp message
  | .mapData transform message => recorder.onMapData settings transform message

def run (events : List (Event Pose Image)) : Recorder Pose Image Jpeg := events.foldl (receive settings) (new settings)

/-- The bag after the final trajectory. -/
def close (recorder : Recorder Pose Image Jpeg) : List (Record Pose Jpeg) :=
  match recorder.tracker with
  | none => recorder.bag
  | some tracker =>
      if tracker.keyframeCount = 0 then recorder.bag
      else recorder.bag ++ [pathRecord settings .finalTrajectory tracker.snapshot]

end Receive

end Recorder

/-- What the recorder has made use of: the images, the transform to the camera, and the messages
about the map since there is one, each with the images of its time. -/
structure Heard (Pose Image : Type) where
  images : List (Int × Image)
  baseToCamera : Option Pose
  messages : List (ImageLookup Image × MapUpdate Pose)

namespace Heard

variable (settings : Settings Image Jpeg)

def imagesOf (images : List (Int × Image)) : ImageLookup Image :=
  (StampBuffer.addAll settings.horizonNs images).nearest

def hear (heard : Heard Pose Image) : Event Pose Image → Heard Pose Image
  | .image stamp message => { heard with images := heard.images ++ [(nsFromTime stamp, message)] }
  | .mapData transform message =>
      match heard.baseToCamera.or transform with
      | none => heard
      | some baseToCamera =>
          { heard with
            baseToCamera := some baseToCamera
            messages := heard.messages ++ [(imagesOf settings heard.images, message.update)] }

def after (events : List (Event Pose Image)) : Heard Pose Image := events.foldl (hear settings) ⟨[], none, []⟩

def tracked (heard : Heard Pose Image) : Option (KeyframeTracker Pose × List (Keyframe Pose Image)) :=
  heard.baseToCamera.map fun baseToCamera =>
    KeyframeTracker.receiveAll baseToCamera settings.toleranceNs heard.messages

def keyframes (heard : Heard Pose Image) : List (Keyframe Pose Image) :=
  (heard.tracked settings).elim [] Prod.snd

end Heard

section Bag

omit [Mul Pose] in
theorem Fate.mapPose?_isSome {fate : Fate Pose Image} {keyframe : Keyframe Pose Image}
    (found : fate.keyframe? = some keyframe) : fate.mapPose?.isSome := by
  cases fate with
  | unseen => cases found
  | skipped => cases found
  | keyframe _ _ => rfl

/-- The trajectory has the stamp of each keyframe. -/
theorem snapshot_stamps (baseToCamera : Pose) (toleranceNs : Int)
    (messages : List (ImageLookup Image × MapUpdate Pose)) :
    (KeyframeTracker.receiveAll baseToCamera toleranceNs messages).1.snapshot.map Prod.fst =
      stampsOf (KeyframeTracker.receiveAll baseToCamera toleranceNs messages).2 := by
  have follows : Follows baseToCamera toleranceNs (KeyframeTracker.receiveAll baseToCamera toleranceNs messages).1
      (KeyframeTracker.receiveAll baseToCamera toleranceNs messages).2
      fun nodeId => Fate.after baseToCamera toleranceNs nodeId messages := Follows.receiveAll messages
  rw [follows.snapshot_eq, stampsOf,
    List.map_mergeSort (s := fun first second => decide (first ≤ second)) (by intro _ _ _ _; rfl),
    List.map_filterMap, ← List.filterMap_eq_map]
  congr 1
  apply List.filterMap_congr
  intro keyframe member
  obtain ⟨mapPose, known⟩ := Option.isSome_iff_exists.mp (Fate.mapPose?_isSome (follows.found keyframe member))
  rw [known]
  rfl

structure Mirrors (settings : Settings Image Jpeg) (recorder : Recorder Pose Image Jpeg) (heard : Heard Pose Image) :
    Prop where
  images : recorder.images = .addAll settings.horizonNs heard.images
  tracker : recorder.tracker = (heard.tracked settings).map Prod.fst
  unheard : heard.baseToCamera = none → heard.messages = []
  written : Written settings (heard.keyframes settings) recorder.bag

namespace Mirrors

variable {settings : Settings Image Jpeg} {recorder : Recorder Pose Image Jpeg} {heard : Heard Pose Image}

theorem start : Mirrors settings (Recorder.new settings : Recorder Pose Image Jpeg) ⟨[], none, []⟩ where
  images := rfl
  tracker := rfl
  unheard := fun _ => rfl
  written := .start

theorem onImage (mirrors : Mirrors settings recorder heard) (stamp : Time) (message : Image) :
    Mirrors settings (recorder.onImage stamp message) (heard.hear settings (.image stamp message)) where
  images := by
    rw [Heard.hear, StampBuffer.addAll, List.foldl_append, ← StampBuffer.addAll, ← mirrors.images]
    rfl
  tracker := mirrors.tracker
  unheard := mirrors.unheard
  written := mirrors.written

/-- Where there is a transform, there is a tracker that has received the messages so far. -/
theorem createTracker (mirrors : Mirrors settings recorder heard) {transform : Option Pose} {baseToCamera : Pose}
    (known : heard.baseToCamera.or transform = some baseToCamera) :
    recorder.createTracker settings transform =
        some (KeyframeTracker.receiveAll baseToCamera settings.toleranceNs heard.messages).1 ∧
      heard.keyframes settings = (KeyframeTracker.receiveAll baseToCamera settings.toleranceNs heard.messages).2 := by
  rw [Recorder.createTracker, mirrors.tracker, Heard.keyframes, Heard.tracked]
  cases before : heard.baseToCamera with
  | none =>
      rw [before, Option.none_or] at known
      rw [known, mirrors.unheard before]
      exact ⟨rfl, rfl⟩
  | some base =>
      rw [before, Option.some_or] at known
      cases known
      exact ⟨rfl, rfl⟩

theorem onMapData (mirrors : Mirrors settings recorder heard) (transform : Option Pose) (message : MapData Pose) :
    Mirrors settings (recorder.onMapData settings transform message)
      (heard.hear settings (.mapData transform message)) := by
  cases known : heard.baseToCamera.or transform with
  | none =>
      have silent : recorder.createTracker settings transform = none := by
        obtain ⟨before, none⟩ := Option.or_eq_none_iff.mp known
        rw [Recorder.createTracker, mirrors.tracker, Heard.tracked, before, none]
        rfl
      rw [Recorder.onMapData, silent, Heard.hear, known]
      exact mirrors
  | some baseToCamera =>
      obtain ⟨tracker, keyframes⟩ := mirrors.createTracker known
      have lookup : recorder.images.nearest = Heard.imagesOf settings heard.images := by
        rw [mirrors.images]
        rfl
      let current : KeyframeTracker Pose × List (Keyframe Pose Image) :=
        KeyframeTracker.receiveAll baseToCamera settings.toleranceNs heard.messages
      let updated := current.1.update message.update (Heard.imagesOf settings heard.images)
      have received : KeyframeTracker.receiveAll baseToCamera settings.toleranceNs
          (heard.messages ++ [(Heard.imagesOf settings heard.images, message.update)]) = (updated.1, current.2 ++ updated.2) := by
        rw [KeyframeTracker.receiveAll, List.foldl_append]
        rfl
      have stamps := snapshot_stamps baseToCamera settings.toleranceNs
        (heard.messages ++ [(Heard.imagesOf settings heard.images, message.update)])
      rw [received] at stamps
      have written := keyframes ▸ mirrors.written
      rw [Recorder.onMapData, tracker, Heard.hear, known]
      simp only [lookup]
      split_ifs with none
      · have same : current.2 ++ updated.2 = current.2 := by
          rw [List.isEmpty_iff.mp none, List.append_nil]
        exact {
          images := mirrors.images
          tracker := by
            rw [Heard.tracked, Option.map_some, Option.map_some, received]
          unheard := fun none => absurd none (Option.some_ne_none _)
          written := by
            rw [Heard.keyframes, Heard.tracked, Option.map_some, received, same]
            exact written }
      · exact {
          images := mirrors.images
          tracker := by
            rw [Heard.tracked, Option.map_some, Option.map_some, received]
          unheard := fun none => absurd none (Option.some_ne_none _)
          written := by
            rw [Heard.keyframes, Heard.tracked, Option.map_some, received]
            exact .append written (fun empty => none (List.isEmpty_iff.mpr empty)) stamps }

theorem run (events : List (Event Pose Image)) :
    Mirrors settings (Recorder.run settings events : Recorder Pose Image Jpeg) (.after settings events) := by
  induction events using List.reverseRecOn with
  | nil => exact start
  | append_singleton events event ih =>
      rw [Recorder.run, Heard.after, List.foldl_append, List.foldl_append]
      cases event with
      | image stamp message => exact ih.onImage stamp message
      | mapData transform message => exact ih.onMapData transform message

end Mirrors

end Bag

section Capture

/-- The keyframe is of a node of some message about the map, and its image is the nearest to the
node of the recent images that were received before that message. -/
def Captured (settings : Settings Image Jpeg) (baseToCamera : Pose) (events : List (Event Pose Image))
    (keyframe : Keyframe Pose Image) : Prop :=
  ∃ earlier transform message later, events = earlier ++ .mapData transform message :: later ∧
    ∃ node ∈ message.nodes, node.nodeId = keyframe.nodeId ∧ keyframe.odomPose = node.odomPose * baseToCamera ∧
      (keyframe.stampNs, keyframe.image) ∈ earlier.filterMap Event.image? ∧
      StampBuffer.Recent settings.horizonNs (earlier.filterMap Event.image?) keyframe.stampNs ∧
      |keyframe.stampNs - node.stampNs| ≤ settings.toleranceNs ∧
      ∀ image ∈ earlier.filterMap Event.image?,
        StampBuffer.Recent settings.horizonNs (earlier.filterMap Event.image?) image.1 →
          |keyframe.stampNs - node.stampNs| ≤ |image.1 - node.stampNs|

theorem Fate.found_in (baseToCamera : Pose) (toleranceNs : Int) {nodeId : Int} {keyframe : Keyframe Pose Image}
    {messages : List (ImageLookup Image × MapUpdate Pose)}
    (found : (Fate.after baseToCamera toleranceNs nodeId messages).keyframe? = some keyframe) :
    ∃ message ∈ messages, ∃ node ∈ message.2.nodes, node.nodeId = nodeId ∧ keyframe.nodeId = nodeId ∧
      message.1 node.stampNs toleranceNs = some (keyframe.stampNs, keyframe.image) ∧
      keyframe.odomPose = node.odomPose * baseToCamera := by
  induction messages using List.reverseRecOn with
  | nil => cases found
  | append_singleton messages message ih =>
      have kept : (Fate.after baseToCamera toleranceNs nodeId messages).keyframe? = some keyframe →
          ∃ message' ∈ messages ++ [message], ∃ node ∈ message'.2.nodes, node.nodeId = nodeId ∧
            keyframe.nodeId = nodeId ∧ message'.1 node.stampNs toleranceNs = some (keyframe.stampNs, keyframe.image) ∧
            keyframe.odomPose = node.odomPose * baseToCamera := by
        intro before
        obtain ⟨earlier, member, node⟩ := ih before
        exact ⟨earlier, List.mem_append_left _ member, node⟩
      rw [Fate.after, List.foldl_append, ← Fate.after, List.foldl_cons, List.foldl_nil, Fate.next,
        Fate.keyframe?_moveTo] at found
      cases before : Fate.after baseToCamera toleranceNs nodeId messages with
      | skipped => exact kept (before ▸ found)
      | keyframe earlier mapPose => exact kept (before ▸ found)
      | unseen =>
          rw [before] at found
          cases here : message.2.nodes.find? (·.nodeId = nodeId) with
          | none =>
              rw [here] at found
              cases found
          | some node =>
              have same : node.nodeId = nodeId := by simpa using List.find?_some here
              rw [here, Fate.meet] at found
              cases looked : message.1 node.stampNs toleranceNs with
              | none =>
                  rw [looked] at found
                  cases found
              | some image =>
                  rw [looked] at found
                  cases found
                  exact ⟨message, List.mem_append_right _ List.mem_cons_self, node, List.mem_of_find?_eq_some here,
                    same, same, looked, rfl⟩

namespace Heard

variable (settings : Settings Image Jpeg)

omit [Mul Pose] in
theorem images_after (events : List (Event Pose Image)) :
    (after settings events).images = events.filterMap Event.image? := by
  induction events using List.reverseRecOn with
  | nil => rfl
  | append_singleton events event ih =>
      rw [after, List.foldl_append, ← after, List.foldl_cons, List.foldl_nil, List.filterMap_append, ← ih]
      cases event with
      | image stamp message => rfl
      | mapData transform message =>
          rw [hear, List.filterMap_cons, Event.image?, List.filterMap_nil, List.append_nil]
          cases (after settings events).baseToCamera.or transform <;> rfl

omit [Mul Pose] in
theorem messages_after (events : List (Event Pose Image)) :
    ∀ heard ∈ (after settings events).messages, ∃ earlier transform message later,
      events = earlier ++ .mapData transform message :: later ∧
        heard = (imagesOf settings (earlier.filterMap Event.image?), message.update) := by
  induction events using List.reverseRecOn with
  | nil => exact nofun
  | append_singleton events event ih =>
      have kept : ∀ heard ∈ (after settings events).messages, ∃ earlier transform message later,
          events ++ [event] = earlier ++ .mapData transform message :: later ∧
            heard = (imagesOf settings (earlier.filterMap Event.image?), message.update) := by
        intro heard member
        obtain ⟨earlier, transform, message, later, split, same⟩ := ih heard member
        refine ⟨earlier, transform, message, later ++ [event], ?_, same⟩
        rw [split, List.append_assoc, List.cons_append]
      rw [after, List.foldl_append, ← after, List.foldl_cons, List.foldl_nil]
      cases event with
      | image stamp message => exact kept
      | mapData transform message =>
          rw [hear]
          cases (after settings events).baseToCamera.or transform with
          | none => exact kept
          | some baseToCamera =>
              intro heard member
              rcases List.mem_append.mp member with earlier | new
              · exact kept heard earlier
              · rw [List.mem_singleton.mp new, images_after]
                exact ⟨events, transform, message, [], rfl, rfl⟩

end Heard

theorem captured (settings : Settings Image Jpeg) (events : List (Event Pose Image)) :
    ∀ keyframe ∈ (Heard.after settings events).keyframes settings, ∃ baseToCamera,
      (Heard.after settings events).baseToCamera = some baseToCamera ∧ Captured settings baseToCamera events keyframe := by
  intro keyframe member
  rw [Heard.keyframes, Heard.tracked] at member
  cases known : (Heard.after settings events).baseToCamera with
  | none =>
      rw [known] at member
      cases member
  | some baseToCamera =>
      rw [known] at member
      refine ⟨baseToCamera, rfl, ?_⟩
      have found : (Fate.after baseToCamera settings.toleranceNs keyframe.nodeId
          (Heard.after settings events).messages).keyframe? = some keyframe :=
        (Follows.receiveAll _).found keyframe member
      obtain ⟨heard, listed, node, held, same, _, looked, odomPose⟩ :=
        Fate.found_in baseToCamera settings.toleranceNs found
      obtain ⟨earlier, transform, message, later, split, rfl⟩ := Heard.messages_after settings events heard listed
      obtain ⟨_, _, nearest⟩ := StampBuffer.nearest_of_adds settings.horizonNs (earlier.filterMap Event.image?)
        node.stampNs settings.toleranceNs
      obtain ⟨added, recent, near, least⟩ := nearest _ looked
      exact ⟨earlier, transform, message, later, split, node, held, same, odomPose, added, recent, near, least⟩

end Capture

section Closing

variable {settings : Settings Image Jpeg} {keyframes : List (Keyframe Pose Image)}
  {bag : List (Record Pose Jpeg)}

omit [Mul Pose] in
/-- A trajectory has the time of its last keyframe. -/
theorem pathRecord_stampNs (topic : Topic) {poses : List (Int × Pose)}
    (stamps : poses.map Prod.fst = stampsOf keyframes) (filled : keyframes ≠ []) :
    (pathRecord settings topic poses).stampNs ∈ keyframes.map Keyframe.stampNs ∧
      ∀ stampNs ∈ keyframes.map Keyframe.stampNs, stampNs ≤ (pathRecord settings topic poses).stampNs := by
  have sorted : (stampsOf keyframes).Pairwise (· ≤ ·) := by
    have ordered : (stampsOf keyframes).Pairwise fun first second => decide (first ≤ second) = true :=
      List.pairwise_mergeSort (fun _ _ _ => by simpa using Int.le_trans)
        (fun _ _ => by simpa using Int.le_total _ _) _
    exact ordered.imp of_decide_eq_true
  have members : ∀ stampNs, stampNs ∈ stampsOf keyframes ↔ stampNs ∈ keyframes.map Keyframe.stampNs := fun _ =>
    List.mem_mergeSort
  have some : stampsOf keyframes ≠ [] := by
    intro none
    have length := congrArg List.length none
    rw [stampsOf, List.length_mergeSort, List.length_map, List.length_nil] at length
    exact filled (List.length_eq_zero_iff.mp length)
  have last : (pathRecord settings topic poses).stampNs = (stampsOf keyframes).getLast some := by
    have same := congrArg List.getLast? stamps
    rw [List.getLast?_map, List.getLast?_eq_some_getLast some] at same
    obtain ⟨entry, found, stamp⟩ := Option.map_eq_some_iff.mp same
    simp only [pathRecord, pathMsg, found]
    rw [← stamp]
    exact nsFromTime_timeFromNs entry.1
  rw [last]
  refine ⟨(members _).mp (List.getLast_mem some), ?_⟩
  intro stampNs member
  exact sorted.rel_getLast ((members stampNs).mpr member)

omit [Mul Pose] in
theorem keyframeRecords_spec {keyframe : Keyframe Pose Image} {record : Record Pose Jpeg}
    (member : record ∈ keyframeRecords settings keyframe) :
    record.topic ≠ .finalTrajectory ∧ record.stampNs = keyframe.stampNs := by
  unfold keyframeRecords at member
  cases decoded : settings.leftEyeJpeg keyframe.image with
  | none =>
      rw [decoded] at member
      cases member
  | some jpeg =>
      simp only [decoded, List.mem_cons, List.not_mem_nil, or_false] at member
      rcases member with rfl | rfl
      · exact ⟨nofun, rfl⟩
      · exact ⟨nofun, rfl⟩

omit [Mul Pose] in
/-- Each record has the time of a keyframe, and none is the final trajectory. -/
theorem Written.records (written : Written settings keyframes bag) :
    ∀ record ∈ bag, record.topic ≠ .finalTrajectory ∧ record.stampNs ∈ keyframes.map Keyframe.stampNs := by
  induction written with
  | start => exact nofun
  | @append keyframes bag new poses _ filled stamps ih =>
      intro record member
      rw [List.mem_append, List.mem_append, List.mem_singleton] at member
      rcases member with (earlier | written) | rfl
      · obtain ⟨topic, stamp⟩ := ih record earlier
        exact ⟨topic, List.map_append ▸ List.mem_append_left _ stamp⟩
      · obtain ⟨keyframe, listed, own⟩ := List.mem_flatMap.mp written
        obtain ⟨topic, stamp⟩ := keyframeRecords_spec own
        refine ⟨topic, ?_⟩
        rw [stamp]
        exact List.mem_map_of_mem (List.mem_append_right _ listed)
      · exact ⟨nofun, (pathRecord_stampNs .trajectory stamps (by simp [filled])).1⟩

omit [Mul Pose] in
theorem Written.nil_of_none (written : Written settings keyframes bag) (none : keyframes = []) : bag = [] := by
  cases written with
  | start => rfl
  | append _ filled _ => exact absurd (List.append_eq_nil_iff.mp none).2 filled

/-- The bag is written in turns: the records of some new keyframes, and a trajectory of all so far.
No node becomes a keyframe twice, and each keyframe has the image that was nearest to its node. -/
theorem bag_of_events (settings : Settings Image Jpeg) (events : List (Event Pose Image)) :
    let heard := Heard.after settings events
    Written settings (heard.keyframes settings) (Recorder.run settings events).bag ∧
      ((heard.keyframes settings).map Keyframe.nodeId).Nodup ∧
      ∀ keyframe ∈ heard.keyframes settings, ∃ baseToCamera, heard.baseToCamera = some baseToCamera ∧
        Captured settings baseToCamera events keyframe := by
  refine ⟨(Mirrors.run events).written, ?_, captured settings events⟩
  rw [Heard.keyframes, Heard.tracked]
  cases (Heard.after settings events).baseToCamera with
  | none => exact .nil
  | some baseToCamera => exact (Follows.receiveAll _).nodup

/-- Without a keyframe a closed bag is empty. Otherwise it ends with the one final trajectory, that has
the latest pose of each keyframe and is not before any other record. -/
theorem closed_bag (settings : Settings Image Jpeg) (events : List (Event Pose Image)) :
    let heard := Heard.after settings events
    let keyframes := heard.keyframes settings
    let recorder := Recorder.run settings events
    (keyframes = [] → recorder.close settings = []) ∧
      (keyframes ≠ [] → ∃ baseToCamera latest, heard.baseToCamera = some baseToCamera ∧
        recorder.close settings = recorder.bag ++ [pathRecord settings .finalTrajectory latest] ∧
        latest = (keyframes.filterMap fun keyframe =>
          (Fate.after baseToCamera settings.toleranceNs keyframe.nodeId heard.messages).mapPose?.map fun mapPose =>
            (keyframe.stampNs, mapPose * baseToCamera)).mergeSort (fun first second => decide (first.1 ≤ second.1)) ∧
        latest.length = keyframes.length ∧
        ∀ record ∈ recorder.bag, record.topic ≠ .finalTrajectory ∧
          record.stampNs ≤ (pathRecord settings .finalTrajectory latest : Record Pose Jpeg).stampNs) := by
  intro heard keyframes recorder
  have mirrors : Mirrors settings recorder heard := Mirrors.run events
  have tracker := mirrors.tracker
  cases known : heard.baseToCamera with
  | none =>
      have none : keyframes = [] := by
        simp only [keyframes, Heard.keyframes, Heard.tracked, known]
        rfl
      refine ⟨fun _ => ?_, fun filled => absurd none filled⟩
      rw [Heard.tracked, known] at tracker
      rw [Recorder.close, tracker]
      exact mirrors.written.nil_of_none none
  | some baseToCamera =>
      let current : KeyframeTracker Pose × List (Keyframe Pose Image) :=
        KeyframeTracker.receiveAll baseToCamera settings.toleranceNs heard.messages
      have same : keyframes = current.2 := by
        simp only [keyframes, Heard.keyframes, Heard.tracked, known]
        rfl
      obtain ⟨_, _, latest, counted, listed, _⟩ :=
        keyframes_of_messages baseToCamera settings.toleranceNs heard.messages
      have stamps := snapshot_stamps baseToCamera settings.toleranceNs heard.messages
      have closed : recorder.close settings = if keyframes.length = 0 then recorder.bag
          else recorder.bag ++ [pathRecord settings .finalTrajectory current.1.snapshot] := by
        rw [Heard.tracked, known] at tracker
        rw [Recorder.close, tracker, same, ← counted]
        rfl
      rw [closed, same]
      refine ⟨fun none => ?_, fun filled => ?_⟩
      · rw [if_pos (List.length_eq_zero_iff.mpr none)]
        exact mirrors.written.nil_of_none (same.trans none)
      · rw [if_neg (fun none => filled (List.length_eq_zero_iff.mp none))]
        refine ⟨baseToCamera, current.1.snapshot, rfl, rfl, latest, listed, ?_⟩
        intro record member
        obtain ⟨topic, stamp⟩ := mirrors.written.records record member
        exact ⟨topic, (pathRecord_stampNs .finalTrajectory stamps filled).2 _ (same ▸ stamp)⟩

end Closing

end RosPortal.Slam
