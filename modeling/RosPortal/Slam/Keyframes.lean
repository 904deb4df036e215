import Mathlib.Algebra.Group.Defs
import Mathlib.Data.List.Dedup
import Mathlib.Data.List.Induction
import RosPortal.Ordering.Dict

/-! The keyframes of the SLAM bag: each new node of the map with an image of its time becomes one,
and the trajectory has the latest pose of each. -/

set_option autoImplicit false

namespace RosPortal.Slam

open Ordering

structure GraphNode (Pose : Type) where
  nodeId : Int
  stampNs : Int
  odomPose : Pose

structure Keyframe (Pose Image : Type) where
  nodeId : Int
  stampNs : Int
  odomPose : Pose
  image : Image

/-- What one message about the map gives to the tracker. -/
structure MapUpdate (Pose : Type) where
  nodes : List (GraphNode Pose)
  graphPoses : Dict Int Pose
  mapToOdom : Pose

def ImageLookup (Image : Type) : Type := Int → Int → Option (Int × Image)

structure KeyframeTracker (Pose : Type) where
  baseToCamera : Pose
  toleranceNs : Int
  seen : List Int
  stamps : Dict Int Int
  mapPoses : Dict Int Pose
  skippedNodes : Nat

def byNodeId {Pose : Type} (nodes : List (GraphNode Pose)) : List (GraphNode Pose) :=
  nodes.mergeSort fun first second => decide (first.nodeId ≤ second.nodeId)

namespace KeyframeTracker

variable {Pose Image : Type} [Mul Pose]

def new (baseToCamera : Pose) (toleranceNs : Int) : KeyframeTracker Pose where
  baseToCamera
  toleranceNs
  seen := []
  stamps := .empty
  mapPoses := .empty
  skippedNodes := 0

def keyframeCount (tracker : KeyframeTracker Pose) : Nat := tracker.stamps.entries.length

/-- The part of the loop over the nodes that one node takes. -/
def visit (imageLookup : ImageLookup Image) (mapToOdom : Pose)
    (current : KeyframeTracker Pose × List (Keyframe Pose Image)) (node : GraphNode Pose) :
    KeyframeTracker Pose × List (Keyframe Pose Image) :=
  let (tracker, newKeyframes) := current
  if node.nodeId ∈ tracker.seen then current
  else
    let tracker := { tracker with seen := tracker.seen ++ [node.nodeId] }
    match imageLookup node.stampNs tracker.toleranceNs with
    | none => ({ tracker with skippedNodes := tracker.skippedNodes + 1 }, newKeyframes)
    | some (imageStampNs, image) =>
        ({ tracker with
            stamps := tracker.stamps.set node.nodeId imageStampNs
            mapPoses := tracker.mapPoses.set node.nodeId (mapToOdom * node.odomPose) },
          newKeyframes ++ [{
            nodeId := node.nodeId
            stampNs := imageStampNs
            odomPose := node.odomPose * tracker.baseToCamera
            image }])

def replacePose (tracker : KeyframeTracker Pose) (entry : Int × Pose) : KeyframeTracker Pose :=
  if entry.1 ∈ tracker.stamps.keys then { tracker with mapPoses := tracker.mapPoses.set entry.1 entry.2 } else tracker

def update (tracker : KeyframeTracker Pose) (message : MapUpdate Pose) (imageLookup : ImageLookup Image) :
    KeyframeTracker Pose × List (Keyframe Pose Image) :=
  let (tracker, newKeyframes) := (byNodeId message.nodes).foldl (visit imageLookup message.mapToOdom) (tracker, [])
  (message.graphPoses.entries.foldl replacePose tracker, newKeyframes)

/-- The keys of the poses all have a stamp, so the default is not read. -/
def snapshot (tracker : KeyframeTracker Pose) : List (Int × Pose) :=
  (tracker.mapPoses.entries.map fun entry =>
    ((tracker.stamps.find entry.1).getD 0, entry.2 * tracker.baseToCamera)).mergeSort
      fun first second => decide (first.1 ≤ second.1)

section Run

variable (baseToCamera : Pose) (toleranceNs : Int)

def receive (current : KeyframeTracker Pose × List (Keyframe Pose Image))
    (message : ImageLookup Image × MapUpdate Pose) : KeyframeTracker Pose × List (Keyframe Pose Image) :=
  let (tracker, newKeyframes) := current.1.update message.2 message.1
  (tracker, current.2 ++ newKeyframes)

/-- The tracker and all its keyframes after some messages, each with the images of its time. -/
def receiveAll (messages : List (ImageLookup Image × MapUpdate Pose)) :
    KeyframeTracker Pose × List (Keyframe Pose Image) :=
  messages.foldl receive (new baseToCamera toleranceNs, [])

end Run

end KeyframeTracker

/-- What became of one node, as if there were no other. -/
inductive Fate (Pose Image : Type) where
  | unseen
  | skipped
  | keyframe (keyframe : Keyframe Pose Image) (mapPose : Pose)

namespace Fate

variable {Pose Image : Type} [Mul Pose]

def isSkipped : Fate Pose Image → Bool
  | skipped => true
  | unseen | keyframe .. => false

def isSeen : Fate Pose Image → Bool
  | unseen => false
  | skipped | keyframe .. => true

def keyframe? : Fate Pose Image → Option (Keyframe Pose Image)
  | keyframe found _ => some found
  | unseen | skipped => none

def mapPose? : Fate Pose Image → Option Pose
  | keyframe _ mapPose => some mapPose
  | unseen | skipped => none

section Messages

variable (baseToCamera : Pose) (toleranceNs : Int)

def meet (imageLookup : ImageLookup Image) (mapToOdom : Pose) :
    Fate Pose Image → Option (GraphNode Pose) → Fate Pose Image
  | unseen, some node =>
      match imageLookup node.stampNs toleranceNs with
      | none => skipped
      | some (stampNs, image) =>
          keyframe ⟨node.nodeId, stampNs, node.odomPose * baseToCamera, image⟩ (mapToOdom * node.odomPose)
  | fate, _ => fate

def moveTo : Fate Pose Image → Option Pose → Fate Pose Image
  | keyframe found _, some mapPose => keyframe found mapPose
  | fate, _ => fate

def next (nodeId : Int) (fate : Fate Pose Image) (message : ImageLookup Image × MapUpdate Pose) : Fate Pose Image :=
  (fate.meet baseToCamera toleranceNs message.1 message.2.mapToOdom
    (message.2.nodes.find? (·.nodeId = nodeId))).moveTo (message.2.graphPoses.find nodeId)

def after (nodeId : Int) (messages : List (ImageLookup Image × MapUpdate Pose)) : Fate Pose Image :=
  messages.foldl (next baseToCamera toleranceNs nodeId) unseen

end Messages

end Fate

section Fates

variable {Pose Image : Type} [Mul Pose]

omit [Mul Pose] in
/-- The sort keeps the order of the nodes with one id. -/
theorem find_byNodeId (nodes : List (GraphNode Pose)) (nodeId : Int) :
    (byNodeId nodes).find? (·.nodeId = nodeId) = nodes.find? (·.nodeId = nodeId) := by
  have kept : (nodes.filter (·.nodeId = nodeId)).Pairwise
      fun first second => decide (first.nodeId ≤ second.nodeId) = true := by
    apply List.pairwise_of_forall_mem_list
    intro first one second other
    simp only [List.mem_filter, decide_eq_true_eq] at one other ⊢
    omega
  have sublist : (nodes.filter (·.nodeId = nodeId)).Sublist (byNodeId nodes) :=
    List.sublist_mergeSort (fun _ _ _ => by simpa using Int.le_trans) (fun _ _ => by simpa using Int.le_total _ _)
      kept List.filter_sublist
  have same : nodes.filter (·.nodeId = nodeId) = (byNodeId nodes).filter (·.nodeId = nodeId) := by
    apply List.Sublist.eq_of_length
    · simpa using sublist.filter (·.nodeId = nodeId)
    · exact ((List.mergeSort_perm nodes _).filter _).length_eq.symm
  rw [← List.head?_filter, ← List.head?_filter, same]

namespace Fate

variable (baseToCamera : Pose) (toleranceNs : Int)

theorem meet_of_isSeen {fate : Fate Pose Image} (seen : fate.isSeen = true) (imageLookup : ImageLookup Image)
    (mapToOdom : Pose) (node : Option (GraphNode Pose)) :
    fate.meet baseToCamera toleranceNs imageLookup mapToOdom node = fate := by
  cases fate with
  | unseen => cases seen
  | skipped => rfl
  | keyframe found mapPose => rfl

theorem isSeen_meet (fate : Fate Pose Image) (imageLookup : ImageLookup Image) (mapToOdom : Pose)
    (node : GraphNode Pose) : (fate.meet baseToCamera toleranceNs imageLookup mapToOdom (some node)).isSeen = true := by
  cases fate with
  | unseen =>
      rw [meet]
      cases imageLookup node.stampNs toleranceNs with
      | none => rfl
      | some found => rfl
  | skipped => rfl
  | keyframe found mapPose => rfl

/-- Of the nodes with one id in a message, the first one counts. -/
theorem foldl_meet (imageLookup : ImageLookup Image) (mapToOdom : Pose) (nodeId : Int) (nodes : List (GraphNode Pose))
    (fate : Fate Pose Image) :
    nodes.foldl (fun fate node => if node.nodeId = nodeId then
        fate.meet baseToCamera toleranceNs imageLookup mapToOdom (some node) else fate) fate =
      fate.meet baseToCamera toleranceNs imageLookup mapToOdom (nodes.find? (·.nodeId = nodeId)) := by
  induction nodes generalizing fate with
  | nil => cases fate <;> rfl
  | cons node nodes ih =>
      rw [List.foldl_cons, ih]
      by_cases same : node.nodeId = nodeId
      · rw [if_pos same, List.find?_cons_of_pos (by simpa using same)]
        exact meet_of_isSeen baseToCamera toleranceNs (isSeen_meet _ _ fate imageLookup mapToOdom node) _ _ _
      · rw [if_neg same, List.find?_cons_of_neg (by simpa using same)]

omit [Mul Pose] in
theorem moveTo_of_none {fate : Fate Pose Image} (none : fate.mapPose? = .none) (mapPose : Option Pose) :
    fate.moveTo mapPose = fate := by
  cases fate with
  | unseen => rfl
  | skipped => rfl
  | keyframe found held => cases none

omit [Mul Pose] in
theorem keyframe?_moveTo (fate : Fate Pose Image) (mapPose : Option Pose) :
    (fate.moveTo mapPose).keyframe? = fate.keyframe? := by
  cases fate <;> cases mapPose <;> rfl

omit [Mul Pose] in
theorem foldl_moveTo (nodeId : Int) (entries : List (Int × Pose)) (distinct : (entries.map Prod.fst).Nodup)
    (fate : Fate Pose Image) :
    entries.foldl (fun fate entry => if entry.1 = nodeId then fate.moveTo (some entry.2) else fate) fate =
      fate.moveTo (entries.lookup nodeId) := by
  induction entries generalizing fate with
  | nil => cases fate <;> rfl
  | cons entry entries ih =>
      rw [List.map_cons, List.nodup_cons] at distinct
      rw [List.foldl_cons, ih distinct.2, lookup_entry]
      by_cases same : entry.1 = nodeId
      · have absent : entries.lookup nodeId = none := by
          rw [List.lookup_eq_none_iff]
          intro other member
          rw [bne_iff_ne]
          rintro rfl
          exact distinct.1 (same ▸ List.mem_map_of_mem member)
        rw [if_pos same, if_pos same.symm, absent]
        cases fate <;> rfl
      · rw [if_neg same, if_neg (Ne.symm same)]

end Fate

/-- The tracker and its keyframes hold what became of each node. -/
structure Follows (baseToCamera : Pose) (toleranceNs : Int) (tracker : KeyframeTracker Pose)
    (keyframes : List (Keyframe Pose Image)) (fates : Int → Fate Pose Image) : Prop where
  base : tracker.baseToCamera = baseToCamera
  tolerance : tracker.toleranceNs = toleranceNs
  distinct : tracker.seen.Nodup
  seen : ∀ nodeId, nodeId ∈ tracker.seen ↔ (fates nodeId).isSeen = true
  stamp : ∀ nodeId, tracker.stamps.find nodeId = (fates nodeId).keyframe?.map Keyframe.stampNs
  mapPose : ∀ nodeId, tracker.mapPoses.find nodeId = (fates nodeId).mapPose?
  stamped : tracker.stamps.keys = keyframes.map Keyframe.nodeId
  posed : tracker.mapPoses.keys = keyframes.map Keyframe.nodeId
  found : ∀ keyframe ∈ keyframes, (fates keyframe.nodeId).keyframe? = some keyframe
  skipped : tracker.skippedNodes = tracker.seen.countP fun nodeId => (fates nodeId).isSkipped

namespace Follows

variable {baseToCamera : Pose} {toleranceNs : Int} {tracker : KeyframeTracker Pose}
  {keyframes : List (Keyframe Pose Image)} {fates : Int → Fate Pose Image}

omit [Mul Pose] in
theorem start : Follows baseToCamera toleranceNs (KeyframeTracker.new baseToCamera toleranceNs) []
    fun _ => (.unseen : Fate Pose Image) := by
  constructor <;> simp [KeyframeTracker.new, Fate.isSeen, Fate.keyframe?, Fate.mapPose?]

omit [Mul Pose] in
/-- Nothing is known of a node that was not seen. -/
theorem absent (follows : Follows baseToCamera toleranceNs tracker keyframes fates) {nodeId : Int}
    (unseen : nodeId ∉ tracker.seen) :
    fates nodeId = .unseen ∧ nodeId ∉ keyframes.map Keyframe.nodeId := by
  have fate : fates nodeId = .unseen := by
    cases known : fates nodeId with
    | unseen => rfl
    | skipped => exact absurd ((follows.seen nodeId).mpr (known ▸ rfl)) unseen
    | keyframe found mapPose => exact absurd ((follows.seen nodeId).mpr (known ▸ rfl)) unseen
  refine ⟨fate, ?_⟩
  rw [← follows.stamped, ← Dict.find_isSome, follows.stamp, fate]
  exact Bool.false_ne_true

omit [Mul Pose] in
theorem countP_update (follows : Follows baseToCamera toleranceNs tracker keyframes fates) {nodeId : Int}
    (unseen : nodeId ∉ tracker.seen) (fate : Fate Pose Image) :
    (tracker.seen ++ [nodeId]).countP (fun other => (Function.update fates nodeId fate other).isSkipped) =
      tracker.skippedNodes + if fate.isSkipped then 1 else 0 := by
  rw [List.countP_append, follows.skipped, List.countP_singleton, Function.update_self]
  congr 1
  apply List.countP_congr
  intro other member
  rw [Function.update_of_ne (ne_of_mem_of_not_mem member unseen)]

omit [Mul Pose] in
theorem seen_update (follows : Follows baseToCamera toleranceNs tracker keyframes fates) {nodeId : Int}
    {fate : Fate Pose Image} (known : fate.isSeen = true) (other : Int) :
    other ∈ tracker.seen ++ [nodeId] ↔ (Function.update fates nodeId fate other).isSeen = true := by
  rw [List.mem_append, List.mem_singleton, follows.seen]
  by_cases same : other = nodeId
  · subst same
    simp [known]
  · simp [same]

omit [Mul Pose] in
theorem skip (follows : Follows baseToCamera toleranceNs tracker keyframes fates) {nodeId : Int}
    (unseen : nodeId ∉ tracker.seen) :
    Follows baseToCamera toleranceNs
      { tracker with seen := tracker.seen ++ [nodeId], skippedNodes := tracker.skippedNodes + 1 } keyframes
      (Function.update fates nodeId .skipped) where
  base := follows.base
  tolerance := follows.tolerance
  distinct := List.concat_eq_append ▸ follows.distinct.concat unseen
  seen := follows.seen_update rfl
  stamp := by
    intro other
    by_cases same : other = nodeId
    · subst same
      rw [Function.update_self, follows.stamp, (follows.absent unseen).1]
      rfl
    · rw [Function.update_of_ne same]
      exact follows.stamp other
  mapPose := by
    intro other
    by_cases same : other = nodeId
    · subst same
      rw [Function.update_self, follows.mapPose, (follows.absent unseen).1]
      rfl
    · rw [Function.update_of_ne same]
      exact follows.mapPose other
  stamped := follows.stamped
  posed := follows.posed
  found := by
    intro keyframe member
    have other : keyframe.nodeId ≠ nodeId :=
      ne_of_mem_of_not_mem (List.mem_map_of_mem member) (follows.absent unseen).2
    rw [Function.update_of_ne other]
    exact follows.found keyframe member
  skipped := (follows.countP_update unseen .skipped).symm

omit [Mul Pose] in
theorem accept (follows : Follows baseToCamera toleranceNs tracker keyframes fates) (keyframe : Keyframe Pose Image)
    (unseen : keyframe.nodeId ∉ tracker.seen) (mapPose : Pose) :
    Follows baseToCamera toleranceNs
      { tracker with
        seen := tracker.seen ++ [keyframe.nodeId]
        stamps := tracker.stamps.set keyframe.nodeId keyframe.stampNs
        mapPoses := tracker.mapPoses.set keyframe.nodeId mapPose }
      (keyframes ++ [keyframe]) (Function.update fates keyframe.nodeId (.keyframe keyframe mapPose)) where
  base := follows.base
  tolerance := follows.tolerance
  distinct := List.concat_eq_append ▸ follows.distinct.concat unseen
  seen := follows.seen_update rfl
  stamp := by
    intro other
    rw [Dict.find_set]
    by_cases same : other = keyframe.nodeId
    · rw [if_pos same, same, Function.update_self]
      rfl
    · rw [if_neg same, Function.update_of_ne same]
      exact follows.stamp other
  mapPose := by
    intro other
    rw [Dict.find_set]
    by_cases same : other = keyframe.nodeId
    · rw [if_pos same, same, Function.update_self]
      rfl
    · rw [if_neg same, Function.update_of_ne same]
      exact follows.mapPose other
  stamped := by
    rw [Dict.keys_set, follows.stamped, if_neg (follows.absent unseen).2, List.map_append]
    rfl
  posed := by
    rw [Dict.keys_set, follows.posed, if_neg (follows.absent unseen).2, List.map_append]
    rfl
  found := by
    intro each member
    rcases List.mem_append.mp member with earlier | new
    · have other : each.nodeId ≠ keyframe.nodeId :=
        ne_of_mem_of_not_mem (List.mem_map_of_mem earlier) (follows.absent unseen).2
      rw [Function.update_of_ne other]
      exact follows.found each earlier
    · rw [List.mem_singleton.mp new, Function.update_self]
      rfl
  skipped := (follows.countP_update unseen (.keyframe keyframe mapPose)).symm

/-- A node is known, or it is new to all that the tracker holds. -/
theorem visit {earlier : List (Keyframe Pose Image)}
    (follows : Follows baseToCamera toleranceNs tracker (earlier ++ keyframes) fates)
    (imageLookup : ImageLookup Image) (mapToOdom : Pose) (node : GraphNode Pose) :
    Follows baseToCamera toleranceNs (KeyframeTracker.visit imageLookup mapToOdom (tracker, keyframes) node).1
      (earlier ++ (KeyframeTracker.visit imageLookup mapToOdom (tracker, keyframes) node).2)
      (Function.update fates node.nodeId
        ((fates node.nodeId).meet baseToCamera toleranceNs imageLookup mapToOdom (some node))) := by
  obtain rfl := follows.base
  obtain rfl := follows.tolerance
  unfold KeyframeTracker.visit
  by_cases known : node.nodeId ∈ tracker.seen
  · have seen := (follows.seen node.nodeId).mp known
    simp only [if_pos known]
    rw [Fate.meet_of_isSeen _ _ seen, Function.update_eq_self]
    exact follows
  · simp only [if_neg known]
    rw [(follows.absent known).1, Fate.meet]
    cases imageLookup node.stampNs tracker.toleranceNs with
    | none => exact follows.skip known
    | some image =>
        have accepted := follows.accept ⟨node.nodeId, image.1, node.odomPose * tracker.baseToCamera, image.2⟩ known
          (mapToOdom * node.odomPose)
        rw [List.append_assoc] at accepted
        exact accepted

theorem foldl_visit {earlier : List (Keyframe Pose Image)} (imageLookup : ImageLookup Image) (mapToOdom : Pose)
    (nodes : List (GraphNode Pose)) (current : KeyframeTracker Pose × List (Keyframe Pose Image))
    (follows : Follows baseToCamera toleranceNs current.1 (earlier ++ current.2) fates) :
    Follows baseToCamera toleranceNs (nodes.foldl (KeyframeTracker.visit imageLookup mapToOdom) current).1
      (earlier ++ (nodes.foldl (KeyframeTracker.visit imageLookup mapToOdom) current).2)
      fun nodeId => nodes.foldl (fun fate node => if node.nodeId = nodeId then
        fate.meet baseToCamera toleranceNs imageLookup mapToOdom (some node) else fate) (fates nodeId) := by
  induction nodes generalizing current fates with
  | nil => exact follows
  | cons node nodes ih =>
      have same : Function.update fates node.nodeId
            ((fates node.nodeId).meet baseToCamera toleranceNs imageLookup mapToOdom (some node)) =
          fun nodeId => if node.nodeId = nodeId then
            (fates nodeId).meet baseToCamera toleranceNs imageLookup mapToOdom (some node) else fates nodeId := by
        funext nodeId
        by_cases here : nodeId = node.nodeId
        · rw [here, Function.update_self, if_pos rfl]
        · rw [Function.update_of_ne here, if_neg (Ne.symm here)]
      exact ih _ (same ▸ follows.visit imageLookup mapToOdom node)

omit [Mul Pose] in
/-- A pose of the graph moves a keyframe and nothing else. -/
theorem replacePose (follows : Follows baseToCamera toleranceNs tracker keyframes fates) (entry : Int × Pose) :
    Follows baseToCamera toleranceNs (tracker.replacePose entry) keyframes
      (Function.update fates entry.1 ((fates entry.1).moveTo (some entry.2))) := by
  have accepted : entry.1 ∈ tracker.stamps.keys ↔ (fates entry.1).mapPose?.isSome := by
    rw [← follows.mapPose, Dict.find_isSome, follows.posed, follows.stamped]
  unfold KeyframeTracker.replacePose
  cases known : fates entry.1 with
  | unseen | skipped =>
      rw [known] at accepted
      rw [if_neg (fun member => Bool.false_ne_true (accepted.mp member)), Fate.moveTo_of_none rfl, ← known,
        Function.update_eq_self]
      exact follows
  | keyframe found mapPose =>
      have unchanged : ∀ {Result : Type} (project : Fate Pose Image → Result),
          project (.keyframe found entry.2) = project (.keyframe found mapPose) → ∀ nodeId,
          project (Function.update fates entry.1 (.keyframe found entry.2) nodeId) = project (fates nodeId) := by
        intro Result project same nodeId
        by_cases here : nodeId = entry.1
        · rw [here, Function.update_self, known, same]
        · rw [Function.update_of_ne here]
      rw [known] at accepted
      rw [if_pos (accepted.mpr rfl), Fate.moveTo]
      exact {
        base := follows.base
        tolerance := follows.tolerance
        distinct := follows.distinct
        seen := fun nodeId => unchanged Fate.isSeen rfl nodeId ▸ follows.seen nodeId
        stamp := fun nodeId => unchanged Fate.keyframe? rfl nodeId ▸ follows.stamp nodeId
        mapPose := by
          intro nodeId
          rw [Dict.find_set]
          by_cases here : nodeId = entry.1
          · rw [if_pos here, here, Function.update_self]
            rfl
          · rw [if_neg here, Function.update_of_ne here]
            exact follows.mapPose nodeId
        stamped := follows.stamped
        posed := by
          have present : entry.1 ∈ tracker.mapPoses.keys := by
            rw [follows.posed, ← follows.stamped]
            exact accepted.mpr rfl
          rw [Dict.keys_set, if_pos present, follows.posed]
        found := fun keyframe member =>
          (unchanged Fate.keyframe? rfl keyframe.nodeId).trans (follows.found keyframe member)
        skipped := by
          rw [follows.skipped]
          exact List.countP_congr fun nodeId _ => by rw [unchanged Fate.isSkipped rfl nodeId] }

omit [Mul Pose] in
theorem foldl_replacePose (follows : Follows baseToCamera toleranceNs tracker keyframes fates)
    (entries : List (Int × Pose)) :
    Follows baseToCamera toleranceNs (entries.foldl KeyframeTracker.replacePose tracker) keyframes fun nodeId =>
      entries.foldl (fun fate entry => if entry.1 = nodeId then fate.moveTo (some entry.2) else fate)
        (fates nodeId) := by
  induction entries generalizing tracker fates with
  | nil => exact follows
  | cons entry entries ih =>
      have same : Function.update fates entry.1 ((fates entry.1).moveTo (some entry.2)) =
          fun nodeId => if entry.1 = nodeId then (fates nodeId).moveTo (some entry.2) else fates nodeId := by
        funext nodeId
        by_cases here : nodeId = entry.1
        · rw [here, Function.update_self, if_pos rfl]
        · rw [Function.update_of_ne here, if_neg (Ne.symm here)]
      exact ih (same ▸ follows.replacePose entry)

theorem receive {current : KeyframeTracker Pose × List (Keyframe Pose Image)}
    (follows : Follows baseToCamera toleranceNs current.1 current.2 fates)
    (message : ImageLookup Image × MapUpdate Pose) :
    Follows baseToCamera toleranceNs (KeyframeTracker.receive current message).1
      (KeyframeTracker.receive current message).2
      fun nodeId => (fates nodeId).next baseToCamera toleranceNs nodeId message := by
  have started : Follows baseToCamera toleranceNs current.1 (current.2 ++ []) fates :=
    (List.append_nil current.2).symm ▸ follows
  have visited := foldl_visit message.1 message.2.mapToOdom (byNodeId message.2.nodes) (current.1, []) started
  have moved := visited.foldl_replacePose message.2.graphPoses.entries
  simp only [Fate.foldl_meet, find_byNodeId, Fate.foldl_moveTo _ _ message.2.graphPoses.distinct] at moved
  exact moved

theorem receiveAll (messages : List (ImageLookup Image × MapUpdate Pose)) :
    Follows baseToCamera toleranceNs (KeyframeTracker.receiveAll baseToCamera toleranceNs messages).1
      (KeyframeTracker.receiveAll baseToCamera toleranceNs messages).2
      fun nodeId => Fate.after baseToCamera toleranceNs nodeId messages := by
  induction messages using List.reverseRecOn with
  | nil => exact start
  | append_singleton messages message ih =>
      simp only [KeyframeTracker.receiveAll, Fate.after, List.foldl_append]
      exact ih.receive message

omit [Mul Pose] in
/-- The ids of the keyframes are distinct, as keys of a dictionary. -/
theorem nodup (follows : Follows baseToCamera toleranceNs tracker keyframes fates) :
    (keyframes.map Keyframe.nodeId).Nodup :=
  follows.stamped ▸ tracker.stamps.distinct

omit [Mul Pose] in
theorem mem_keyframes (follows : Follows baseToCamera toleranceNs tracker keyframes fates)
    (keyframe : Keyframe Pose Image) :
    keyframe ∈ keyframes ↔ (fates keyframe.nodeId).keyframe? = some keyframe := by
  refine ⟨follows.found keyframe, ?_⟩
  intro known
  have listed : keyframe.nodeId ∈ keyframes.map Keyframe.nodeId := by
    rw [← follows.stamped, ← Dict.find_isSome, follows.stamp, known]
    rfl
  obtain ⟨other, member, same⟩ := List.mem_map.mp listed
  have identical := follows.found other member
  rw [same, known, Option.some_inj] at identical
  exact identical ▸ member

theorem snapshot_eq (follows : Follows baseToCamera toleranceNs tracker keyframes fates) :
    tracker.snapshot = (keyframes.filterMap fun keyframe => (fates keyframe.nodeId).mapPose?.map fun mapPose =>
      (keyframe.stampNs, mapPose * baseToCamera)).mergeSort fun first second => decide (first.1 ≤ second.1) := by
  rw [KeyframeTracker.snapshot, Dict.entries_eq, follows.posed, List.filterMap_map, List.map_filterMap]
  congr 1
  apply List.filterMap_congr
  intro keyframe member
  simp only [Function.comp_apply, follows.mapPose, Option.map_map, follows.base]
  congr 1
  funext mapPose
  simp only [Function.comp_apply, follows.stamp, follows.found keyframe member]
  rfl

end Follows

def nodeIds (messages : List (ImageLookup Image × MapUpdate Pose)) : List Int :=
  messages.flatMap fun message => message.2.nodes.map GraphNode.nodeId

theorem Fate.isSeen_after (baseToCamera : Pose) (toleranceNs : Int) {nodeId : Int}
    {messages : List (ImageLookup Image × MapUpdate Pose)}
    (seen : (Fate.after baseToCamera toleranceNs nodeId messages).isSeen = true) : nodeId ∈ nodeIds messages := by
  induction messages using List.reverseRecOn with
  | nil => cases seen
  | append_singleton messages message ih =>
      rw [nodeIds, List.flatMap_append, List.mem_append]
      cases before : Fate.after baseToCamera toleranceNs nodeId messages with
      | unseen =>
          right
          rw [Fate.after, List.foldl_append, ← Fate.after, before] at seen
          cases here : message.2.nodes.find? (·.nodeId = nodeId) with
          | none =>
              simp only [List.foldl_cons, List.foldl_nil, Fate.next, here, Fate.meet] at seen
              cases message.2.graphPoses.find nodeId <;> cases seen
          | some node =>
              have same := List.find?_some here
              simp only [decide_eq_true_eq] at same
              simpa using ⟨node, List.mem_of_find?_eq_some here, same⟩
      | skipped => exact .inl (ih (before ▸ rfl))
      | keyframe found mapPose => exact .inl (ih (before ▸ rfl))

/-- After all messages, the tracker is as if it had followed each node alone: the keyframes are of
distinct nodes and are those that the nodes became, the trajectory has the latest pose of each in
the order of the stamps, and the other nodes are counted. -/
theorem keyframes_of_messages (baseToCamera : Pose) (toleranceNs : Int)
    (messages : List (ImageLookup Image × MapUpdate Pose)) :
    let after := KeyframeTracker.receiveAll baseToCamera toleranceNs messages
    let fates := fun nodeId => Fate.after baseToCamera toleranceNs nodeId messages
    (after.2.map Keyframe.nodeId).Nodup ∧
      (∀ keyframe, keyframe ∈ after.2 ↔ (fates keyframe.nodeId).keyframe? = some keyframe) ∧
      after.1.snapshot = (after.2.filterMap fun keyframe => (fates keyframe.nodeId).mapPose?.map fun mapPose =>
        (keyframe.stampNs, mapPose * baseToCamera)).mergeSort (fun first second => decide (first.1 ≤ second.1)) ∧
      after.1.keyframeCount = after.2.length ∧ after.1.snapshot.length = after.2.length ∧
      after.1.skippedNodes = (nodeIds messages).dedup.countP fun nodeId => (fates nodeId).isSkipped := by
  intro after fates
  have follows : Follows baseToCamera toleranceNs after.1 after.2 fates := Follows.receiveAll messages
  have counted : after.1.keyframeCount = after.2.length := by
    have same := congrArg List.length follows.stamped
    rwa [Dict.keys, List.length_map, List.length_map] at same
  have listed : after.1.snapshot.length = after.2.length := by
    have same := congrArg List.length follows.posed
    rw [Dict.keys, List.length_map, List.length_map] at same
    rw [KeyframeTracker.snapshot, List.length_mergeSort, List.length_map, same]
  refine ⟨follows.nodup, follows.mem_keyframes, follows.snapshot_eq, counted, listed, ?_⟩
  rw [follows.skipped, List.countP_eq_length_filter, List.countP_eq_length_filter]
  apply List.Perm.length_eq
  rw [List.perm_ext_iff_of_nodup (follows.distinct.filter _) ((List.nodup_dedup _).filter _)]
  intro nodeId
  rw [List.mem_filter, List.mem_filter, List.mem_dedup, follows.seen]
  constructor
  · rintro ⟨seen, skipped⟩
    exact ⟨Fate.isSeen_after _ _ seen, skipped⟩
  · rintro ⟨_, skipped⟩
    refine ⟨?_, skipped⟩
    cases known : fates nodeId with
    | unseen =>
        rw [known] at skipped
        cases skipped
    | skipped => rfl
    | keyframe found mapPose => rfl

end Fates

end RosPortal.Slam
