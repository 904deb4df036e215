import RosPortal.Video.Conversion

/-! An outbound image topic. Its video track is published with the size that the first message
claims, before that message is looked at. -/

set_option autoImplicit false

namespace RosPortal.Video

/-- The sink of a video track; `captures` tells whether it has a `capture_frame`. -/
structure VideoTrackSink where
  width : Int
  height : Int
  captures : Bool := true
deriving DecidableEq, Repr

structure VideoFrameStamp where
  timestampUs : Int
  frameId : Option String
deriving DecidableEq, Repr

/-- The state of a topic, with the sizes that were published and the frames that were captured. -/
structure ImageTopicState where
  trackName : String
  sink : Option VideoTrackSink := none
  frameBuilder : VideoFrame := {}
  published : List (Int × Int) := []
  captured : List (VideoFrame × VideoFrameStamp) := []
deriving DecidableEq, Repr

/-- The outcome of `publish_video_track` by name and size. -/
abbrev PublishVideoTrack : Type := String → Int → Int → Except String (Option VideoTrackSink)

def kMaxFrameIdUserDataLength : Nat := 255

def makeVideoFrameStamp (header : Header) : VideoFrameStamp where
  timestampUs := header.sec * 1000000 + (header.nanosec / 1000 : Nat)
  frameId := if header.frameId.utf8ByteSize ≤ kMaxFrameIdUserDataLength then some header.frameId else none

/-- `static_cast<int>`. -/
def asInt (value : UInt32) : Int :=
  if value.toNat ≤ kMaxDimension then value.toNat else value.toNat - 4294967296

namespace ImageTopicState

variable (state : ImageTopicState)

/-- The first half of `ensureVideoSinkLocked`: the track is published if it is not yet. -/
def publishOnce (publish : PublishVideoTrack) (width height : Int) : ImageTopicState :=
  match state.sink with
  | some _ => state
  | none =>
      match publish state.trackName width height with
      | .error _ | .ok none => state
      | .ok (some sink) =>
          if sink.captures then
            { state with sink := some sink, published := state.published ++ [(width, height)] }
          else { state with published := state.published ++ [(width, height)] }

def ensureVideoSinkLocked (publish : PublishVideoTrack) (width height : Int) : ImageTopicState × Bool :=
  let ensured := state.publishOnce publish width height
  match ensured.sink with
  | some sink => (ensured, sink.width = width && sink.height = height)
  | none => (ensured, false)

/-- The rest of the callback, once there is a sink of the size. -/
def captureImage (allocator : Allocator) (image : Image) : Option ImageTopicState :=
  (build allocator state.frameBuilder image).map fun built =>
    match built.frame with
    | none => { state with frameBuilder := built.converted }
    | some frame =>
        { state with
          frameBuilder := built.converted
          captured := state.captured ++ [(frame, makeVideoFrameStamp image.header)] }

/-- The callback of `createImageSubscriber`. -/
def imageCallback (allocator : Allocator) (publish : PublishVideoTrack) (inbound available : Bool)
    (image : Image) : Option ImageTopicState :=
  if inbound || !available then some state
  else
    match state.ensureVideoSinkLocked publish (asInt image.width) (asInt image.height) with
    | (ensured, true) => ensured.captureImage allocator image
    | (ensured, false) => some ensured

end ImageTopicState

/-- A room that publishes every track with the size it is asked for. -/
def publishSucceeds : PublishVideoTrack := fun _ width height => .ok (some { width, height })

def deliverAll (allocator : Allocator) (trackName : String) (images : List Image) :
    Option ImageTopicState :=
  images.foldlM (fun state image => state.imageCallback allocator publishSucceeds false true image)
    { trackName }

/-! What a topic is for: all images that can be converted are sent, in a track of their size. -/

section Purpose

variable (images : List Image)

def OneSize : Prop :=
  ∀ first ∈ images, ∀ second ∈ images, first.Accepted → second.Accepted →
    first.width = second.width ∧ first.height = second.height

def acceptedImages : List Image := images.filter fun image => decide image.Accepted

def capture (image : Image) : VideoFrame × VideoFrameStamp :=
  (image.frame, makeVideoFrameStamp image.header)

/-- Messages that cannot be converted make no difference to those that can. -/
def NotPoisoned (allocator : Allocator) (trackName : String) : Prop :=
  OneSize images → ∃ state, deliverAll allocator trackName images = some state ∧
    state.captured = (acceptedImages images).map capture ∧
    ∀ first, (acceptedImages images).head? = some first →
      state.published = [((first.width.toNat : Int), (first.height.toNat : Int))]

def FirstClaimsSize : Prop :=
  OneSize images → ∀ first, images.head? = some first → ∀ image ∈ images, image.Accepted →
    first.width = image.width ∧ first.height = image.height

end Purpose

section Topic

variable {allocator : Allocator} {image : Image} {state : ImageTopicState}

theorem asInt_injective {first second : UInt32} (same : asInt first = asInt second) : first = second := by
  have firstBound := first.toNat_lt
  have secondBound := second.toNat_lt
  unfold asInt at same
  apply UInt32.toNat_inj.mp
  split_ifs at same <;> omega

theorem asInt_of_le {value : UInt32} (fits : value.toNat ≤ kMaxDimension) :
    asInt value = (value.toNat : Int) :=
  if_pos fits

def VideoTrackSink.fits (sink : VideoTrackSink) (image : Image) : Bool :=
  sink.width = asInt image.width && sink.height = asInt image.height

def claimedSink (image : Image) : VideoTrackSink := ⟨asInt image.width, asInt image.height, true⟩

theorem captureImage_eq (allocator : Allocator) (ready : state.frameBuilder.Ready) (image : Image) :
    ∃ converted : VideoFrame, converted.Ready ∧ state.captureImage allocator image =
      some { state with
        frameBuilder := converted
        captured := state.captured ++ if image.Accepted then [capture image] else [] } := by
  by_cases accepted : image.Accepted
  · obtain ⟨after, converts⟩ := build_of_accepted allocator accepted ready
    exact ⟨image.frame, accepted.ready_frame,
      by simp [ImageTopicState.captureImage, converts, Built.frame, accepted, capture]⟩
  · exact ⟨state.frameBuilder, ready,
      by simp [ImageTopicState.captureImage, build_of_rejected accepted, Built.frame, rejectImage, accepted]⟩

/-- With a sink, an image is captured if it has the size of the sink and can be converted. -/
theorem imageCallback_of_sink (allocator : Allocator) {sink : VideoTrackSink}
    (held : state.sink = some sink) (ready : state.frameBuilder.Ready) (publish : PublishVideoTrack) (image : Image) :
    ∃ converted : VideoFrame, converted.Ready ∧
      state.imageCallback allocator publish false true image =
        some { state with
          frameBuilder := converted
          captured := state.captured ++
            if sink.fits image = true ∧ image.Accepted then [capture image] else [] } := by
  have ensured : state.ensureVideoSinkLocked publish (asInt image.width) (asInt image.height) =
      (state, sink.fits image) := by
    simp [ImageTopicState.ensureVideoSinkLocked, ImageTopicState.publishOnce, held, VideoTrackSink.fits]
  cases fits : sink.fits image with
  | false =>
      exact ⟨state.frameBuilder, ready, by simp [ImageTopicState.imageCallback, ensured, fits]⟩
  | true =>
      obtain ⟨converted, next, captures⟩ := captureImage_eq allocator ready image
      exact ⟨converted, next, by simp [ImageTopicState.imageCallback, ensured, fits, captures]⟩

/-- The first message decides the size of the track. -/
theorem imageCallback_first (unpublished : state.sink = none) (image : Image) :
    state.imageCallback allocator publishSucceeds false true image =
      ImageTopicState.imageCallback
        { state with
          sink := some (claimedSink image)
          published := state.published ++ [(asInt image.width, asInt image.height)] }
        allocator publishSucceeds false true image := by
  have published : state.publishOnce publishSucceeds (asInt image.width) (asInt image.height) =
      { state with
        sink := some (claimedSink image)
        published := state.published ++ [(asInt image.width, asInt image.height)] } := by
    simp [ImageTopicState.publishOnce, unpublished, publishSucceeds, claimedSink]
  simp only [ImageTopicState.imageCallback, ImageTopicState.ensureVideoSinkLocked, published]
  rfl

theorem foldlM_of_sink (allocator : Allocator) {sink : VideoTrackSink} (images : List Image)
    (state : ImageTopicState) (held : state.sink = some sink) (ready : state.frameBuilder.Ready) :
    ∃ converted : VideoFrame,
      images.foldlM (fun state image => state.imageCallback allocator publishSucceeds false true image)
          state =
        some { state with
          frameBuilder := converted
          captured := state.captured ++
            ((acceptedImages images).filter sink.fits).map capture } := by
  induction images generalizing state with
  | nil => exact ⟨state.frameBuilder, by simp [acceptedImages]⟩
  | cons image images ih =>
      obtain ⟨converted, next, called⟩ :=
        imageCallback_of_sink allocator held ready publishSucceeds image
      obtain ⟨last, rest⟩ := ih
        { state with
          frameBuilder := converted
          captured := state.captured ++
            if sink.fits image = true ∧ image.Accepted then [capture image] else [] } held next
      refine ⟨last, ?_⟩
      rw [List.foldlM_cons, called, Option.bind_eq_bind, Option.bind_some, rest]
      by_cases accepted : image.Accepted <;> cases fits : sink.fits image <;>
        simp [acceptedImages, accepted, fits]

end Topic

theorem deliverAll_cons (allocator : Allocator) (trackName : String) (first : Image) (rest : List Image) :
    ∃ converted : VideoFrame, deliverAll allocator trackName (first :: rest) =
      some {
        trackName
        sink := some (claimedSink first)
        frameBuilder := converted
        published := [(asInt first.width, asInt first.height)]
        captured := ((acceptedImages (first :: rest)).filter (claimedSink first).fits).map capture } := by
  obtain ⟨converted, run⟩ := foldlM_of_sink allocator (first :: rest)
    { trackName, sink := some (claimedSink first), published := [(asInt first.width, asInt first.height)] }
    rfl VideoFrame.ready_initial
  refine ⟨converted, ?_⟩
  rw [List.foldlM_cons] at run
  rw [deliverAll, List.foldlM_cons, imageCallback_first rfl]
  simpa using run

theorem claimedSink_fits_iff (first image : Image) :
    (claimedSink first).fits image = true ↔ first.width = image.width ∧ first.height = image.height := by
  unfold VideoTrackSink.fits
  rw [Bool.and_eq_true, decide_eq_true_eq, decide_eq_true_eq]
  constructor
  · intro ⟨width, height⟩
    exact ⟨asInt_injective width, asInt_injective height⟩
  · intro ⟨width, height⟩
    exact ⟨congrArg asInt width, congrArg asInt height⟩

theorem mem_acceptedImages {images : List Image} {image : Image} :
    image ∈ acceptedImages images ↔ image ∈ images ∧ image.Accepted := by
  simp [acceptedImages]

/-- Bad images make no difference exactly when the first message claims the size of the good ones. -/
theorem notPoisoned_iff (allocator : Allocator) (trackName : String) (images : List Image) :
    NotPoisoned images allocator trackName ↔ FirstClaimsSize images := by
  cases images with
  | nil =>
      constructor
      · intro _ _ first impossible
        cases impossible
      · intro _ _
        exact ⟨{ trackName }, rfl, rfl, fun first impossible => by cases impossible⟩
  | cons first rest =>
      obtain ⟨converted, delivered⟩ := deliverAll_cons allocator trackName first rest
      constructor
      · intro sent oneSize head same image member accepted
        cases same
        obtain ⟨state, delivers, captured, _⟩ := sent oneSize
        cases delivered.symm.trans delivers
        have count := congrArg List.length captured
        rw [List.length_map, List.length_map, List.length_filter_eq_length_iff] at count
        exact (claimedSink_fits_iff first image).mp (count image (mem_acceptedImages.mpr ⟨member, accepted⟩))
      · intro claims oneSize
        have fits : ∀ image ∈ acceptedImages (first :: rest), (claimedSink first).fits image = true := by
          intro image member
          obtain ⟨listed, accepted⟩ := mem_acceptedImages.mp member
          exact (claimedSink_fits_iff first image).mpr (claims oneSize first rfl image listed accepted)
        refine ⟨_, delivered, ?_, ?_⟩
        · rw [List.filter_eq_self.mpr fits]
        · intro good head
          have member : good ∈ acceptedImages (first :: rest) := List.mem_of_head? head
          obtain ⟨listed, accepted⟩ := mem_acceptedImages.mp member
          obtain ⟨width, height⟩ := claims oneSize first rfl good listed accepted
          simp only [width, height, asInt_of_le accepted.widthFits, asInt_of_le accepted.heightFits]

/-- An unsupported image of two by two pixels comes first, and no image of one pixel is sent. -/
theorem unsupported_image_poisons_topic :
    ¬ ∀ (allocator : Allocator) (trackName : String) (images : List Image),
      NotPoisoned images allocator trackName := by
  intro sent
  let images : List Image :=
    [{ width := 2, height := 2, encoding := "yuyv", step := 4, data := List.replicate 8 0 },
      { width := 1, height := 1, encoding := "rgb8", step := 3, data := [1, 2, 3] }]
  obtain ⟨state, delivered, captured, _⟩ := sent zeroAllocator "/camera/image_raw" images
    (by unfold OneSize; decide +kernel)
  have nothing : (deliverAll zeroAllocator "/camera/image_raw" images).map ImageTopicState.captured =
      some [] := by decide +kernel
  rw [delivered, Option.map_some, captured] at nothing
  exact absurd nothing (by decide +kernel)

end RosPortal.Video
