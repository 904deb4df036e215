import RosPortal.Video.ImageTopic
import RosPortal.Video.JpegDecoder

/-! An outbound topic of compressed images. An image is decoded before the track is published, so
no image that cannot be sent claims the size of the track. -/

set_option autoImplicit false

namespace RosPortal.Video

def containsIgnoreCase (text needle : String) : Bool :=
  (text.toList.map Char.toLower).tails.any fun rest => (needle.toList.map Char.toLower).isPrefixOf rest

def isJpegFormat (format : String) : Bool := containsIgnoreCase format "jpeg" || containsIgnoreCase format "jpg"

structure CompressedMessage where
  header : Header := {}
  format : String
  data : List UInt8

structure CompressedTopicState where
  topic : ImageTopicState
  jpegDecoder : JpegDecoder
  outboundFailures : Nat := 0

/-- A message with what its callback finds: whether it is of an inbound track, whether there is a
room, and whether the room publishes a track when it is asked to. -/
structure CompressedArrival where
  message : CompressedMessage
  inbound : Bool := false
  available : Bool := true
  publishes : Bool := true

def CompressedArrival.publish (arrival : CompressedArrival) : PublishVideoTrack := fun _ width height =>
  if arrival.publishes then .ok (some { width, height }) else .error "failed to publish the track"

section Callback

variable (turbo : TurboJpeg) (allocator : Allocator)

/-- The callback of `createCompressedImageSubscriber`. -/
def CompressedTopicState.imageCallback (state : CompressedTopicState) (arrival : CompressedArrival) :
    CompressedTopicState :=
  if arrival.inbound || !arrival.available then state
  else if !isJpegFormat arrival.message.format then { state with outboundFailures := state.outboundFailures + 1 }
  else
    match state.jpegDecoder.decode turbo allocator arrival.message.data with
    | (jpegDecoder, none) => { state with jpegDecoder, outboundFailures := state.outboundFailures + 1 }
    | (jpegDecoder, some frame) =>
        match state.topic.ensureVideoSinkLocked arrival.publish frame.width frame.height with
        | (topic, false) => { state with jpegDecoder, topic }
        | (topic, true) =>
            { state with
              jpegDecoder
              topic := { topic with
                captured := topic.captured ++ [(frame, makeVideoFrameStamp arrival.message.header)] } }

def receiveAll (state : CompressedTopicState) (arrivals : List CompressedArrival) : CompressedTopicState :=
  arrivals.foldl (CompressedTopicState.imageCallback turbo allocator) state

end Callback

/-! What becomes of a message, whatever was decoded before it. -/

section Purpose

variable (turbo : TurboJpeg) (handle : Bool)

def decodable (jpeg : List UInt8) : Option JpegHeader :=
  if handle = false ∨ jpeg = [] then none
  else
    (turbo.header jpeg).toOption.filter fun header =>
      decide (0 < header.width ∧ 0 < header.height ∧ turbo.failure jpeg = none)

namespace CompressedArrival

variable (arrival : CompressedArrival)

def considered : Bool := !arrival.inbound && arrival.available

def header? : Option JpegHeader :=
  if arrival.considered && isJpegFormat arrival.message.format then decodable turbo handle arrival.message.data
  else none

def size? : Option (Int × Int) := (arrival.header? turbo handle).map fun header => (header.width, header.height)

def fails : Bool := arrival.considered && (arrival.header? turbo handle).isNone

end CompressedArrival

/-- The images from the first one on that is decoded and whose track is published. -/
def claimedBy (arrivals : List CompressedArrival) : List CompressedArrival :=
  (arrivals.filter fun arrival => (arrival.header? turbo handle).isSome).dropWhile fun arrival => !arrival.publishes

def claimedSize? (arrivals : List CompressedArrival) : Option (Int × Int) :=
  (claimedBy turbo handle arrivals).head?.bind fun arrival => arrival.size? turbo handle

/-- The frame is of the size of the image, and is its own unless the image is gray. -/
def ShownAs (arrival : CompressedArrival) (captured : VideoFrame × VideoFrameStamp) : Prop :=
  captured.2 = makeVideoFrameStamp arrival.message.header ∧ ∃ header ∈ arrival.header? turbo handle,
    captured.1.width = header.width.toNat ∧ captured.1.height = header.height.toNat ∧
      (header.subsampling ≠ .gray → captured.1 = jpegFrame turbo header arrival.message.data)

end Purpose

section Decode

variable {turbo : TurboJpeg} {allocator : Allocator} {decoder : JpegDecoder} {jpeg : List UInt8}

theorem decode_handle : (decoder.decode turbo allocator jpeg).1.handle = decoder.handle := by
  unfold JpegDecoder.decode
  split_ifs
  · rfl
  · rfl
  · cases turbo.header jpeg with
    | error error => rfl
    | ok header =>
        simp only
        split_ifs
        · rfl
        · cases outcome : decompress turbo allocator decoder.frame header jpeg with
          | mk frame error => cases error <;> rfl

theorem decompress_shape (frame : VideoFrame) (header : JpegHeader) :
    (decompress turbo allocator frame header jpeg).1.width = header.width.toNat ∧
      (decompress turbo allocator frame header jpeg).1.height = header.height.toNat := by
  obtain ⟨width, height, _⟩ := prepareI420_shape allocator frame header.width.toNat header.height.toNat header.subsampling
  obtain ⟨reusedWidth, reusedHeight, _⟩ :=
    VideoFrame.reuse_shape frame allocator header.width.toNat header.height.toNat .rgb24
  unfold decompress
  dsimp only
  split_ifs
  · exact ⟨width, height⟩
  · exact ⟨reusedWidth, reusedHeight⟩

theorem decodable_eq_some {handle : Bool} {header : JpegHeader} :
    decodable turbo handle jpeg = some header ↔ handle = true ∧ jpeg ≠ [] ∧ turbo.header jpeg = .ok header ∧
      0 < header.width ∧ 0 < header.height ∧ turbo.failure jpeg = none := by
  unfold decodable
  by_cases none : handle = false ∨ jpeg = []
  · rw [if_pos none]
    constructor
    · intro same
      cases same
    · rintro ⟨ready, filled, _⟩
      rcases none with missing | empty
      · rw [missing] at ready
        cases ready
      · exact absurd empty filled
  · obtain ⟨ready, filled⟩ := not_or.mp none
    rw [if_neg none, Option.filter_eq_some_iff]
    simp only [Bool.not_eq_false] at ready
    cases parsed : turbo.header jpeg with
    | error error => simp [Except.toOption]
    | ok found =>
        simp only [Except.toOption, Option.some.injEq, Except.ok.injEq, decide_eq_true_eq]
        constructor
        · rintro ⟨same, fits⟩
          exact ⟨ready, filled, same, fits⟩
        · rintro ⟨_, _, same, fits⟩
          exact ⟨same, fits⟩

/-- Whether an image is decoded does not depend on the images before it. -/
theorem decode_spec :
    (decodable turbo decoder.handle jpeg = none → (decoder.decode turbo allocator jpeg).2 = none) ∧
      ∀ header ∈ decodable turbo decoder.handle jpeg, ∃ frame, (decoder.decode turbo allocator jpeg).2 = some frame ∧
        frame.width = header.width.toNat ∧ frame.height = header.height.toNat ∧
          (header.subsampling ≠ .gray → frame = jpegFrame turbo header jpeg) := by
  constructor
  · intro none
    cases returned : (decoder.decode turbo allocator jpeg).2 with
    | none => rfl
    | some frame =>
        obtain ⟨handle, filled, header, parsed, wide, high, decompressed⟩ := decode_eq_some.mp returned
        have succeeds : turbo.failure jpeg = .none := by
          cases failure : turbo.failure jpeg with
          | none => rfl
          | some error =>
              have failed := decompress_failed allocator failure decoder.frame header
              rw [decompressed] at failed
              cases failed
        have found := decodable_eq_some.mpr ⟨handle, filled, parsed, wide, high, succeeds⟩
        rw [none] at found
        cases found
  · intro header found
    obtain ⟨handle, filled, parsed, wide, high, succeeds⟩ := decodable_eq_some.mp found
    obtain ⟨after, decompressed, own⟩ := decompress_eq_iff allocator parsed succeeds decoder.frame
    have shape : (decompress turbo allocator decoder.frame header jpeg).1.width = header.width.toNat ∧
        (decompress turbo allocator decoder.frame header jpeg).1.height = header.height.toNat :=
      decompress_shape decoder.frame header
    rw [decompressed] at shape
    refine ⟨after, decode_eq_some.mpr ⟨handle, filled, header, parsed, wide, high, decompressed⟩, shape.1, shape.2, ?_⟩
    intro color
    exact own.mpr fun gray => absurd gray color

end Decode

section Arrivals

variable {turbo : TurboJpeg} (allocator : Allocator) {handle : Bool} {state : CompressedTopicState}
  {arrival : CompressedArrival}

def capturedWith (ensured : ImageTopicState × Bool) (captured : VideoFrame × VideoFrameStamp) : ImageTopicState :=
  if ensured.2 then { ensured.1 with captured := ensured.1.captured ++ [captured] } else ensured.1

theorem considered_eq : (arrival.inbound || !arrival.available) = !arrival.considered := by
  rw [CompressedArrival.considered, Bool.not_and, Bool.not_not]

/-- An image that is not decoded leaves the track as it was, and is counted if it is considered. -/
theorem imageCallback_dropped (ready : state.jpegDecoder.handle = handle)
    (dropped : arrival.header? turbo handle = none) :
    (state.imageCallback turbo allocator arrival).topic = state.topic ∧
      (state.imageCallback turbo allocator arrival).jpegDecoder.handle = handle ∧
      (state.imageCallback turbo allocator arrival).outboundFailures =
        state.outboundFailures + if arrival.fails turbo handle then 1 else 0 := by
  unfold CompressedArrival.fails
  rw [dropped]
  unfold CompressedArrival.header? at dropped
  unfold CompressedTopicState.imageCallback
  rw [considered_eq]
  cases considered : arrival.considered with
  | false => exact ⟨rfl, ready, rfl⟩
  | true =>
      rw [if_neg (by decide)]
      cases format : isJpegFormat arrival.message.format with
      | false => exact ⟨rfl, ready, rfl⟩
      | true =>
          rw [considered, format] at dropped
          rw [if_neg (by decide)]
          have failed : (state.jpegDecoder.decode turbo allocator arrival.message.data).2 = none :=
            decode_spec.1 (ready ▸ dropped)
          have kept : (state.jpegDecoder.decode turbo allocator arrival.message.data).1.handle = handle :=
            decode_handle.trans ready
          cases outcome : state.jpegDecoder.decode turbo allocator arrival.message.data with
          | mk jpegDecoder frame =>
              rw [outcome] at failed kept
              cases failed
              exact ⟨rfl, kept, rfl⟩

/-- An image that is decoded is captured where the track has, or gets, its size. -/
theorem imageCallback_decoded (ready : state.jpegDecoder.handle = handle) {header : JpegHeader}
    (decoded : arrival.header? turbo handle = some header) :
    ∃ captured, ShownAs turbo handle arrival captured ∧
      (state.imageCallback turbo allocator arrival).jpegDecoder.handle = handle ∧
      (state.imageCallback turbo allocator arrival).outboundFailures = state.outboundFailures ∧
      (state.imageCallback turbo allocator arrival).topic =
        capturedWith (state.topic.ensureVideoSinkLocked arrival.publish header.width header.height) captured := by
  have known := decoded
  unfold CompressedArrival.header? at decoded
  split_ifs at decoded with asked
  obtain ⟨considered, format⟩ := Bool.and_eq_true_iff.mp asked
  obtain ⟨_, _, _, wide, high, _⟩ := decodable_eq_some.mp decoded
  have decodes : ∃ frame, (state.jpegDecoder.decode turbo allocator arrival.message.data).2 = some frame ∧
      frame.width = header.width.toNat ∧ frame.height = header.height.toNat ∧
        (header.subsampling ≠ .gray → frame = jpegFrame turbo header arrival.message.data) :=
    decode_spec.2 header (ready ▸ decoded)
  obtain ⟨frame, returned, width, height, own⟩ := decodes
  refine ⟨(frame, makeVideoFrameStamp arrival.message.header), ⟨rfl, header, known, width, height, own⟩, ?_⟩
  have kept : (state.jpegDecoder.decode turbo allocator arrival.message.data).1.handle = handle :=
    decode_handle.trans ready
  unfold CompressedTopicState.imageCallback
  rw [considered_eq, considered, if_neg (by decide), format, if_neg (by decide)]
  cases outcome : state.jpegDecoder.decode turbo allocator arrival.message.data with
  | mk jpegDecoder frame' =>
      rw [outcome] at returned kept
      cases returned
      have claimed : (frame.width : Int) = header.width ∧ (frame.height : Int) = header.height := by omega
      simp only [claimed.1, claimed.2]
      cases state.topic.ensureVideoSinkLocked arrival.publish header.width header.height with
      | mk topic fits =>
          cases fits with
          | false => exact ⟨kept, rfl, rfl⟩
          | true => exact ⟨kept, rfl, rfl⟩

theorem size?_eq {header : JpegHeader} (decoded : arrival.header? turbo handle = some header) :
    arrival.size? turbo handle = some (header.width, header.height) := by
  rw [CompressedArrival.size?, decoded]
  rfl

theorem fails_of_decoded {header : JpegHeader} (decoded : arrival.header? turbo handle = some header) :
    arrival.fails turbo handle = false := by
  rw [CompressedArrival.fails, decoded, Option.isNone_some, Bool.and_false]

theorem ensureVideoSinkLocked_of_sink {topic : ImageTopicState} {sink : VideoTrackSink} (held : topic.sink = some sink)
    (publish : PublishVideoTrack) (width height : Int) :
    topic.ensureVideoSinkLocked publish width height = (topic, decide ((width, height) = (sink.width, sink.height))) := by
  have kept : topic.publishOnce publish width height = topic := by
    rw [ImageTopicState.publishOnce, held]
  simp only [ImageTopicState.ensureVideoSinkLocked, kept, held, Prod.mk.injEq, true_and]
  rw [Bool.decide_and]
  congr 1
  · exact decide_eq_decide.mpr eq_comm
  · exact decide_eq_decide.mpr eq_comm

/-- Once there is a track, all images of its size are captured. -/
theorem receiveAll_of_sink {sink : VideoTrackSink} (arrivals : List CompressedArrival) (state : CompressedTopicState)
    (ready : state.jpegDecoder.handle = handle) (held : state.topic.sink = some sink) :
    ∃ captured, List.Forall₂ (ShownAs turbo handle)
        ((arrivals.filter fun arrival => (arrival.header? turbo handle).isSome).filter fun arrival =>
          arrival.size? turbo handle = some (sink.width, sink.height)) captured ∧
      (receiveAll turbo allocator state arrivals).topic =
        { state.topic with captured := state.topic.captured ++ captured } ∧
      (receiveAll turbo allocator state arrivals).outboundFailures =
        state.outboundFailures + arrivals.countP fun arrival => arrival.fails turbo handle := by
  induction arrivals generalizing state with
  | nil =>
      refine ⟨[], .nil, ?_, rfl⟩
      rw [List.append_nil]
      rfl
  | cons arrival arrivals ih =>
      cases decoded : arrival.header? turbo handle with
      | none =>
          obtain ⟨topic, kept, failures⟩ := imageCallback_dropped allocator ready decoded
          obtain ⟨captured, shown, after, counted⟩ := ih (state.imageCallback turbo allocator arrival) kept (topic ▸ held)
          refine ⟨captured, ?_, ?_, ?_⟩
          · rw [List.filter_cons_of_neg (by simp [decoded])]
            exact shown
          · rw [receiveAll, List.foldl_cons]
            rw [receiveAll, topic] at after
            exact after
          · rw [receiveAll, List.foldl_cons]
            rw [receiveAll, failures] at counted
            rw [counted, List.countP_cons]
            omega
      | some header =>
          obtain ⟨one, own, kept, failures, topic⟩ := imageCallback_decoded allocator ready decoded
          rw [ensureVideoSinkLocked_of_sink held, capturedWith] at topic
          have counts : (arrival :: arrivals).countP (fun arrival => arrival.fails turbo handle) =
              arrivals.countP fun arrival => arrival.fails turbo handle := by
            rw [List.countP_cons, fails_of_decoded decoded]
            rfl
          rw [List.filter_cons_of_pos (by simp [decoded]), counts, receiveAll, List.foldl_cons]
          by_cases fits : (header.width, header.height) = (sink.width, sink.height)
          · rw [if_pos (decide_eq_true fits)] at topic
            obtain ⟨captured, shown, after, counted⟩ :=
              ih (state.imageCallback turbo allocator arrival) kept (topic ▸ held)
            refine ⟨one :: captured, ?_, ?_, ?_⟩
            · rw [List.filter_cons_of_pos (by simpa [size?_eq decoded] using fits)]
              exact .cons own shown
            · rw [receiveAll, topic] at after
              rw [after]
              simp
            · rw [receiveAll, failures] at counted
              exact counted
          · rw [if_neg (by simpa using fits)] at topic
            obtain ⟨captured, shown, after, counted⟩ :=
              ih (state.imageCallback turbo allocator arrival) kept (topic ▸ held)
            refine ⟨captured, ?_, ?_, ?_⟩
            · rw [List.filter_cons_of_neg (by simpa [size?_eq decoded] using fits)]
              exact shown
            · rw [receiveAll, topic] at after
              exact after
            · rw [receiveAll, failures] at counted
              exact counted

theorem ensureVideoSinkLocked_of_none {topic : ImageTopicState} (unpublished : topic.sink = none) (width height : Int) :
    topic.ensureVideoSinkLocked arrival.publish width height = if arrival.publishes then
        ({ topic with sink := some { width, height }, published := topic.published ++ [(width, height)] }, true)
      else (topic, false) := by
  unfold ImageTopicState.ensureVideoSinkLocked ImageTopicState.publishOnce CompressedArrival.publish
  cases arrival.publishes with
  | false => simp [unpublished]
  | true => simp [unpublished]

/-- Without a track, the first image that is decoded and published claims the size. -/
theorem receiveAll_of_none (arrivals : List CompressedArrival) (state : CompressedTopicState)
    (ready : state.jpegDecoder.handle = handle) (unpublished : state.topic.sink = none) :
    ∃ captured, List.Forall₂ (ShownAs turbo handle)
        ((claimedBy turbo handle arrivals).filter fun arrival =>
          arrival.size? turbo handle = claimedSize? turbo handle arrivals) captured ∧
      (receiveAll turbo allocator state arrivals).topic.captured = state.topic.captured ++ captured ∧
      (receiveAll turbo allocator state arrivals).topic.published =
        state.topic.published ++ (claimedSize? turbo handle arrivals).toList ∧
      (receiveAll turbo allocator state arrivals).outboundFailures =
        state.outboundFailures + arrivals.countP fun arrival => arrival.fails turbo handle := by
  induction arrivals generalizing state with
  | nil => exact ⟨[], .nil, (List.append_nil _).symm, (List.append_nil _).symm, rfl⟩
  | cons arrival arrivals ih =>
      cases decoded : arrival.header? turbo handle with
      | none =>
          have same : claimedBy turbo handle (arrival :: arrivals) = claimedBy turbo handle arrivals := by
            rw [claimedBy, List.filter_cons_of_neg (by simp [decoded])]
            rfl
          obtain ⟨topic, kept, failures⟩ := imageCallback_dropped allocator ready decoded
          obtain ⟨captured, shown, after, published, counted⟩ :=
            ih (state.imageCallback turbo allocator arrival) kept (topic ▸ unpublished)
          rw [topic] at after published
          rw [failures] at counted
          refine ⟨captured, ?_, after, ?_, ?_⟩
          · rw [claimedSize?, same]
            exact shown
          · rw [claimedSize?, same]
            exact published
          · rw [receiveAll, List.foldl_cons, ← receiveAll, counted, List.countP_cons]
            omega
      | some header =>
          obtain ⟨one, own, kept, failures, topic⟩ := imageCallback_decoded allocator ready decoded
          have counts : (arrival :: arrivals).countP (fun arrival => arrival.fails turbo handle) =
              arrivals.countP fun arrival => arrival.fails turbo handle := by
            rw [List.countP_cons, fails_of_decoded decoded]
            rfl
          rw [ensureVideoSinkLocked_of_none unpublished, capturedWith] at topic
          rw [counts]
          cases publishes : arrival.publishes with
          | false =>
              have same : claimedBy turbo handle (arrival :: arrivals) = claimedBy turbo handle arrivals := by
                rw [claimedBy, List.filter_cons_of_pos (by simp [decoded]),
                  List.dropWhile_cons_of_pos (by simp [publishes])]
                rfl
              rw [publishes] at topic
              obtain ⟨captured, shown, after, published, counted⟩ :=
                ih (state.imageCallback turbo allocator arrival) kept (topic ▸ unpublished)
              rw [topic] at after published
              rw [failures] at counted
              rw [claimedSize?, same]
              exact ⟨captured, shown, after, published, counted⟩
          | true =>
              have first : claimedBy turbo handle (arrival :: arrivals) =
                  arrival :: arrivals.filter fun arrival => (arrival.header? turbo handle).isSome := by
                rw [claimedBy, List.filter_cons_of_pos (by simp [decoded]),
                  List.dropWhile_cons_of_neg (by simp [publishes])]
              have size : claimedSize? turbo handle (arrival :: arrivals) = some (header.width, header.height) := by
                rw [claimedSize?, first, List.head?_cons, Option.bind_some, size?_eq decoded]
              rw [publishes] at topic
              have held : (state.imageCallback turbo allocator arrival).topic.sink =
                  some { width := header.width, height := header.height } := by
                rw [topic]
                rfl
              obtain ⟨captured, shown, after, counted⟩ :=
                receiveAll_of_sink allocator arrivals (state.imageCallback turbo allocator arrival) kept held
              rw [topic] at after
              rw [failures] at counted
              refine ⟨one :: captured, ?_, ?_, ?_, counted⟩
              · rw [size, first, List.filter_cons_of_pos (by simp [size?_eq decoded])]
                exact .cons own shown
              · rw [receiveAll, List.foldl_cons, ← receiveAll, after]
                simp
              · rw [receiveAll, List.foldl_cons, ← receiveAll, after, size]
                rfl

end Arrivals

/-- The images that are captured are those of the size of the first one that is decoded and whose
track is published, each as its own frame with its own stamp, in their order; that size is published,
once, and each image that is considered and not decoded is counted. -/
theorem compressed_topic_captures (turbo : TurboJpeg) (allocator : Allocator) (handle : Bool) (trackName : String)
    (arrivals : List CompressedArrival) :
    let after := receiveAll turbo allocator { topic := { trackName }, jpegDecoder := { handle } } arrivals
    List.Forall₂ (ShownAs turbo handle)
        ((claimedBy turbo handle arrivals).filter fun arrival =>
          arrival.size? turbo handle = claimedSize? turbo handle arrivals) after.topic.captured ∧
      after.topic.published = (claimedSize? turbo handle arrivals).toList ∧
      after.outboundFailures = arrivals.countP fun arrival => arrival.fails turbo handle := by
  intro after
  have start : ({ topic := { trackName }, jpegDecoder := { handle } } : CompressedTopicState).topic.sink = none := rfl
  obtain ⟨captured, shown, all, published, counted⟩ := receiveAll_of_none allocator arrivals _ rfl start
  rw [List.nil_append] at all published
  rw [Nat.zero_add] at counted
  exact ⟨all ▸ shown, published, counted⟩

end RosPortal.Video
