import Mathlib.Data.List.Forall2
import RosPortal.Video.FrameHeader

/-! An inbound video track: the reader encodes the frames of its stream as JPEG and publishes them
in a message that it reuses. In front of it, the sink that the frames were captured through. -/

set_option autoImplicit false

namespace RosPortal.Video

open JsonText

/-- The compressor of TurboJPEG. A buffer of `tjBufSize` bytes is large enough for any frame of
the size, and a larger one makes no difference. -/
structure TurboCompressor where
  bufSize : Nat → Nat → Nat
  compress : (quality width height capacity : Nat) → (luma chroma : List UInt8) → Except String Bytes
  enough : ∀ (quality width height capacity : Nat) (luma chroma : List UInt8),
    bufSize width height ≤ capacity →
      compress quality width height capacity luma chroma =
        compress quality width height (bufSize width height) luma chroma

def kDefaultJpegQuality : Int := 90

structure JpegEncoder where
  /-- Whether `tjInitCompress` gave a handle. -/
  handle : Bool := true
  quality : Nat
  bufferCapacity : Nat := 0
  lastError : String := ""
deriving DecidableEq, Repr

def JpegEncoder.create (handle : Bool) (quality : Int) : JpegEncoder :=
  { handle, quality := (max 1 (min quality 100)).toNat }

/-- The largest `int`, which `tjAlloc` takes. -/
def kIntMax : Nat := 2147483647

section Encode

variable (turbo : TurboCompressor)

def JpegEncoder.fail (encoder : JpegEncoder) (lastError : String) : JpegEncoder × Option Bytes :=
  ({ encoder with lastError }, none)

/-- `allocated` is whether `tjAlloc` returns a buffer, where one is asked for. -/
def JpegEncoder.encodeI420 (encoder : JpegEncoder) (allocated : Bool) (frame : VideoFrame) :
    JpegEncoder × Option Bytes :=
  if encoder.handle = false then encoder.fail "TurboJPEG compressor is unavailable"
  else if frame.type ≠ .i420 then encoder.fail "frame is not I420"
  else if frame.width = 0 ∨ frame.height = 0 then encoder.fail "frame has no pixels"
  else if frame.data.length ≠ bufferSize frame.width frame.height .i420 then
    encoder.fail ("frame buffer size " ++ toString frame.data.length ++ " does not match packed I420 " ++
      toString frame.width ++ "x" ++ toString frame.height)
  else
    let requiredCapacity := turbo.bufSize frame.width frame.height
    let lumaSize := frame.width * frame.height
    if kIntMax < requiredCapacity then encoder.fail "frame is too large to encode"
    else if encoder.bufferCapacity < requiredCapacity ∧ allocated = false then
      encoder.fail "failed to allocate the JPEG output buffer"
    else
      let bufferCapacity := max encoder.bufferCapacity requiredCapacity
      match turbo.compress encoder.quality frame.width frame.height bufferCapacity
          (frame.data.take lumaSize) (frame.data.drop lumaSize) with
      | .error error => { encoder with bufferCapacity }.fail error
      | .ok jpeg => ({ encoder with bufferCapacity }, some jpeg)

/-- What a new encoder makes of the frame when memory can be had. -/
def JpegEncoder.ownJpeg (encoder : JpegEncoder) (frame : VideoFrame) : Option Bytes :=
  (JpegEncoder.encodeI420 turbo { handle := encoder.handle, quality := encoder.quality } true frame).2

end Encode

structure CompressedImage where
  header : FrameHeader
  format : String
  data : Bytes
deriving DecidableEq, Repr

def kJpegFormat : String := "jpeg"

/-- One turn of the loop: the stop flag, the frame that `read` delivers, and what the room, the
publisher, the allocator and the clock answer. -/
structure VideoTurn where
  stop : Bool := false
  frame : VideoFrame
  metadata : Option FrameMetadata := none
  available : Bool := true
  subscriptionCount : Nat := 1
  allocated : Bool := true
  now : Time := .zero
  throws : Bool := false
deriving DecidableEq, Repr

/-- The members of the reader: `data` and the header are those of the message that is reused.
`publishes` are the calls of `publish`, with whether they threw. -/
structure InboundVideoTrack where
  encoder : JpegEncoder := .create true kDefaultJpegQuality
  inbound : InboundHeader := {}
  data : Bytes := []
  failures : Nat := 0
  publishes : List (CompressedImage × Bool) := []
deriving DecidableEq, Repr

namespace InboundVideoTrack

variable (turbo : TurboCompressor) (fallbackFrameId : Bytes)

def publishFrame (track : InboundVideoTrack) (turn : VideoTurn) : InboundVideoTrack :=
  match track.encoder.encodeI420 turbo turn.allocated turn.frame with
  | (encoder, none) => { track with encoder, failures := track.failures + 1 }
  | (encoder, some data) =>
      let inbound := track.inbound.fillHeader fallbackFrameId turn.metadata turn.now
      { encoder
        inbound
        data
        failures := track.failures + if turn.throws then 1 else 0
        publishes := track.publishes ++ [(⟨inbound.header, kJpegFormat, data⟩, turn.throws)] }

def readFrame (track : InboundVideoTrack) (turn : VideoTurn) : InboundVideoTrack :=
  if turn.available = false then track
  else if turn.subscriptionCount = 0 then track
  else track.publishFrame turbo fallbackFrameId turn

def readLoop (track : InboundVideoTrack) : List VideoTurn → InboundVideoTrack
  | [] => track
  | turn :: turns =>
      if turn.stop then track else readLoop (track.readFrame turbo fallbackFrameId turn) turns

end InboundVideoTrack

/-- A frame on its way: whether the sink takes it, its header, whether it is lost, and the turn of
the reader that it meets. -/
structure SentVideoFrame where
  operationsEnabled : Bool := true
  header : FrameHeader
  lost : Bool := false
  turn : VideoTurn
deriving DecidableEq, Repr

/-- The turns of the reader, with the metadata that the sink gave the frames. -/
def CaptureState.deliver (capture : CaptureState) : List SentVideoFrame → List VideoTurn
  | [] => []
  | sent :: rest =>
      match capture.captureFrame sent.operationsEnabled sent.header.makeVideoFrameStamp with
      | (capture, none) => capture.deliver rest
      | (capture, some metadata) =>
          if sent.lost then capture.deliver rest
          else { sent.turn with metadata := some metadata } :: capture.deliver rest

section Encoder

variable (turbo : TurboCompressor) (encoder : JpegEncoder) (allocated : Bool) (frame : VideoFrame)

/-- What an encoder does with a frame depends on the frames before it only by its buffer. -/
theorem encodeI420_cases :
    ((encoder.encodeI420 turbo allocated frame).2 = encoder.ownJpeg turbo frame ∨
        ((encoder.encodeI420 turbo allocated frame).2 = none ∧ allocated = false)) ∧
      (encoder.encodeI420 turbo allocated frame).1.handle = encoder.handle ∧
      (encoder.encodeI420 turbo allocated frame).1.quality = encoder.quality := by
  unfold JpegEncoder.ownJpeg JpegEncoder.encodeI420
  simp only [Bool.true_eq_false, and_false, if_false, Nat.zero_max]
  split_ifs with handle type pixels sized limit memory
  · exact ⟨.inl rfl, rfl, rfl⟩
  · exact ⟨.inl rfl, rfl, rfl⟩
  · exact ⟨.inl rfl, rfl, rfl⟩
  · exact ⟨.inl rfl, rfl, rfl⟩
  · exact ⟨.inl rfl, rfl, rfl⟩
  · exact ⟨.inr ⟨rfl, memory.2⟩, rfl, rfl⟩
  · rw [turbo.enough _ _ _ (max encoder.bufferCapacity _) _ _ (Nat.le_max_right _ _)]
    cases turbo.compress encoder.quality frame.width frame.height (turbo.bufSize frame.width frame.height)
      (frame.data.take (frame.width * frame.height)) (frame.data.drop (frame.width * frame.height)) with
    | error error => exact ⟨.inl rfl, rfl, rfl⟩
    | ok jpeg => exact ⟨.inl rfl, rfl, rfl⟩

theorem ownJpeg_congr {other : JpegEncoder} (handle : other.handle = encoder.handle)
    (quality : other.quality = encoder.quality) : other.ownJpeg turbo frame = encoder.ownJpeg turbo frame := by
  rw [JpegEncoder.ownJpeg, handle, quality]
  rfl

end Encoder

/-- The header that is filled in for a frame, whatever the one before it was. -/
def ownHeader (fallbackFrameId : Bytes) (metadata : Option FrameMetadata) (now : Time) : FrameHeader where
  stamp := ((metadata.bind FrameMetadata.userTimestampUs).bind toRosTime).getD now
  frameId := ((metadata.bind FrameMetadata.userData).bind decodeFrameIdUserData).getD fallbackFrameId

def unstamped (metadata : Option FrameMetadata) : Bool :=
  ((metadata.bind FrameMetadata.userTimestampUs).bind toRosTime).isNone

theorem fillHeader_header (inbound : InboundHeader) (fallbackFrameId : Bytes) (metadata : Option FrameMetadata)
    (now : Time) : (inbound.fillHeader fallbackFrameId metadata now).header = ownHeader fallbackFrameId metadata now := by
  simp only [InboundHeader.fillHeader, ownHeader, FrameHeader.mk.injEq, and_true]
  exact fillStamp_stamp inbound _ now

theorem fillHeader_fallbacks (inbound : InboundHeader) (fallbackFrameId : Bytes)
    (metadata : Option FrameMetadata) (now : Time) :
    (inbound.fillHeader fallbackFrameId metadata now).stampFallbacks =
      inbound.stampFallbacks + if unstamped metadata then 1 else 0 := by
  refine (fillStamp_fallbacks inbound _ now).trans ?_
  unfold unstamped
  cases (metadata.bind FrameMetadata.userTimestampUs).bind toRosTime <;> rfl

/-- What becomes of a frame that the reader gets. -/
inductive FrameFate where
  | skipped
  | failed
  | published (image : CompressedImage) (thrown unstamped : Bool)
deriving DecidableEq, Repr

namespace FrameFate

def publish? : FrameFate → Option (CompressedImage × Bool)
  | .published image thrown _ => some (image, thrown)
  | .skipped | .failed => none

def isFailure : FrameFate → Bool
  | .failed | .published _ true _ => true
  | .skipped | .published _ false _ => false

def isFallback : FrameFate → Bool
  | .published _ _ unstamped => unstamped
  | .skipped | .failed => false

end FrameFate

/-- A frame is skipped without a room or a subscriber, fails if it is no frame that can be encoded
or there is no memory for it, and else is published as what it alone is encoded to. -/
def VideoTurn.Meets (turbo : TurboCompressor) (encoder : JpegEncoder) (header : FrameHeader)
    (stampless : Bool) (turn : VideoTurn) : FrameFate → Prop
  | .skipped => turn.available = false ∨ turn.subscriptionCount = 0
  | .failed =>
      turn.available = true ∧ turn.subscriptionCount ≠ 0 ∧
        (encoder.ownJpeg turbo turn.frame = none ∨ turn.allocated = false)
  | .published image thrown noStamp =>
      turn.available = true ∧ turn.subscriptionCount ≠ 0 ∧ encoder.ownJpeg turbo turn.frame = some image.data ∧
        image.header = header ∧ image.format = kJpegFormat ∧ thrown = turn.throws ∧ noStamp = stampless

/-- What becomes of a frame in the reader, with the header that its metadata give. -/
def VideoTurn.Read (turbo : TurboCompressor) (encoder : JpegEncoder) (fallbackFrameId : Bytes)
    (turn : VideoTurn) (fate : FrameFate) : Prop :=
  turn.Meets turbo encoder (ownHeader fallbackFrameId turn.metadata turn.now) (unstamped turn.metadata) fate

section Reader

variable (turbo : TurboCompressor) (fallbackFrameId : Bytes)

/-- What one turn adds to what the reader has done. -/
theorem readFrame_fate (track : InboundVideoTrack) (turn : VideoTurn) :
    ∃ fate, turn.Read turbo track.encoder fallbackFrameId fate ∧
      (track.readFrame turbo fallbackFrameId turn).publishes = track.publishes ++ fate.publish?.toList ∧
      (track.readFrame turbo fallbackFrameId turn).failures =
        track.failures + (if fate.isFailure then 1 else 0) ∧
      (track.readFrame turbo fallbackFrameId turn).inbound.stampFallbacks =
        track.inbound.stampFallbacks + (if fate.isFallback then 1 else 0) ∧
      (track.readFrame turbo fallbackFrameId turn).encoder.handle = track.encoder.handle ∧
      (track.readFrame turbo fallbackFrameId turn).encoder.quality = track.encoder.quality := by
  obtain ⟨own, handle, quality⟩ := encodeI420_cases turbo track.encoder turn.allocated turn.frame
  unfold InboundVideoTrack.readFrame
  split_ifs with away unwatched
  · exact ⟨.skipped, .inl away, by simp [FrameFate.publish?], rfl, rfl, rfl, rfl⟩
  · exact ⟨.skipped, .inr unwatched, by simp [FrameFate.publish?], rfl, rfl, rfl, rfl⟩
  · rw [Bool.not_eq_false] at away
    unfold InboundVideoTrack.publishFrame
    cases encoded : track.encoder.encodeI420 turbo turn.allocated turn.frame with
    | mk encoder result =>
        rw [encoded] at own handle quality
        cases result with
        | none =>
            refine ⟨.failed, ⟨away, unwatched, ?_⟩, by simp [FrameFate.publish?], rfl, rfl, handle, quality⟩
            exact own.imp Eq.symm And.right
        | some jpeg =>
            have found : track.encoder.ownJpeg turbo turn.frame = some jpeg := by
              rcases own with same | ⟨nothing, _⟩
              · exact same.symm
              · cases nothing
            refine ⟨.published ⟨ownHeader fallbackFrameId turn.metadata turn.now, kJpegFormat, jpeg⟩ turn.throws
                (unstamped turn.metadata), ⟨away, unwatched, found, rfl, rfl, rfl, rfl⟩, ?_, ?_, ?_, handle, quality⟩
            · simp only [fillHeader_header]
              rfl
            · cases turn.throws <;> rfl
            · exact fillHeader_fallbacks track.inbound fallbackFrameId turn.metadata turn.now

theorem VideoTurn.Meets.congr {turbo : TurboCompressor} {encoder other : JpegEncoder}
    (handle : other.handle = encoder.handle) (quality : other.quality = encoder.quality)
    {header : FrameHeader} {stampless : Bool} {turn : VideoTurn} {fate : FrameFate}
    (meets : turn.Meets turbo other header stampless fate) : turn.Meets turbo encoder header stampless fate := by
  cases fate with
  | skipped => exact meets
  | failed | published => simpa [VideoTurn.Meets, ownJpeg_congr turbo encoder _ handle quality] using meets

/-- What a reader has published and counted is what became of each of its frames. -/
theorem readLoop_fates (track : InboundVideoTrack) (turns : List VideoTurn) :
    ∃ fates, List.Forall₂ (VideoTurn.Read turbo track.encoder fallbackFrameId)
        (turns.takeWhile fun turn => !turn.stop) fates ∧
      (track.readLoop turbo fallbackFrameId turns).publishes =
        track.publishes ++ fates.filterMap FrameFate.publish? ∧
      (track.readLoop turbo fallbackFrameId turns).failures =
        track.failures + fates.countP FrameFate.isFailure ∧
      (track.readLoop turbo fallbackFrameId turns).inbound.stampFallbacks =
        track.inbound.stampFallbacks + fates.countP FrameFate.isFallback := by
  induction turns generalizing track with
  | nil => exact ⟨[], .nil, by simp [InboundVideoTrack.readLoop], rfl, rfl⟩
  | cons turn turns ih =>
      cases stop : turn.stop with
      | true => exact ⟨[], by simp [stop], by simp [InboundVideoTrack.readLoop, stop],
          by simp [InboundVideoTrack.readLoop, stop], by simp [InboundVideoTrack.readLoop, stop]⟩
      | false =>
          obtain ⟨fate, met, published, failed, fellBack, handle, quality⟩ :=
            readFrame_fate turbo fallbackFrameId track turn
          obtain ⟨fates, later, publishes, failures, fallbacks⟩ :=
            ih (track.readFrame turbo fallbackFrameId turn)
          refine ⟨fate :: fates, ?_, ?_, ?_, ?_⟩
          · rw [List.takeWhile_cons_of_pos (by simp [stop])]
            exact .cons met (later.imp fun _ _ read => VideoTurn.Meets.congr handle quality read)
          · simp only [InboundVideoTrack.readLoop, stop, Bool.false_eq_true, if_false]
            rw [publishes, published, List.append_assoc]
            cases found : fate.publish? <;> simp [found]
          · simp only [InboundVideoTrack.readLoop, stop, Bool.false_eq_true, if_false]
            rw [failures, failed, List.countP_cons]
            omega
          · simp only [InboundVideoTrack.readLoop, stop, Bool.false_eq_true, if_false]
            rw [fallbacks, fellBack, List.countP_cons]
            omega

end Reader

section Path

/-- The metadata that a sink gives a frame with this header, whatever it captured before. -/
def FrameHeader.metadata (header : FrameHeader) : FrameMetadata where
  userTimestampUs :=
    if 0 ≤ header.makeVideoFrameStamp.timestampUs then some header.makeVideoFrameStamp.timestampUs.toNat else none
  userData := header.makeVideoFrameStamp.frameId.bind encodeFrameIdUserData

def SentVideoFrame.arrives (sent : SentVideoFrame) : Bool := sent.operationsEnabled && !sent.lost

def SentVideoFrame.delivered (sent : SentVideoFrame) : VideoTurn :=
  { sent.turn with metadata := some sent.header.metadata }

theorem deliver_eq {capture : CaptureState} (encoded : capture.Encoded) (frames : List SentVideoFrame) :
    capture.deliver frames = (frames.filter SentVideoFrame.arrives).map SentVideoFrame.delivered := by
  induction frames generalizing capture with
  | nil => rfl
  | cons sent rest ih =>
      have kept := encoded.keeps sent.operationsEnabled sent.header.makeVideoFrameStamp
      unfold CaptureState.deliver
      cases enabled : sent.operationsEnabled with
      | false =>
          rw [List.filter_cons_of_neg (by simp [SentVideoFrame.arrives, enabled])]
          exact ih encoded
      | true =>
          have captured := encoded.captures sent.header.makeVideoFrameStamp
          rw [enabled] at kept
          cases result : capture.captureFrame true sent.header.makeVideoFrameStamp with
          | mk after metadata =>
              rw [result] at captured kept
              cases captured
              cases lost : sent.lost with
              | true =>
                  rw [List.filter_cons_of_neg (by simp [SentVideoFrame.arrives, lost])]
                  exact ih kept
              | false =>
                  rw [List.filter_cons_of_pos (by simp [SentVideoFrame.arrives, enabled, lost])]
                  simp only [Bool.false_eq_true, if_false, List.map_cons]
                  exact congrArg _ (ih kept)

theorem ownHeader_metadata (fallbackFrameId : Bytes) (header : FrameHeader) (now : Time) :
    ownHeader fallbackFrameId (some header.metadata) now = header.received fallbackFrameId now := by
  obtain ⟨stamp, frameId⟩ := header
  have arrived := stamp_arrives stamp frameId
  simp only [ownHeader, FrameHeader.metadata, FrameHeader.received, Option.bind_some, arrived, FrameHeader.mk.injEq]
  constructor
  · split_ifs <;> rfl
  · by_cases short : frameId.length ≤ kMaxFrameIdUserDataLength
    · simp [FrameHeader.makeVideoFrameStamp, short, decode_encode short]
    · simp [FrameHeader.makeVideoFrameStamp, short]

theorem unstamped_metadata (header : FrameHeader) :
    unstamped (some header.metadata) = decide (header.stamp.sec < 0) := by
  obtain ⟨stamp, frameId⟩ := header
  have arrived := stamp_arrives stamp frameId
  simp only [unstamped, FrameHeader.metadata, Option.bind_some, arrived]
  by_cases early : stamp.sec < 0
  · simp [early]
  · simp [early, Int.not_lt.mp early]

/-- What becomes of a frame that arrives: if it is published, it is with the header that the
sender gave it. -/
def SentVideoFrame.Meets (turbo : TurboCompressor) (encoder : JpegEncoder) (fallbackFrameId : Bytes)
    (sent : SentVideoFrame) (fate : FrameFate) : Prop :=
  sent.turn.Meets turbo encoder (sent.header.received fallbackFrameId sent.turn.now)
    (decide (sent.header.stamp.sec < 0)) fate

/-- From the sink of the sender to the topic of the receiver: the frames that arrive before the
reader is stopped meet their fates in order, each by itself, whatever was captured, lost, encoded or
refused before, and the counters are those of the fates. -/
theorem video_path_fates (turbo : TurboCompressor) (handle : Bool) (quality : Int) (fallbackFrameId : Bytes)
    (frames : List SentVideoFrame) :
    let encoder := JpegEncoder.create handle quality
    let track := InboundVideoTrack.readLoop turbo fallbackFrameId { encoder } (CaptureState.deliver {} frames)
    ∃ fates, List.Forall₂ (SentVideoFrame.Meets turbo encoder fallbackFrameId)
        ((frames.filter SentVideoFrame.arrives).takeWhile fun sent => !sent.turn.stop) fates ∧
      track.publishes = fates.filterMap FrameFate.publish? ∧
      track.failures = fates.countP FrameFate.isFailure ∧
      track.inbound.stampFallbacks = fates.countP FrameFate.isFallback := by
  intro encoder track
  obtain ⟨fates, read, publishes, failures, fallbacks⟩ :=
    readLoop_fates turbo fallbackFrameId { encoder } (CaptureState.deliver {} frames)
  refine ⟨fates, ?_, by simpa using publishes, by simpa using failures, by simpa using fallbacks⟩
  have fresh : CaptureState.Encoded {} := rfl
  rw [deliver_eq fresh, List.takeWhile_map, List.forall₂_map_left_iff] at read
  refine read.imp fun sent fate met => ?_
  unfold VideoTurn.Read SentVideoFrame.delivered at met
  rw [ownHeader_metadata, unstamped_metadata] at met
  cases fate <;> exact met

def planesOnly : TurboCompressor where
  bufSize width height := bufferSize width height .i420
  compress _ _ _ _ luma chroma := .ok (luma ++ chroma)
  enough _ _ _ _ _ _ _ := rfl

example :
    (InboundVideoTrack.readLoop planesOnly (ascii "camera") {}
        (CaptureState.deliver {}
          [{ header := ⟨.zero, ascii "lens"⟩, turn := { frame := ⟨1, 1, .i420, [1, 2, 3]⟩ } },
            { header := ⟨.zero, ascii "lens"⟩, turn := { frame := ⟨2, 1, .i420, [1, 2, 3]⟩ } }])).publishes =
      [(⟨⟨.zero, ascii "lens"⟩, "jpeg", [1, 2, 3]⟩, false)] := by
  decide

end Path

end RosPortal.Video
