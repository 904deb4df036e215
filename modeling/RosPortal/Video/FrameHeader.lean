import RosPortal.Interleaving.Machine
import RosPortal.Json.Utf8
import RosPortal.Video.ImageTopic

/-! The header of a frame on its way from a sink to the receiver. The sink keeps the user
data of the last frame and encodes a `frame_id` only when it changes. -/

set_option autoImplicit false

namespace RosPortal.Video

open Interleaving JsonText

/-- `builtin_interfaces/msg/Time`. -/
structure Time where
  sec : Int
  nanosec : Nat
  secRange : -2147483648 ≤ sec ∧ sec ≤ 2147483647
  nanosecRange : nanosec < 1000000000
deriving DecidableEq, Repr

def Time.zero : Time := ⟨0, 0, by decide, by decide⟩

/-- `std_msgs/msg/Header` with the bytes of its `frame_id`. -/
structure FrameHeader where
  stamp : Time := .zero
  frameId : Bytes := []
deriving DecidableEq, Repr

structure FrameStamp where
  timestampUs : Int
  frameId : Option Bytes
deriving DecidableEq, Repr

def FrameHeader.makeVideoFrameStamp (header : FrameHeader) : FrameStamp where
  timestampUs := header.stamp.sec * 1000000 + (header.stamp.nanosec / 1000 : Nat)
  frameId := if header.frameId.length ≤ kMaxFrameIdUserDataLength then some header.frameId else none

def kFrameIdUserDataVersion : UInt8 := 0x01

def encodeFrameIdUserData (frameId : Bytes) : Option Bytes :=
  if kMaxFrameIdUserDataLength < frameId.length then none else some (kFrameIdUserDataVersion :: frameId)

def decodeFrameIdUserData (userData : Bytes) : Option Bytes :=
  match userData with
  | [] => none
  | version :: frameId =>
      if version ≠ kFrameIdUserDataVersion ∨ kMaxFrameIdUserDataLength < frameId.length then none
      else some frameId

structure FrameMetadata where
  userTimestampUs : Option Nat := none
  userData : Option Bytes := none
deriving DecidableEq, Repr

/-- What the `capture_frame` of a sink keeps from call to call. -/
structure CaptureState where
  timestampUs : Int := 0
  metadata : FrameMetadata := {}
  lastFrameId : Option Bytes := none
deriving DecidableEq, Repr

def CaptureState.captureFrame (capture : CaptureState) (operationsEnabled : Bool) (stamp : FrameStamp) :
    CaptureState × Option FrameMetadata :=
  if !operationsEnabled then (capture, none)
  else
    let userTimestampUs := if 0 ≤ stamp.timestampUs then some stamp.timestampUs.toNat else none
    if stamp.frameId ≠ capture.lastFrameId then
      let metadata := { userTimestampUs, userData := stamp.frameId.bind encodeFrameIdUserData }
      ({ timestampUs := stamp.timestampUs, metadata, lastFrameId := stamp.frameId }, some metadata)
    else
      let metadata := { capture.metadata with userTimestampUs }
      ({ capture with timestampUs := stamp.timestampUs, metadata }, some metadata)

def toRosTime (timestampUs : Nat) : Option Time :=
  if limit : 2147483647 < timestampUs / 1000000 then none
  else
    some {
      sec := (timestampUs / 1000000 : Nat)
      nanosec := timestampUs % 1000000 * 1000
      secRange := by omega
      nanosecRange := by omega }

/-- The header of the message that an inbound track reuses, and its count of frames that
came without a stamp. -/
structure InboundHeader where
  header : FrameHeader := {}
  stampFallbacks : Nat := 0
  stampFallbackLogged : Bool := false
deriving DecidableEq, Repr

def InboundHeader.fillStamp (inbound : InboundHeader) (senderStamp : Option Time) (now : Time) : InboundHeader :=
  match senderStamp with
  | some stamp => { inbound with header := { inbound.header with stamp } }
  | none =>
      { header := { inbound.header with stamp := now }
        stampFallbacks := inbound.stampFallbacks + 1
        stampFallbackLogged := true }

def InboundHeader.fillHeader (inbound : InboundHeader) (fallbackFrameId : Bytes) (metadata : Option FrameMetadata)
    (now : Time) : InboundHeader :=
  let senderStamp := (metadata.bind FrameMetadata.userTimestampUs).bind toRosTime
  let senderFrameId := (metadata.bind FrameMetadata.userData).bind decodeFrameIdUserData
  let stamped := inbound.fillStamp senderStamp now
  { stamped with header := { stamped.header with frameId := senderFrameId.getD fallbackFrameId } }

/-- A message on its way to `capture_frame`, with the clock of the receiver. -/
structure SentFrame where
  operationsEnabled : Bool
  header : FrameHeader
  receiverNow : Time
deriving DecidableEq, Repr

structure Trip where
  capture : CaptureState := {}
  inbound : InboundHeader := {}
deriving DecidableEq, Repr

/-- Every captured frame arrives with its metadata as it was. -/
def Trip.send (fallbackFrameId : Bytes) (trip : Trip) (frame : SentFrame) : Trip :=
  match trip.capture.captureFrame frame.operationsEnabled frame.header.makeVideoFrameStamp with
  | (capture, none) => { trip with capture }
  | (capture, some metadata) =>
      { capture, inbound := trip.inbound.fillHeader fallbackFrameId (some metadata) frame.receiverNow }

def tripMachine (fallbackFrameId : Bytes) : Machine Trip SentFrame where
  step? trip frame := some (trip.send fallbackFrameId frame)

def Time.truncated (time : Time) : Time where
  sec := time.sec
  nanosec := time.nanosec / 1000 * 1000
  secRange := time.secRange
  nanosecRange := by
    have range := time.nanosecRange
    omega

/-- The header that the receiver publishes for one of the sender. -/
def FrameHeader.received (header : FrameHeader) (fallbackFrameId : Bytes) (now : Time) : FrameHeader where
  stamp := if 0 ≤ header.stamp.sec then header.stamp.truncated else now
  frameId := if header.frameId.length ≤ kMaxFrameIdUserDataLength then header.frameId else fallbackFrameId

section Codec

theorem decode_encode {frameId : Bytes} (short : frameId.length ≤ kMaxFrameIdUserDataLength) :
    (encodeFrameIdUserData frameId).bind decodeFrameIdUserData = some frameId := by
  simp [encodeFrameIdUserData, decodeFrameIdUserData, Nat.not_lt.mpr short]

/-- A stamp before 1970 has no user timestamp, any other its own to the microsecond. -/
theorem stamp_arrives (stamp : Time) (frameId : Bytes) :
    ((if 0 ≤ (FrameHeader.mk stamp frameId).makeVideoFrameStamp.timestampUs then
      some (FrameHeader.mk stamp frameId).makeVideoFrameStamp.timestampUs.toNat else none).bind toRosTime) =
      if 0 ≤ stamp.sec then some stamp.truncated else none := by
  obtain ⟨sec, nanosec, secRange, nanosecRange⟩ := stamp
  simp only [FrameHeader.makeVideoFrameStamp]
  by_cases early : sec < 0
  · rw [if_neg (by omega), if_neg (by omega)]
    rfl
  · have seconds : (sec * 1000000 + (nanosec / 1000 : Nat)).toNat = sec.toNat * 1000000 + nanosec / 1000 := by
      omega
    have inRange : ¬ 2147483647 < (sec * 1000000 + (nanosec / 1000 : Nat)).toNat / 1000000 := by omega
    rw [if_pos (by omega), if_pos (by omega)]
    simp only [Option.bind_some, toRosTime, dif_neg inRange, Time.truncated, Option.some.injEq, Time.mk.injEq]
    constructor <;> omega

end Codec

section Capture

/-- The user data kept by the sink encodes the `frame_id` it was last set for. -/
def CaptureState.Encoded (capture : CaptureState) : Prop :=
  capture.metadata.userData = capture.lastFrameId.bind encodeFrameIdUserData

theorem CaptureState.Encoded.captures {capture : CaptureState} (encoded : capture.Encoded) (stamp : FrameStamp) :
    (capture.captureFrame true stamp).2 = some
      { userTimestampUs := if 0 ≤ stamp.timestampUs then some stamp.timestampUs.toNat else none
        userData := stamp.frameId.bind encodeFrameIdUserData } := by
  unfold captureFrame
  by_cases changed : stamp.frameId ≠ capture.lastFrameId
  · simp [changed]
  · rw [not_not] at changed
    rw [changed, ← show capture.metadata.userData = _ from encoded]
    simp

theorem CaptureState.Encoded.keeps {capture : CaptureState} (encoded : capture.Encoded) (operationsEnabled : Bool)
    (stamp : FrameStamp) : (capture.captureFrame operationsEnabled stamp).1.Encoded := by
  unfold captureFrame
  cases operationsEnabled with
  | false => exact encoded
  | true =>
      by_cases changed : stamp.frameId ≠ capture.lastFrameId
      · simp [changed, Encoded]
      · rw [not_not] at changed
        simpa [changed, Encoded] using encoded

theorem send_capture (fallbackFrameId : Bytes) (trip : Trip) (frame : SentFrame) :
    (trip.send fallbackFrameId frame).capture =
      (trip.capture.captureFrame frame.operationsEnabled frame.header.makeVideoFrameStamp).1 := by
  unfold Trip.send
  split
  next captured => rw [captured]
  next captured => rw [captured]

theorem send_inbound {fallbackFrameId : Bytes} {trip : Trip} {frame : SentFrame} {metadata : FrameMetadata}
    (captured : (trip.capture.captureFrame frame.operationsEnabled frame.header.makeVideoFrameStamp).2 =
      some metadata) :
    (trip.send fallbackFrameId frame).inbound =
      trip.inbound.fillHeader fallbackFrameId (some metadata) frame.receiverNow := by
  unfold Trip.send
  split
  next nothing =>
    rw [nothing] at captured
    cases captured
  next something =>
    rw [something] at captured
    cases captured
    rfl

theorem encoded_of_reaches {fallbackFrameId : Bytes} {trip : Trip}
    (reached : (tripMachine fallbackFrameId).Reaches {} trip) : trip.capture.Encoded := by
  induction reached with
  | refl => rfl
  | step _ _ stepped encoded =>
      cases stepped
      rw [send_capture]
      exact encoded.keeps _ _

end Capture

section Receiver

theorem fillStamp_stamp (inbound : InboundHeader) (senderStamp : Option Time) (now : Time) :
    (inbound.fillStamp senderStamp now).header.stamp = senderStamp.getD now := by
  cases senderStamp <;> rfl

theorem fillStamp_fallbacks (inbound : InboundHeader) (senderStamp : Option Time) (now : Time) :
    (inbound.fillStamp senderStamp now).stampFallbacks =
      inbound.stampFallbacks + if senderStamp.isSome then 0 else 1 := by
  cases senderStamp <;> rfl

end Receiver

/-- Whatever was captured before, a frame arrives with the stamp and the `frame_id` of its
own message, or with the fallback where that has none to send. -/
theorem header_received {fallbackFrameId : Bytes} {trip : Trip}
    (reached : (tripMachine fallbackFrameId).Reaches {} trip) (frame : SentFrame) :
    (frame.operationsEnabled = true →
      (trip.send fallbackFrameId frame).inbound.header =
          frame.header.received fallbackFrameId frame.receiverNow ∧
        (trip.send fallbackFrameId frame).inbound.stampFallbacks =
          trip.inbound.stampFallbacks + if 0 ≤ frame.header.stamp.sec then 0 else 1) ∧
      (frame.operationsEnabled = false → (trip.send fallbackFrameId frame).inbound = trip.inbound) := by
  obtain ⟨operationsEnabled, ⟨stamp, frameId⟩, receiverNow⟩ := frame
  cases operationsEnabled with
  | false => exact ⟨nofun, fun _ => rfl⟩
  | true =>
      refine ⟨fun _ => ?_, nofun⟩
      have captured := (encoded_of_reaches reached).captures (FrameHeader.mk stamp frameId).makeVideoFrameStamp
      have sent := stamp_arrives stamp frameId
      have named : ((FrameHeader.makeVideoFrameStamp ⟨stamp, frameId⟩).frameId.bind
          encodeFrameIdUserData).bind decodeFrameIdUserData =
            if frameId.length ≤ kMaxFrameIdUserDataLength then some frameId else none := by
        simp only [FrameHeader.makeVideoFrameStamp]
        split_ifs with short
        · exact decode_encode short
        · rfl
      rw [send_inbound captured]
      simp only [InboundHeader.fillHeader, Option.bind_some, sent, named, FrameHeader.received,
        fillStamp_fallbacks, FrameHeader.mk.injEq, fillStamp_stamp]
      refine ⟨⟨?_, ?_⟩, ?_⟩
      · split_ifs <;> rfl
      · split_ifs <;> rfl
      · by_cases recent : 0 ≤ stamp.sec
        · rw [if_pos recent, if_pos recent]
          rfl
        · rw [if_neg recent, if_neg recent]
          rfl

/-- The second of two frames arrives with its own `frame_id`. -/
theorem second_header_received :
    ∃ trip, (tripMachine (ascii "camera")).Reaches {} trip ∧
      (trip.send (ascii "camera") ⟨true, ⟨.zero, ascii "lens"⟩, .zero⟩).inbound.header =
        FrameHeader.received ⟨.zero, ascii "lens"⟩ (ascii "camera") .zero := by
  have reached : (tripMachine (ascii "camera")).Reaches {}
      (Trip.send (ascii "camera") {} ⟨true, ⟨.zero, ascii "mast"⟩, .zero⟩) :=
    .step .refl trivial rfl
  exact ⟨_, reached, ((header_received reached ⟨true, ⟨.zero, ascii "lens"⟩, .zero⟩).1 rfl).1⟩

end RosPortal.Video
