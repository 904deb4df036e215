import Mathlib.Data.List.Perm.Basic
import Mathlib.Data.List.Perm.Subperm
import RosPortal.Inbound.DataTrackReader
import RosPortal.Inbound.DataTracks
import RosPortal.Outbound.DataTopic

/-! The way of the messages of a ROS topic from one portal to another: the callback of the
outbound subscription, the data track, which may lose frames, and the reader of the track. -/

set_option autoImplicit false

namespace RosPortal.Forwarding

open Interleaving JsonText Introspection Naming Schema Outbound Inbound.DataTracks Inbound.DataTrackReader

/-- What is fixed: the topic and its options at the sender, the receiving portal, and the
libraries that both are built with. -/
structure Route (Hash : Type) where
  topicName : String
  topicType : String
  encoding : OutboundEncoding := .ros2Msg
  minPeriod : Option Int := none
  renderers : Renderers
  sid : String
  publisherIdentity : String
  receiver : Receiver Hash
  codec : Codec
  serializer : JsonSerializer

inductive Fate where
  | inFlight
  | lost
  | skipped
  | read
deriving DecidableEq, Repr

/-- A frame that the writer has taken, with the message it was made of. -/
structure Frame where
  message : Bytes
  payload : Bytes
  fate : Fate := .inFlight
deriving DecidableEq, Repr

/-- Both ends of the track. In hand are the samples that executions of the callback have been let in
with and not pushed yet. Which samples the callback was called with and what became of the frames is
recorded; no step of a portal reads it. -/
structure State where
  sender : DataTopicState
  schema : Option DataTrackSchemaId := none
  samples : List Bytes := []
  inHand : List (Bytes × OutboundEncoding) := []
  frames : List Frame := []
  track : Option InboundDataTrack := none
  reading : Reading := {}
  ended : Bool := false

/-- An execution of the callback up to the end of its lock, with whether it goes past its first check and
what it meets there; what follows the lock in one of the executions; the announcement of the track at
the receiver; a frame that is lost; and a turn of the reader. -/
inductive Label where
  | sample (message : Bytes) (forwarded : Bool) (now : Int) (roomAvailable defined : Bool)
      (published : PublishedTrack)
  | push (index : Nat) (pushed : Bool)
  | announce (retrieval : Retrieval) (setup : Setup)
  | lose (index : Nat)
  | read (available throws : Bool)
deriving Repr

/-- The oldest frame in flight, and the frames once it has met its fate. -/
def takeFrame (fate : Fate) : List Frame → Option (Frame × List Frame)
  | [] => none
  | frame :: frames =>
      if frame.fate = .inFlight then some (frame, { frame with fate } :: frames)
      else (takeFrame fate frames).map fun taken => (taken.1, frame :: taken.2)

def loseFrame (frames : List Frame) (index : Nat) : List Frame :=
  frames.modify index fun frame => if frame.fate = .inFlight then { frame with fate := .lost } else frame

section Steps

variable {Hash : Type} [DecidableEq Hash] (route : Route Hash)

def initial : State := { sender := { encoding := route.encoding, minPeriod := route.minPeriod } }

/-- What `ensureSchemaDefined` returns for the topic when nothing else registers schemas. -/
def ensureSchemaDefined (encoding : OutboundEncoding) (defined : Bool) : Option DataTrackSchemaId :=
  match requestDefinition route.topicType encoding (route.renderers.renderJsonSchema route.topicType)
      (route.renderers.renderSchema route.topicType) with
  | .error _ => none
  | .ok request => if defined then some request.schemaId else none

def pushFrame (state : State) (message : Bytes) (encoding : OutboundEncoding) (pushed : Bool) : State :=
  match outboundFrame route.codec route.serializer encoding route.topicType message with
  | .error _ => state
  | .ok payload => if pushed then { state with frames := state.frames ++ [⟨message, payload, .inFlight⟩] } else state

/-- The locked section of the callback of `createDataSubscriber`. -/
def admitSample (state : State) (message : Bytes) (now : Int) (attempt : WriterAttempt) : State :=
  let entered := state.sender.enter now attempt
  let made := state.sender.writer = none && entered.1.writer.isSome
  let next := { state with sender := entered.1, schema := if made then attempt.schema else state.schema }
  match entered.2 with
  | .admitted _ encoding => { next with inHand := next.inHand ++ [(message, encoding)] }
  | .capped | .unwritable => next

def takeSample (state : State) (message : Bytes) (forwarded : Bool) (now : Int) (attempt : WriterAttempt) : State :=
  let next := { state with samples := state.samples ++ [message] }
  if forwarded then admitSample next message now attempt else next

/-- Conversion and push, which are not under the lock. -/
def pushSample? (state : State) (index : Nat) (pushed : Bool) : Option State :=
  state.inHand[index]?.map fun sample =>
    pushFrame route { state with inHand := state.inHand.eraseIdx index } sample.1 sample.2 pushed

def descriptor (schemaId : DataTrackSchemaId) : RemoteDataTrackDescriptor where
  sid := route.sid
  trackName := route.topicName
  publisherIdentity := route.publisherIdentity
  schema := some schemaId
  frameEncoding := some (publishedFrameEncoding schemaId)

def announceTrack? (state : State) (retrieval : Retrieval) (setup : Setup) : Option State :=
  match state.schema, state.track with
  | some schemaId, none =>
      match onDataTrackPublished route.receiver (fun _ _ => retrieval) setup (descriptor route schemaId) with
      | .registered track => some { state with track := some track }
      | _ => some state
  | _, _ => none

def readerState (track : InboundDataTrack) : InboundDataTrackState where
  rosTopicType := track.rosTopicType
  frameEncoding := track.frameEncoding
  stream := none

def readTurn? (state : State) (available throws : Bool) : Option State :=
  match state.track with
  | none => none
  | some track =>
      if state.ended then none
      else
        (takeFrame (if available then .read else .skipped) state.frames).map fun taken =>
          let outcome := readFrame route.codec route.serializer (readerState track) state.reading
            { payload := taken.1.payload, available, throws }
          { state with
            frames := taken.2
            reading := outcome.1
            ended := outcome.2 ≠ .looping }

def step? (state : State) : Label → Option State
  | .sample message forwarded now roomAvailable defined published =>
      some (takeSample state message forwarded now
        ⟨roomAvailable, ensureSchemaDefined route route.encoding defined, published⟩)
  | .push index pushed => pushSample? route state index pushed
  | .announce retrieval setup => announceTrack? route state retrieval setup
  | .lose index => some { state with frames := loseFrame state.frames index }
  | .read available throws => readTurn? route state available throws

def machine : Machine State Label := ⟨step? route⟩

end Steps

section Purpose

variable {Hash : Type} (route : Route Hash)

/-- A message whose frame the receiver takes. -/
def Fits (message : Bytes) : Prop :=
  if sendsJson route.encoding then FitsReceiver route.codec route.serializer route.topicType message
  else message ≠ []

/-- Messages that are sent as JSON hold no infinite numbers and no NaN. -/
def FiniteSamples (_ : State) : Label → Prop
  | .sample message .. => sendsJson route.encoding = true → ∀ root,
      route.serializer.deserialize route.topicType message = .ok root → root.Finite
  | _ => True

/-- The callback is executed for one sample at a time. -/
def OneAtATime (state : State) : Label → Prop
  | .sample .. => state.inHand = []
  | _ => True

instance (state : State) : DecidablePred (OneAtATime state)
  | .sample .. => inferInstanceAs (Decidable (state.inHand = []))
  | .push .. | .announce .. | .lose _ | .read .. => .isTrue trivial

open scoped Classical in
/-- The frames that the reader has read and that it takes. -/
noncomputable def arrived (state : State) : List Frame :=
  state.frames.filter fun frame => frame.fate = .read ∧ Fits route frame.message

end Purpose

section Frames

variable {frames : List Frame}

/-- A frame without what becomes of it. -/
def Frame.content (frame : Frame) : Bytes × Bytes := (frame.message, frame.payload)

def framesRead (frames : List Frame) : List Frame := frames.filter fun frame => frame.fate = .read

/-- No frame is read while an older one is in flight. -/
def InOrder : List Frame → Prop
  | [] => True
  | frame :: frames => (frame.fate = .inFlight → framesRead frames = []) ∧ InOrder frames

theorem framesRead_cons (frame : Frame) (frames : List Frame) :
    framesRead (frame :: frames) = (if frame.fate = .read then [frame] else []) ++ framesRead frames := by
  unfold framesRead
  rw [List.filter_cons]
  split_ifs <;> simp_all

theorem inOrder_append {fresh : Frame} (ordered : InOrder frames) (flying : fresh.fate = .inFlight) :
    InOrder (frames ++ [fresh]) := by
  induction frames with
  | nil => exact ⟨fun _ => rfl, trivial⟩
  | cons frame frames ih =>
      obtain ⟨here, later⟩ := ordered
      refine ⟨fun unsettled => ?_, ih later⟩
      change framesRead (frames ++ [fresh]) = []
      rw [framesRead, List.filter_append, ← framesRead, here unsettled]
      simp [flying]

theorem loseFrame_spec (frames : List Frame) (index : Nat) :
    framesRead (loseFrame frames index) = framesRead frames ∧
      (loseFrame frames index).map Frame.content = frames.map Frame.content ∧
      (InOrder frames → InOrder (loseFrame frames index)) := by
  induction frames generalizing index with
  | nil => simp [loseFrame]
  | cons frame frames ih =>
      cases index with
      | zero =>
          simp only [loseFrame, List.modify_zero_cons]
          split_ifs with flying
          · refine ⟨?_, rfl, fun ordered => ⟨nofun, ordered.2⟩⟩
            rw [framesRead_cons, framesRead_cons, flying]
            rfl
          · exact ⟨rfl, rfl, id⟩
      | succ index =>
          obtain ⟨read, content, ordered⟩ := ih index
          simp only [loseFrame, List.modify_succ_cons] at read content ordered ⊢
          refine ⟨?_, ?_, fun inOrder => ⟨fun flying => ?_, ordered inOrder.2⟩⟩
          · rw [framesRead_cons, framesRead_cons, read]
          · rw [List.map_cons, List.map_cons, content]
          · rw [read]
            exact inOrder.1 flying

theorem content_takeFrame {fate : Fate} {taken : Frame} {next : List Frame}
    (took : takeFrame fate frames = some (taken, next)) : next.map Frame.content = frames.map Frame.content := by
  induction frames generalizing next with
  | nil => cases took
  | cons frame frames ih =>
      unfold takeFrame at took
      split_ifs at took with flying
      · cases took
        rfl
      · obtain ⟨rest, found, same⟩ := Option.map_eq_some_iff.mp took
        cases same
        rw [List.map_cons, List.map_cons, ih found]

theorem takeFrame_spec {fate : Fate} {taken : Frame} {next : List Frame}
    (took : takeFrame fate frames = some (taken, next)) (settled : fate ≠ .inFlight) (ordered : InOrder frames) :
    framesRead next = framesRead frames ++ (if fate = .read then [{ taken with fate }] else []) ∧ InOrder next := by
  induction frames generalizing next with
  | nil => cases took
  | cons frame frames ih =>
      obtain ⟨here, later⟩ := ordered
      unfold takeFrame at took
      split_ifs at took with flying
      · cases took
        refine ⟨?_, fun unsettled => absurd unsettled settled, later⟩
        rw [framesRead_cons, framesRead_cons, here flying, flying]
        simp
      · obtain ⟨rest, found, same⟩ := Option.map_eq_some_iff.mp took
        cases same
        obtain ⟨read, inOrder⟩ := ih found later
        refine ⟨?_, fun unsettled => absurd unsettled flying, inOrder⟩
        rw [framesRead_cons, framesRead_cons, read, List.append_assoc]

end Frames

section Route

variable {Hash : Type} {route : Route Hash}

/-- The ID is one that the sender's renderers give the topic. -/
def Advertises (route : Route Hash) (schemaId : DataTrackSchemaId) : Prop :=
  ∃ request, Rendered route.renderers request ∧ request.topicType = route.topicType ∧
    request.encoding = route.encoding ∧ request.schemaId = schemaId

/-- The track continues the sender's topic: under its name, with its type and its wire format. -/
structure Continues (route : Route Hash) (track : InboundDataTrack) : Prop where
  name : dataTrackTopic route.receiver.options (octets route.publisherIdentity) (octets route.topicName) =
    some track.rosTopicName
  type : track.rosTopicType = route.topicType
  encoding : decodesJson track.frameEncoding = sendsJson route.encoding

theorem advertises_of_ensured {schemaId : DataTrackSchemaId} {defined : Bool}
    (ensured : ensureSchemaDefined route route.encoding defined = some schemaId) :
    Advertises route schemaId := by
  unfold ensureSchemaDefined at ensured
  split at ensured
  · cases ensured
  next request worked =>
    split_ifs at ensured
    cases ensured
    have arguments := requestDefinition_arguments worked
    refine ⟨request, ?_, arguments.1, arguments.2, rfl⟩
    unfold Rendered
    rw [arguments.1, arguments.2]
    exact worked

theorem continues_of_registered [DecidableEq Hash] {schemaId : DataTrackSchemaId} {retrieval : Retrieval} {setup : Setup}
    {track : InboundDataTrack} (advertises : Advertises route schemaId)
    (registered : onDataTrackPublished route.receiver (fun _ _ => retrieval) setup
      (descriptor route schemaId) = .registered track) : Continues route track := by
  obtain ⟨request, rendered, sameType, sameEncoding, rfl⟩ := advertises
  obtain ⟨_, _, _, schemaId, registers⟩ := registers_of_registered registered
  cases registers.schema
  have framed : publishedFrameEncoding request.schemaId = track.frameEncoding :=
    Option.some.inj registers.encoding
  refine ⟨registers.topic, ?_, ?_⟩
  · rw [registers.track]
    exact sameType
  rw [← framed]
  have json := rendered.schemaEncoding_iff
  rw [sameEncoding] at json
  by_cases sends : route.encoding = .jsonSchema
  · simp [decodesJson, sendsJson, publishedFrameEncoding, DefinitionRequest.schemaId, json.mpr sends, sends]
  · have other : request.schemaEncoding ≠ .jsonSchema := fun same => sends (json.mp same)
    simp [decodesJson, sendsJson, publishedFrameEncoding, DefinitionRequest.schemaId, other, sends]

/-- What the reader makes of a frame, for a message that the sender could send. -/
theorem message_of_payload {Message : Type} {decode : String → Bytes → Option Message}
    (inverse : Inverse route.codec route.serializer decode) {track : InboundDataTrack}
    (continues : Continues route track) {message payload : Bytes}
    (sent : outboundFrame route.codec route.serializer route.encoding route.topicType message = .ok payload)
    (finite : sendsJson route.encoding = true → ∀ root,
      route.serializer.deserialize route.topicType message = .ok root → root.Finite) :
    (Fits route message ∧ ∃ back,
        Inbound.DataTrackReader.message route.codec route.serializer (readerState track) payload = some back ∧
        decode route.topicType back = decode route.topicType message) ∨
      ¬ Fits route message ∧
        Inbound.DataTrackReader.message route.codec route.serializer (readerState track) payload = none := by
  have encoding := continues.encoding
  unfold outboundFrame at sent
  unfold Fits
  cases json : sendsJson route.encoding with
  | false =>
      rw [json] at sent encoding
      cases sent
      have other : track.frameEncoding ≠ .json := by simpa [decodesJson] using encoding
      by_cases empty : message = []
      · exact .inr (by simp [Inbound.DataTrackReader.message, readerState, other, empty])
      · refine .inl ⟨by simpa using empty, message, ?_, rfl⟩
        simp [Inbound.DataTrackReader.message, readerState, other, empty]
  | true =>
      rw [json] at sent encoding
      have framed : track.frameEncoding = .json := by simpa [decodesJson] using encoding
      obtain ⟨root, converted, dumped⟩ := sent_cases sent
      have parsed := inverse.reads converted (finite json root converted) dumped
      have accepts := fun back => serializedMessageFromJson_of_parse route.serializer route.topicType back
        (inverse.nonempty dumped) parsed
      simp only [Inbound.DataTrackReader.message, readerState, framed, continues.type, if_true]
      by_cases fits : FitsReceiver route.codec route.serializer route.topicType message
      · obtain ⟨other, text, otherConverted, otherDumped, object, short, within⟩ := fits
        cases converted.symm.trans otherConverted
        cases dumped.symm.trans otherDumped
        obtain ⟨back, serialized, same⟩ := inverse.writes converted (finite json root converted)
        have small : containsOversizedSequence root = false := by
          rw [Bool.eq_false_iff]
          intro oversized
          obtain ⟨entries, found, long⟩ := containsOversizedSequence_iff.mp oversized
          exact absurd (within entries found) (Nat.not_le.mpr long)
        refine .inl ⟨⟨root, payload, converted, dumped, object, short, within⟩, back, ?_, same⟩
        rw [(accepts back).mpr ⟨short, object, small, serialized⟩]
        rfl
      · refine .inr ⟨fits, ?_⟩
        cases received : serializedMessageFromJson route.codec route.serializer route.topicType payload with
        | error _ => rfl
        | ok back =>
            obtain ⟨short, object, within, _⟩ := (accepts back).mp received
            refine absurd ⟨root, payload, converted, dumped, object, short, ?_⟩ fits
            intro entries found
            by_contra long
            rw [oversized_of_within found (Nat.not_le.mp long)] at within
            cases within

end Route

section Run

variable {Hash : Type} {route : Route Hash} {state next : State}

/-- What the reader publishes for the frames that it has read. -/
def received (route : Route Hash) (track : InboundDataTrack) (frames : List Frame) : List Bytes :=
  (framesRead frames).filterMap fun frame =>
    Inbound.DataTrackReader.message route.codec route.serializer (readerState track) frame.payload

structure Invariant (route : Route Hash) (state : State) : Prop where
  encoding : state.sender.encoding = route.encoding
  schema : ∀ schemaId ∈ state.schema, Advertises route schemaId
  contents : ∀ content ∈ state.frames.map Frame.content,
    outboundFrame route.codec route.serializer route.encoding route.topicType content.1 = .ok content.2 ∧
      (sendsJson route.encoding = true → ∀ root,
        route.serializer.deserialize route.topicType content.1 = .ok root → root.Finite)
  inHand : ∀ sample ∈ state.inHand, sample.2 = route.encoding ∧ (sendsJson route.encoding = true → ∀ root,
    route.serializer.deserialize route.topicType sample.1 = .ok root → root.Finite)
  order : InOrder state.frames
  track : ∀ track ∈ state.track, Continues route track
  unread : state.track = none → framesRead state.frames = [] ∧ state.reading = {}
  publishes : ∀ track ∈ state.track,
    state.reading.publishes.map Prod.fst = received route track state.frames

theorem invariant_initial (route : Route Hash) : Invariant route (initial route) where
  encoding := rfl
  schema := nofun
  contents := nofun
  inHand := nofun
  order := trivial
  track := nofun
  unread := fun _ => ⟨rfl, rfl⟩
  publishes := nofun

theorem Invariant.push (inv : Invariant route state) {message : Bytes} {pushed : Bool}
    (finite : sendsJson route.encoding = true → ∀ root,
      route.serializer.deserialize route.topicType message = .ok root → root.Finite) :
    Invariant route (pushFrame route state message route.encoding pushed) := by
  unfold pushFrame
  split
  · exact inv
  next payload converted =>
    cases pushed with
    | false => exact inv
    | true =>
        have unread : framesRead (state.frames ++ [⟨message, payload, .inFlight⟩]) = framesRead state.frames := by
          simp [framesRead]
        exact
          { inv with
            contents := by
              intro content member
              simp only [if_true, List.map_append, List.mem_append, List.map_cons, List.map_nil,
                List.mem_singleton] at member
              rcases member with earlier | rfl
              · exact inv.contents content earlier
              · exact ⟨converted, finite⟩
            order := inOrder_append inv.order rfl
            unread := fun without => by
              rw [if_pos rfl, unread]
              exact inv.unread without
            publishes := fun track found => by
              simp only [if_true, received, unread]
              exact inv.publishes track found }

/-- What an execution of the callback leaves, as far as it has the lock. -/
theorem takeSample_cases (state : State) (message : Bytes) (forwarded : Bool) (now : Int) (attempt : WriterAttempt) :
    ∃ sender schema hands, takeSample state message forwarded now attempt =
        { state with sender, schema, samples := state.samples ++ [message], inHand := state.inHand ++ hands } ∧
      sender.encoding = state.sender.encoding ∧ (schema = state.schema ∨ schema = attempt.schema) ∧
      (hands = [] ∨ hands = [(message, state.sender.encoding)]) := by
  unfold takeSample admitSample
  cases forwarded with
  | false =>
      refine ⟨state.sender, state.schema, [], ?_, rfl, .inl rfl, .inl rfl⟩
      rw [List.append_nil]
      rfl
  | true =>
      obtain ⟨_, entered⟩ := enter_state state.sender now attempt
      have encoding : (state.sender.enter now attempt).1.encoding = state.sender.encoding := by
        rw [entered]
        exact rateCap_encoding
      let made := state.sender.writer = none && (state.sender.enter now attempt).1.writer.isSome
      have origin : (if made then attempt.schema else state.schema) = state.schema ∨
          (if made then attempt.schema else state.schema) = attempt.schema := by
        cases made
        · exact .inl rfl
        · exact .inr rfl
      rw [if_pos rfl]
      rcases enter_cases state.sender now attempt with ⟨_, same⟩ | ⟨_, _, same⟩ | ⟨writer, _, _, _, same⟩
      · refine ⟨_, _, [], ?_, encoding, origin, .inl rfl⟩
        simp only [same, List.append_nil, made]
      · refine ⟨_, _, [], ?_, encoding, origin, .inl rfl⟩
        simp only [same, List.append_nil, made]
      · refine ⟨_, _, [(message, state.sender.encoding)], ?_, encoding, origin, .inr rfl⟩
        simp only [same, made]

theorem Invariant.sample (inv : Invariant route state) {message : Bytes} {forwarded : Bool} {now : Int}
    {attempt : WriterAttempt} (ensured : ∀ schemaId ∈ attempt.schema, Advertises route schemaId)
    (finite : sendsJson route.encoding = true → ∀ root,
      route.serializer.deserialize route.topicType message = .ok root → root.Finite) :
    Invariant route (takeSample state message forwarded now attempt) := by
  obtain ⟨sender, schema, hands, same, encoding, origin, added⟩ :=
    takeSample_cases state message forwarded now attempt
  rw [same]
  exact
    { inv with
      encoding := encoding.trans inv.encoding
      schema := by
        rcases origin with rfl | rfl
        · exact inv.schema
        · exact ensured
      inHand := by
        intro sample member
        rcases List.mem_append.mp member with earlier | new
        · exact inv.inHand sample earlier
        · rcases added with rfl | rfl
          · cases new
          · rw [List.mem_singleton.mp new]
            exact ⟨inv.encoding, finite⟩ }

theorem Invariant.pushSample (inv : Invariant route state) {index : Nat} {pushed : Bool}
    (stepped : pushSample? route state index pushed = some next) : Invariant route next := by
  obtain ⟨sample, found, rfl⟩ := Option.map_eq_some_iff.mp stepped
  obtain ⟨encoding, finite⟩ := inv.inHand sample (List.mem_of_getElem? found)
  rw [encoding]
  have rest : Invariant route { state with inHand := state.inHand.eraseIdx index } :=
    { inv with inHand := fun other member => inv.inHand other (List.mem_of_mem_eraseIdx member) }
  exact rest.push finite

theorem Invariant.lose (inv : Invariant route state) (index : Nat) :
    Invariant route { state with frames := loseFrame state.frames index } := by
  obtain ⟨read, content, ordered⟩ := loseFrame_spec state.frames index
  exact
    { inv with
      contents := by
        rw [content]
        exact inv.contents
      order := ordered inv.order
      unread := fun without => by
        rw [read]
        exact inv.unread without
      publishes := fun track found => by
        simp only [received, read]
        exact inv.publishes track found }

theorem Invariant.announce [DecidableEq Hash] (inv : Invariant route state) {retrieval : Retrieval}
    {setup : Setup} (announced : announceTrack? route state retrieval setup = some next) :
    Invariant route next := by
  unfold announceTrack? at announced
  split at announced
  next schemaId advertised fresh =>
    split at announced
    next track registered =>
      cases announced
      obtain ⟨read, reading⟩ := inv.unread fresh
      exact
        { inv with
          track := fun other found => by
            cases found
            exact continues_of_registered (inv.schema schemaId advertised) registered
          unread := nofun
          publishes := fun other found => by
            simp [reading, received, read] }
    · cases announced
      exact inv
  · cases announced

theorem publishes_readFrame (codec : Codec) (serializer : JsonSerializer) (reader : InboundDataTrackState)
    (reading : Reading) (turn : Turn) :
    (readFrame codec serializer reader reading turn).1.publishes.map Prod.fst =
      reading.publishes.map Prod.fst ++
        if turn.available then (Inbound.DataTrackReader.message codec serializer reader turn.payload).toList
        else [] := by
  cases available : turn.available with
  | false => simp [readFrame, available]
  | true =>
      by_cases whole : reader.frameEncoding = .json ∨ turn.payload ≠ []
      · rw [readFrame_of_available reading available whole]
        cases formed : Inbound.DataTrackReader.message codec serializer reader turn.payload <;>
          simp [absorb, formed, Reading.publish, Reading.countFailure]
      · simp only [not_or, ne_eq, not_not] at whole
        rw [readFrame_empty reading available whole.1 whole.2]
        simp [Inbound.DataTrackReader.message, whole, Reading.countFailure]

theorem Invariant.read (inv : Invariant route state) {available throws : Bool}
    (turned : readTurn? route state available throws = some next) : Invariant route next := by
  unfold readTurn? at turned
  cases registered : state.track with
  | none => simp [registered] at turned
  | some track =>
      rw [registered] at turned
      dsimp only at turned
      by_cases ended : state.ended = true
      · rw [if_pos ended] at turned
        cases turned
      rw [if_neg ended] at turned
      obtain ⟨⟨taken, frames⟩, took, rfl⟩ := Option.map_eq_some_iff.mp turned
      have settled : (if available = true then Fate.read else Fate.skipped) ≠ .inFlight := by
        cases available <;> decide
      obtain ⟨read, ordered⟩ := takeFrame_spec took settled inv.order
      exact
        { inv with
          contents := by
            rw [content_takeFrame took]
            exact inv.contents
          order := ordered
          track := by
            intro other found
            cases found
            exact inv.track track registered
          unread := nofun
          publishes := by
            intro other found
            cases found
            have before := inv.publishes track registered
            simp only [publishes_readFrame, before, received, read, List.filterMap_append]
            cases available with
            | false => simp
            | true =>
                cases formed : Inbound.DataTrackReader.message route.codec route.serializer
                  (readerState track) taken.payload <;> simp [formed] }

theorem invariant_of_run [DecidableEq Hash]
    (run : (machine route).Run (FiniteSamples route) (initial route) state) : Invariant route state := by
  refine run.invariant (invariant_initial route) ?_
  intro state next label inv finite stepped
  cases label with
  | sample message forwarded now roomAvailable defined published =>
      cases stepped
      exact inv.sample (fun _ ensured => advertises_of_ensured ensured) finite
  | push index pushed => exact inv.pushSample stepped
  | announce retrieval setup => exact inv.announce stepped
  | lose index =>
      cases stepped
      exact inv.lose index
  | read available throws => exact inv.read stepped

open scoped Classical in
theorem received_decoded {Message : Type} {decode : String → Bytes → Option Message}
    (inverse : Inverse route.codec route.serializer decode) {track : InboundDataTrack}
    (continues : Continues route track) {frames : List Frame}
    (contents : ∀ frame ∈ frames,
      outboundFrame route.codec route.serializer route.encoding route.topicType frame.message =
          .ok frame.payload ∧
        (sendsJson route.encoding = true → ∀ root,
          route.serializer.deserialize route.topicType frame.message = .ok root → root.Finite)) :
    (received route track frames).map (decode route.topicType) =
      (frames.filter fun frame => frame.fate = .read ∧ Fits route frame.message).map fun frame =>
        decode route.topicType frame.message := by
  induction frames with
  | nil => rfl
  | cons frame frames ih =>
      have later := ih fun other member => contents other (List.mem_cons_of_mem _ member)
      obtain ⟨sent, finite⟩ := contents frame List.mem_cons_self
      unfold received at later ⊢
      rw [framesRead_cons, List.filterMap_append, List.map_append, later, List.filter_cons]
      by_cases read : frame.fate = .read
      · rcases message_of_payload inverse continues sent finite with ⟨fits, back, formed, same⟩ | ⟨misfit, formed⟩
        · simp [read, fits, formed, same]
        · simp [read, misfit, formed]
      · simp [read]

open scoped Classical in
theorem arrived_eq_nil (unread : framesRead state.frames = []) : arrived route state = [] := by
  unfold framesRead at unread
  rw [List.filter_eq_nil_iff] at unread
  rw [arrived, List.filter_eq_nil_iff]
  intro frame member read
  rw [decide_eq_true_eq] at read
  exact unread frame member (decide_eq_true read.1)

/-- The messages of the frames, in the order of the pushes, and after them those in hand. -/
def carried (state : State) : List Bytes := state.frames.map Frame.message ++ state.inHand.map Prod.fst

theorem messages_of_content {frames others : List Frame}
    (content : frames.map Frame.content = others.map Frame.content) :
    frames.map Frame.message = others.map Frame.message := by
  have messages := congrArg (List.map Prod.fst) content
  rw [List.map_map, List.map_map] at messages
  exact messages

/-- A push adds its message to those of the frames, or nothing. -/
theorem pushFrame_cases (route : Route Hash) (state : State) (message : Bytes) (encoding : OutboundEncoding) (pushed : Bool) :
    ∃ frames, pushFrame route state message encoding pushed = { state with frames } ∧
      ∃ new, frames.map Frame.message = state.frames.map Frame.message ++ new ∧ new.Sublist [message] := by
  unfold pushFrame
  split
  · exact ⟨state.frames, rfl, [], (List.append_nil _).symm, List.nil_sublist _⟩
  next payload _ =>
    cases pushed with
    | false => exact ⟨state.frames, rfl, [], (List.append_nil _).symm, List.nil_sublist _⟩
    | true => exact ⟨_, rfl, [message], by simp, .refl _⟩

/-- What a step makes of the messages: a sample may come into a hand, a push takes one out of a hand and may
put it behind the frames, and no other step moves one. -/
inductive Moves (state next : State) : Label → Prop where
  | taken {message forwarded now roomAvailable defined published} (hands : List Bytes)
      (samples : next.samples = state.samples ++ [message])
      (frames : next.frames.map Frame.message = state.frames.map Frame.message)
      (inHand : next.inHand.map Prod.fst = state.inHand.map Prod.fst ++ hands)
      (new : hands.Sublist [message]) :
      Moves state next (.sample message forwarded now roomAvailable defined published)
  | pushed {index pushed} (sample : Bytes × OutboundEncoding) (found : state.inHand[index]? = some sample)
      (samples : next.samples = state.samples) (new : List Bytes)
      (frames : next.frames.map Frame.message = state.frames.map Frame.message ++ new)
      (inHand : next.inHand = state.inHand.eraseIdx index) (one : new.Sublist [sample.1]) :
      Moves state next (.push index pushed)
  | kept {label} (samples : next.samples = state.samples)
      (frames : next.frames.map Frame.message = state.frames.map Frame.message)
      (inHand : next.inHand = state.inHand) : Moves state next label

theorem moves_of_step [DecidableEq Hash] {label : Label}
    (stepped : (machine route).step? state label = some next) : Moves state next label := by
  cases label with
  | sample message forwarded now roomAvailable defined published =>
      cases stepped
      obtain ⟨sender, schema, hands, same, _, _, added⟩ := takeSample_cases state message forwarded now
        ⟨roomAvailable, ensureSchemaDefined route route.encoding defined, published⟩
      rw [same]
      refine .taken (hands.map Prod.fst) rfl rfl List.map_append ?_
      rcases added with rfl | rfl
      · exact List.nil_sublist _
      · exact .refl _
  | push index pushed =>
      obtain ⟨sample, found, rfl⟩ := Option.map_eq_some_iff.mp stepped
      obtain ⟨frames, same, new, messages, one⟩ :=
        pushFrame_cases route { state with inHand := state.inHand.eraseIdx index } sample.1 sample.2 pushed
      rw [same]
      exact .pushed sample found rfl new messages rfl one
  | announce retrieval setup =>
      change announceTrack? route state retrieval setup = some next at stepped
      unfold announceTrack? at stepped
      split at stepped
      next =>
        split at stepped <;> cases stepped <;> exact .kept rfl rfl rfl
      next => cases stepped
  | lose index =>
      cases stepped
      exact .kept rfl (messages_of_content (loseFrame_spec state.frames index).2.1) rfl
  | read available throws =>
      change readTurn? route state available throws = some next at stepped
      unfold readTurn? at stepped
      split at stepped
      · cases stepped
      split at stepped
      · cases stepped
      obtain ⟨taken, took, rfl⟩ := Option.map_eq_some_iff.mp stepped
      exact .kept rfl (messages_of_content (content_takeFrame took)) rfl

/-- In every run, no message is in more frames than there are samples of it. -/
theorem carried_subperm [DecidableEq Hash] (reached : (machine route).Reaches (initial route) state) :
    (carried state).Subperm state.samples := by
  induction reached with
  | refl => exact List.nil_subperm
  | @step state next label _ _ stepped held =>
      cases moves_of_step stepped with
      | taken hands samples frames inHand new =>
          have grown : carried next = carried state ++ hands := by
            rw [carried, frames, inHand, carried, List.append_assoc]
          rw [grown, samples]
          exact List.Subperm.append held new.subperm
      | pushed sample found samples new frames inHand one =>
          obtain ⟨inside, rfl⟩ := List.getElem?_eq_some_iff.mp found
          have whole := (List.getElem_cons_eraseIdx_perm inside).map Prod.fst
          have rest : (new ++ next.inHand.map Prod.fst).Subperm (state.inHand.map Prod.fst) := by
            rw [inHand]
            exact (List.Subperm.append one.subperm (List.Subperm.refl _)).trans whole.subperm
          rw [samples]
          refine List.Subperm.trans ?_ held
          rw [carried, frames, carried, List.append_assoc, List.subperm_append_left]
          exact rest
      | kept samples frames inHand =>
          rw [carried, samples, frames, inHand]
          exact held

/-- With one execution of the callback at a time, the frames are in the order of the samples. -/
theorem carried_sublist [DecidableEq Hash] (run : (machine route).Run OneAtATime (initial route) state) :
    state.inHand.length ≤ 1 ∧ (carried state).Sublist state.samples := by
  induction run with
  | refl => exact ⟨Nat.zero_le _, List.nil_sublist _⟩
  | @step state next label _ free stepped ih =>
      obtain ⟨few, held⟩ := ih
      cases moves_of_step stepped with
      | taken hands samples frames inHand new =>
          have empty : state.inHand = [] := free
          rw [empty, List.map_nil, List.nil_append] at inHand
          rw [carried, empty, List.map_nil, List.append_nil] at held
          refine ⟨?_, ?_⟩
          · have counted := congrArg List.length inHand
            rw [List.length_map] at counted
            rw [counted]
            exact new.length_le
          · rw [carried, frames, inHand, samples]
            exact held.append new
      | @pushed index pushed sample found samples new frames inHand one =>
          obtain ⟨inside, rfl⟩ := List.getElem?_eq_some_iff.mp found
          obtain rfl : index = 0 := by omega
          obtain ⟨only, single⟩ := List.length_eq_one_iff.mp (Nat.le_antisymm few inside)
          refine ⟨?_, ?_⟩
          · rw [inHand, single]
            exact Nat.zero_le _
          · rw [samples]
            refine List.Sublist.trans ?_ held
            rw [carried, frames, inHand, carried, single]
            simp only [single, List.getElem_cons_zero] at one
            simpa using one
      | kept samples frames inHand =>
          rw [carried, samples, frames, inHand]
          exact ⟨few, held⟩

end Run

/-- A topic of strings that is sent as JSON to a portal that takes every topic. -/
def chatter : Route String where
  topicName := "/chatter"
  topicType := "std_msgs/msg/String"
  encoding := .jsonSchema
  renderers := ⟨fun _ => none, fun _ => some "\x7b\x7d"⟩
  sid := "TR_1"
  publisherIdentity := "robot"
  receiver :=
    { options := ⟨[fun _ => true], [], []⟩
      topics := ⟨[("/rosout", ["rcl_interfaces/msg/Log"])], List.pairwise_singleton _ _⟩
      hashSchemaText := id
      renderSchema := fun _ => some ⟨"ros2msg", "string data"⟩ }
  codec := stringCodec
  serializer := stringSerializer

end RosPortal.Forwarding
