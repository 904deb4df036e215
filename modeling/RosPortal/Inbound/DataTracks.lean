import RosPortal.Naming.PreserveId
import RosPortal.Portal.Graph
import RosPortal.Schema.Agreement

/-! Which remote data tracks are accepted: the ROS type that is resolved for a track, and the
checks of `onDataTrackPublished` on the way to its registration. -/

set_option autoImplicit false

namespace RosPortal.Inbound.DataTracks

open JsonText Naming Portal Schema

def octets (text : String) : Bytes := text.toUTF8.data.toList

structure RemoteDataTrackDescriptor where
  sid : String
  trackName : String
  publisherIdentity : String
  schema : Option DataTrackSchemaId
  frameEncoding : Option DataTrackFrameEncoding
  subscribeIsSet : Bool := true
deriving DecidableEq, Repr

/-- `InboundDataTrackState` without its handles. -/
structure InboundDataTrack where
  sid : String
  trackName : String
  publisherIdentity : String
  rosTopicName : Bytes
  rosTopicType : String
  frameEncoding : DataTrackFrameEncoding
deriving DecidableEq, Repr

def findTypes (topics : TopicNamesAndTypes) (name : Bytes) : List String :=
  ((topics.entries.find? fun entry => octets entry.1 = name).map Prod.snd).getD []

/-- The part of `resolveInboundRosTopicType` behind the lookup in the snapshot, in which a
topic without types is treated as one that is not there. -/
def chooseType (types : List String) (schema : Option DataTrackSchemaId) : Option String :=
  match types with
  | [] =>
      match schema with
      | some schemaId => if schemaId.name ≠ "" then some schemaId.name else none
      | none => none
  | [only] => some only
  | front :: more =>
      match schema with
      | some schemaId => if (front :: more).contains schemaId.name then some schemaId.name else some front
      | none => some front

def resolveInboundRosTopicType (topics : TopicNamesAndTypes) (trackName : String)
    (schema : Option DataTrackSchemaId) : Option String :=
  match normalizeTrackTopicName (octets trackName) with
  | none => none
  | some normalized => chooseType (findTypes topics normalized) schema

/-- What the calls of `onDataTrackPublished` to the ROS graph and to the SDK come to. -/
structure Setup where
  publisherCreated : Bool := true
  streamOpened : Bool := true
  threadStarted : Bool := true
deriving DecidableEq, Repr

/-- What becomes of a track: it is ignored, which may count as an inbound failure; its schema
is rejected; its SID is there already; a handle cannot be made; or it is registered. -/
inductive Reception where
  | ignored (inboundFailure : Bool)
  | rejected (counter : RejectionCounter) (reason : String)
  | known
  | failed
  | registered (track : InboundDataTrack)
deriving DecidableEq, Repr

/-- The local portal as `onDataTrackPublished` sees it. -/
structure Receiver (Hash : Type) where
  options : ForwarderOptions
  topics : TopicNamesAndTypes
  hashSchemaText : String → Hash
  renderSchema : String → Option RosMessageSchema
  registered : List String := []

section Reception

variable {Hash : Type} [DecidableEq Hash] (receiver : Receiver Hash)
  (getSchema : DataTrackSchemaId → String → Retrieval) (setup : Setup)
  (descriptor : RemoteDataTrackDescriptor)

def register (track : InboundDataTrack) : Reception :=
  if receiver.registered.contains descriptor.sid then .known
  else if setup.publisherCreated && setup.streamOpened && setup.threadStarted then .registered track
  else .failed

/-- `onDataTrackPublished` once the type is resolved and the schema is valid. -/
def nameTrack (normalized : Bytes) (topicType : String) : Reception :=
  match inboundTopicName (matchesAnyPattern normalized receiver.options.preserveIdTopicPatterns)
      (octets descriptor.publisherIdentity) (octets descriptor.trackName) with
  | none => .ignored true
  | some rosTopicName =>
      if !descriptor.subscribeIsSet then .ignored false
      else
        match descriptor.frameEncoding with
        | none => .ignored false
        | some frameEncoding =>
            register receiver setup descriptor
              ⟨descriptor.sid, descriptor.trackName, descriptor.publisherIdentity, rosTopicName, topicType,
                frameEncoding⟩

def onDataTrackPublished : Reception :=
  if descriptor.sid = "" then .ignored false
  else
    match normalizeTrackTopicName (octets descriptor.trackName) with
    | none => .ignored false
    | some normalized =>
        if !isIncomingTopicAllowed receiver.options normalized then .ignored true
        else
          match resolveInboundRosTopicType receiver.topics descriptor.trackName descriptor.schema with
          | none => .ignored true
          | some topicType =>
              match validateInboundSchema receiver.hashSchemaText receiver.renderSchema getSchema
                  ⟨descriptor.trackName, descriptor.publisherIdentity, topicType, descriptor.schema,
                    descriptor.frameEncoding⟩ with
              | .rejected counter reason => .rejected counter reason
              | .accepted => nameTrack receiver setup descriptor normalized topicType

end Reception

/-- A topic may carry a type if ROS has it there already, or nothing else. -/
def TypeFits (types : List String) (topicType : String) : Prop :=
  topicType ∈ types ∨ types = [] ∧ topicType ≠ ""

instance (types : List String) (topicType : String) : Decidable (TypeFits types topicType) :=
  inferInstanceAs (Decidable (_ ∨ _))

/-- A definition the receiver can decode frames with: any that it can render itself for JSON
frames of a JSON schema, and its own one otherwise. -/
def DefinitionFits (renderSchema : String → Option RosMessageSchema)
    (getSchema : DataTrackSchemaId → String → Retrieval) (publisherIdentity : String)
    (schemaId : DataTrackSchemaId) (frameEncoding : DataTrackFrameEncoding) : Prop :=
  ∃ localSchema, renderSchema schemaId.name = some localSchema ∧
    (schemaId.encoding = .jsonSchema ∧ frameEncoding = .json ∨
      schemaEncodingFromRosDefinition localSchema.encoding = some schemaId.encoding ∧
        (frameEncoding = .cdr ∨ frameEncoding = .json) ∧
        getSchema schemaId publisherIdentity = .returned (some localSchema.text))

section Types

variable {types : List String} {topicType : String} {schema : Option DataTrackSchemaId}

/-- The type that is chosen is that of the schema exactly if the topic may carry it. -/
theorem chooseType_schema (types : List String) (schemaId : DataTrackSchemaId) :
    chooseType types (some schemaId) = some schemaId.name ↔ TypeFits types schemaId.name := by
  match types with
  | [] => simp [chooseType, TypeFits]
  | [only] => simpa [chooseType, TypeFits] using eq_comm
  | front :: second :: more =>
      simp only [chooseType, TypeFits, reduceCtorEq, false_and, or_false, List.contains_iff_mem]
      split_ifs with listed
      · simp [listed]
      · simp only [Option.some.injEq, listed, iff_false]
        intro same
        exact listed (same ▸ List.mem_cons_self)

end Types

section Validation

variable {Hash : Type} [DecidableEq Hash] {hashSchemaText : String → Hash}
  {renderSchema : String → Option RosMessageSchema} {getSchema : DataTrackSchemaId → String → Retrieval}
  {context : InboundSchemaContext}

/-- What every accepted track advertises. -/
theorem accepted_advertises
    (accepted : validateInboundSchema hashSchemaText renderSchema getSchema context = .accepted) :
    ∃ schemaId frameEncoding, context.schema = some schemaId ∧ context.frameEncoding = some frameEncoding ∧
      (frameEncoding = .cdr ∨ frameEncoding = .json) ∧ schemaId.name = context.topicType ∧
      (schemaId.encoding = .jsonSchema ∨ schemaId.encoding = .ros2Msg ∨ schemaId.encoding = .ros2Idl) := by
  unfold validateInboundSchema at accepted
  cases encoded : context.frameEncoding with
  | none => simp [encoded] at accepted
  | some frameEncoding =>
      cases advertised : context.schema with
      | none =>
          simp only [encoded, advertised] at accepted
          split_ifs at accepted
      | some schemaId =>
          simp only [encoded, advertised] at accepted
          refine ⟨schemaId, frameEncoding, rfl, rfl, ?_⟩
          by_cases framed : frameEncoding = .cdr ∨ frameEncoding = .json
          · rw [if_neg (by tauto)] at accepted
            by_cases named : schemaId.name = context.topicType
            · rw [if_neg (not_not.mpr named)] at accepted
              refine ⟨framed, named, ?_⟩
              by_cases json : schemaId.encoding = .jsonSchema
              · exact .inl json
              · rw [if_neg json] at accepted
                by_contra other
                rw [if_pos (by tauto)] at accepted
                cases accepted
            · rw [if_pos named] at accepted
              cases accepted
          · rw [if_pos (by tauto)] at accepted
            cases accepted

theorem accepted_json {schemaId : DataTrackSchemaId} {frameEncoding : DataTrackFrameEncoding}
    (advertised : context.schema = some schemaId) (encoded : context.frameEncoding = some frameEncoding)
    (json : schemaId.encoding = .jsonSchema) (named : schemaId.name = context.topicType) :
    validateInboundSchema hashSchemaText renderSchema getSchema context = .accepted ↔
      frameEncoding = .json ∧ ∃ localSchema, renderSchema context.topicType = some localSchema := by
  by_cases framed : frameEncoding = .json
  · subst framed
    cases rendered : renderSchema context.topicType <;>
      simp [validateInboundSchema, encoded, advertised, named, json, rendered]
  · by_cases cdr : frameEncoding = .cdr
    · simp [validateInboundSchema, encoded, advertised, named, json, cdr]
    · simp [validateInboundSchema, encoded, framed, cdr]

/-- A track passes exactly if it names the resolved type and its definition fits. -/
theorem validateInboundSchema_accepted :
    validateInboundSchema hashSchemaText renderSchema getSchema context = .accepted ↔
      ∃ schemaId frameEncoding, context.schema = some schemaId ∧ context.frameEncoding = some frameEncoding ∧
        schemaId.name = context.topicType ∧
        DefinitionFits renderSchema getSchema context.participantIdentity schemaId frameEncoding := by
  constructor
  · intro accepted
    obtain ⟨schemaId, frameEncoding, advertised, encoded, framed, named, encodings⟩ :=
      accepted_advertises accepted
    refine ⟨schemaId, frameEncoding, advertised, encoded, named, ?_⟩
    unfold DefinitionFits
    rw [named]
    rcases encodings with json | ros
    · obtain ⟨framed, localSchema, rendered⟩ := (accepted_json advertised encoded json named).mp accepted
      exact ⟨localSchema, rendered, .inl ⟨json, framed⟩⟩
    · obtain ⟨_, _, definition⟩ := (validateInboundSchema_ros schemaId advertised ros).mp accepted
      obtain ⟨localSchema, rendered, fetched, encodings⟩ := validateDefinition_accepted.mp definition
      refine ⟨localSchema, rendered, .inr ⟨?_, framed, fetched⟩⟩
      rcases encodings with ⟨msg, text⟩ | ⟨idl, text⟩
      · rw [msg, text]
        rfl
      · rw [idl, text]
        rfl
  · rintro ⟨schemaId, frameEncoding, advertised, encoded, named, localSchema, rendered, fits⟩
    rw [named] at rendered
    rcases fits with ⟨json, framed⟩ | ⟨known, framed, fetched⟩
    · exact (accepted_json advertised encoded json named).mpr ⟨framed, localSchema, rendered⟩
    · have encodings := schemaEncoding_cases known
      refine (validateInboundSchema_ros schemaId advertised (encodings.symm.imp And.left And.left)).mpr ?_
      refine ⟨framed.imp (fun cdr => ?_) fun json => ?_, named, ?_⟩
      · rw [encoded, cdr]
      · rw [encoded, json]
      · exact validateDefinition_accepted.mpr ⟨localSchema, rendered, fetched, encodings.symm⟩

end Validation

section Reception

variable {Hash : Type} {receiver : Receiver Hash} {getSchema : DataTrackSchemaId → String → Retrieval}
  {setup : Setup} {descriptor : RemoteDataTrackDescriptor} {track : InboundDataTrack}

theorem register_registered {candidate : InboundDataTrack} :
    register receiver setup descriptor candidate = .registered track ↔
      descriptor.sid ∉ receiver.registered ∧ setup = {} ∧ track = candidate := by
  obtain ⟨publisherCreated, streamOpened, threadStarted⟩ := setup
  unfold register
  by_cases known : receiver.registered.contains descriptor.sid = true
  · rw [if_pos known]
    simp [List.contains_iff_mem.mp known]
  · rw [if_neg known]
    rw [List.contains_iff_mem] at known
    cases publisherCreated <;> cases streamOpened <;> cases threadStarted <;> simp [known, eq_comm]

theorem nameTrack_registered {normalized : Bytes} {topicType : String} :
    nameTrack receiver setup descriptor normalized topicType = .registered track ↔
      ∃ rosTopicName frameEncoding,
        inboundTopicName (matchesAnyPattern normalized receiver.options.preserveIdTopicPatterns)
          (octets descriptor.publisherIdentity) (octets descriptor.trackName) = some rosTopicName ∧
        descriptor.subscribeIsSet = true ∧ descriptor.frameEncoding = some frameEncoding ∧
        descriptor.sid ∉ receiver.registered ∧ setup = {} ∧
        track = ⟨descriptor.sid, descriptor.trackName, descriptor.publisherIdentity, rosTopicName, topicType,
          frameEncoding⟩ := by
  unfold nameTrack
  cases named : inboundTopicName (matchesAnyPattern normalized receiver.options.preserveIdTopicPatterns)
      (octets descriptor.publisherIdentity) (octets descriptor.trackName) with
  | none => simp
  | some rosTopicName =>
      cases descriptor.subscribeIsSet with
      | false => simp
      | true =>
          cases descriptor.frameEncoding with
          | none => simp
          | some frameEncoding => simp [register_registered]

/-- All that holds where a track is registered. -/
structure Registers (receiver : Receiver Hash) (getSchema : DataTrackSchemaId → String → Retrieval)
    (descriptor : RemoteDataTrackDescriptor) (normalized : Bytes) (schemaId : DataTrackSchemaId)
    (track : InboundDataTrack) : Prop where
  sid : descriptor.sid ≠ "" ∧ descriptor.sid ∉ receiver.registered
  name : normalizeTrackTopicName (octets descriptor.trackName) = some normalized
  schema : descriptor.schema = some schemaId
  encoding : descriptor.frameEncoding = some track.frameEncoding
  topic : dataTrackTopic receiver.options (octets descriptor.publisherIdentity)
    (octets descriptor.trackName) = some track.rosTopicName
  type : TypeFits (findTypes receiver.topics normalized) schemaId.name
  definition : DefinitionFits receiver.renderSchema getSchema descriptor.publisherIdentity schemaId
    track.frameEncoding
  track : track = ⟨descriptor.sid, descriptor.trackName, descriptor.publisherIdentity, track.rosTopicName,
    schemaId.name, track.frameEncoding⟩

theorem allowed_of_topic {options : ForwarderOptions} {identity name normalized topic : Bytes}
    (normal : normalizeTrackTopicName name = some normalized)
    (found : dataTrackTopic options identity name = some topic) :
    isIncomingTopicAllowed options normalized = true ∧
      inboundTopicName (matchesAnyPattern normalized options.preserveIdTopicPatterns) identity name =
        some topic := by
  unfold dataTrackTopic at found
  simp only [normal] at found
  split_ifs at found with allowed
  exact ⟨allowed, found⟩

theorem resolve_eq {topics : TopicNamesAndTypes} {trackName : String} {schema : Option DataTrackSchemaId}
    {normalized : Bytes} (normal : normalizeTrackTopicName (octets trackName) = some normalized) :
    resolveInboundRosTopicType topics trackName schema = chooseType (findTypes topics normalized) schema := by
  simp only [resolveInboundRosTopicType, normal]

theorem registers_of_registered [DecidableEq Hash]
    (registered : onDataTrackPublished receiver getSchema setup descriptor = .registered track) :
    setup = {} ∧ descriptor.subscribeIsSet = true ∧
      ∃ normalized schemaId, Registers receiver getSchema descriptor normalized schemaId track := by
  unfold onDataTrackPublished at registered
  split_ifs at registered with named
  split at registered
  · cases registered
  next normalized normal =>
    split_ifs at registered with allowed
    split at registered
    · cases registered
    next topicType resolved =>
      split at registered
      · cases registered
      next accepted =>
        obtain ⟨schemaId, frameEncoding, advertised, encoded, sameType, fits⟩ :=
          validateInboundSchema_accepted.mp accepted
        obtain ⟨rosTopicName, _, topic, subscribes, framed, unknown, ready, rfl⟩ :=
          nameTrack_registered.mp registered
        cases encoded.symm.trans framed
        simp only at advertised sameType
        subst sameType
        rw [resolve_eq normal, advertised, chooseType_schema] at resolved
        rw [Bool.not_eq_true', Bool.not_eq_false] at allowed
        refine ⟨ready, subscribes, normalized, schemaId, ?_⟩
        refine ⟨⟨named, unknown⟩, normal, advertised, framed, ?_, resolved, fits, rfl⟩
        simp only [dataTrackTopic, normal, allowed, if_true, topic]

theorem registered_of_registers [DecidableEq Hash] {normalized : Bytes} {schemaId : DataTrackSchemaId}
    (subscribes : descriptor.subscribeIsSet = true)
    (registers : Registers receiver getSchema descriptor normalized schemaId track) :
    onDataTrackPublished receiver getSchema {} descriptor = .registered track := by
  obtain ⟨allowed, topic⟩ := allowed_of_topic registers.name registers.topic
  have resolved := (chooseType_schema _ schemaId).mpr registers.type
  rw [← registers.schema, ← resolve_eq registers.name] at resolved
  have accepted : validateInboundSchema receiver.hashSchemaText receiver.renderSchema getSchema
      ⟨descriptor.trackName, descriptor.publisherIdentity, schemaId.name, descriptor.schema,
        descriptor.frameEncoding⟩ = .accepted :=
    validateInboundSchema_accepted.mpr
      ⟨schemaId, track.frameEncoding, registers.schema, registers.encoding, rfl, registers.definition⟩
  unfold onDataTrackPublished
  simp only [registers.sid.1, registers.name, allowed, resolved, accepted, if_false, Bool.not_true,
    Bool.false_eq_true]
  exact nameTrack_registered.mpr
    ⟨track.rosTopicName, track.frameEncoding, topic, subscribes, registers.encoding, registers.sid.2, rfl,
      registers.track⟩

/-- A remote data track is registered exactly if its name is allowed, its schema names a type
that its topic may carry, and the receiver can decode frames by its definition; its publisher
then has the type that the schema names. -/
theorem onDataTrackPublished_registered_iff [DecidableEq Hash] (receiver : Receiver Hash)
    (getSchema : DataTrackSchemaId → String → Retrieval) (setup : Setup)
    (descriptor : RemoteDataTrackDescriptor) (track : InboundDataTrack) :
    onDataTrackPublished receiver getSchema setup descriptor = .registered track ↔
      setup = {} ∧ descriptor.subscribeIsSet = true ∧
        ∃ normalized schemaId, Registers receiver getSchema descriptor normalized schemaId track := by
  constructor
  · exact registers_of_registered
  · rintro ⟨rfl, subscribes, normalized, schemaId, registers⟩
    exact registered_of_registers subscribes registers

end Reception

end RosPortal.Inbound.DataTracks
