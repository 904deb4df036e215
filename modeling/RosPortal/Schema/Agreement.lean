import RosPortal.Introspection.Conversion
import RosPortal.Schema.Registration

/-! Sender and receiver of a data track agree on its schema and on its wire format. -/

set_option autoImplicit false

namespace RosPortal.Schema

open Interleaving JsonText Introspection

variable {Hash : Type} [DecidableEq Hash] {hashSchemaText : String → Hash}

section Frames

variable (codec : Codec) (serializer : JsonSerializer)

def sendsJson (encoding : OutboundEncoding) : Bool := encoding = .jsonSchema

/-- The frame that the callback of `createDataSubscriber` pushes. -/
def outboundFrame (encoding : OutboundEncoding) (topicType : String) (message : Bytes) :
    Except Bytes Bytes :=
  if sendsJson encoding then jsonFromSerializedMessage codec serializer topicType message
  else .ok message

def decodesJson (frameEncoding : DataTrackFrameEncoding) : Bool := frameEncoding = .json

/-- What `readInboundDataTrack` does with one frame. -/
inductive InboundFrame where
  | published (message : Bytes)
  | dropped (error : Bytes)
  | stopped
deriving DecidableEq, Repr

def inboundFrame (frameEncoding : DataTrackFrameEncoding) (topicType : String) (payload : Bytes) :
    InboundFrame :=
  if decodesJson frameEncoding then
    match serializedMessageFromJson codec serializer topicType payload with
    | .error error => .dropped error
    | .ok message => .published message
  else if payload = [] then .stopped
  else .published payload

end Frames

/-- The renderings a call works on are those of these renderers. -/
def RendersWith (renderers : Renderers) (_ : Config Hash) (label : Nat × Choice) : Prop :=
  match label.2 with
  | .call topicType _ renderedJson rendered =>
      renderedJson = renderers.renderJsonSchema topicType ∧
        rendered = renderers.renderSchema topicType
  | _ => True

instance (renderers : Renderers) (config : Config Hash) (label : Nat × Choice) :
    Decidable (RendersWith renderers config label) := by
  unfold RendersWith
  split <;> infer_instance

/-- The request is one that the renderers give rise to. -/
def Rendered (renderers : Renderers) (request : DefinitionRequest) : Prop :=
  requestDefinition request.topicType request.encoding (renderers.renderJsonSchema request.topicType)
    (renderers.renderSchema request.topicType) = .ok request

theorem requestDefinition_arguments {topicType : String} {encoding : OutboundEncoding}
    {renderedJson : Option String} {rendered : Option RosMessageSchema} {request : DefinitionRequest}
    (worked : requestDefinition topicType encoding renderedJson rendered = .ok request) :
    request.topicType = topicType ∧ request.encoding = encoding := by
  unfold requestDefinition at worked
  split_ifs at worked
  · cases renderedJson with
    | none => cases worked
    | some text =>
        cases worked
        exact ⟨rfl, rfl⟩
  · cases rendered with
    | none => cases worked
    | some schema =>
        simp only at worked
        split at worked
        · cases worked
        · split_ifs at worked
          cases worked
          exact ⟨rfl, rfl⟩

theorem Rendered.json {renderers : Renderers} {request : DefinitionRequest}
    (rendered : Rendered renderers request) (json : request.encoding = .jsonSchema) :
    request.schemaEncoding = .jsonSchema := by
  unfold Rendered requestDefinition at rendered
  rw [if_pos json] at rendered
  cases text : renderers.renderJsonSchema request.topicType with
  | none => simp [text] at rendered
  | some text' =>
      simp only [text, Except.ok.injEq] at rendered
      rw [← rendered]

/-- What the request holds when a ROS definition was asked for: the rendered text,
under the encoding that it was rendered in. -/
theorem Rendered.ros {renderers : Renderers} {request : DefinitionRequest}
    (rendered : Rendered renderers request) (ros : request.encoding ≠ .jsonSchema) :
    ∃ schema, renderers.renderSchema request.topicType = some schema ∧
      request.schemaText = schema.text ∧
      schemaEncodingFromRosDefinition schema.encoding = some request.schemaEncoding := by
  unfold Rendered requestDefinition at rendered
  rw [if_neg ros] at rendered
  cases found : renderers.renderSchema request.topicType with
  | none => simp [found] at rendered
  | some schema =>
      simp only [found] at rendered
      split at rendered
      · cases rendered
      next renderedEncoding known =>
        split_ifs at rendered
        simp only [Except.ok.injEq] at rendered
        rw [← rendered]
        exact ⟨schema, rfl, rfl, known⟩

theorem schemaEncoding_cases {encoding : String} {schemaEncoding : DataTrackSchemaEncoding}
    (known : schemaEncodingFromRosDefinition encoding = some schemaEncoding) :
    (schemaEncoding = .ros2Idl ∧ encoding = "ros2idl") ∨
      (schemaEncoding = .ros2Msg ∧ encoding = "ros2msg") := by
  unfold schemaEncodingFromRosDefinition at known
  split_ifs at known with idl msg
  · cases known
    exact .inl ⟨rfl, idl⟩
  · cases known
    exact .inr ⟨rfl, msg⟩

/-- A schema ID says JSON exactly when a JSON schema was asked for. -/
theorem Rendered.schemaEncoding_iff {renderers : Renderers} {request : DefinitionRequest}
    (rendered : Rendered renderers request) :
    request.schemaEncoding = .jsonSchema ↔ request.encoding = .jsonSchema := by
  constructor
  · intro json
    by_contra ros
    obtain ⟨schema, _, _, known⟩ := rendered.ros ros
    rcases schemaEncoding_cases known with ⟨idl, _⟩ | ⟨msg, _⟩
    · rw [json] at idl
      cases idl
    · rw [json] at msg
      cases msg
  · exact rendered.json

def Control.request? : Control → Option DefinitionRequest
  | .locking request | .waiting request _ | .calling request | .inFlight request
  | .recording request _ | .returned request _ | .lost request => some request
  | .idle | .notRendered _ => none

structure AllRendered (renderers : Renderers) (config : Config Hash) : Prop where
  callers : ∀ {thread : Nat} {control : Control} {request : DefinitionRequest},
    config.threads[thread]? = some control → control.request? = some request →
    Rendered renderers request
  calls : ∀ {request : DefinitionRequest}, Succeeded config.shared.calls request →
    Rendered renderers request

section Step

variable {renderers : Renderers} {config next : Config Hash} {thread : Nat} {choice : Choice}
  {before after : Control}

theorem AllRendered.quiet (inv : AllRendered renderers config)
    (step : (program hashSchemaText).StepOf config thread choice next before after)
    (sameCalls : ∀ {request : DefinitionRequest}, Succeeded next.shared.calls request →
      before.request? = some request ∨ Succeeded config.shared.calls request)
    (same : ∀ request, after.request? = some request → before.request? = some request ∨
      Rendered renderers request) : AllRendered renderers next := by
  constructor
  · intro other control request found holds
    rcases step.thread_cases found with ⟨_, rfl⟩ | ⟨_, earlier⟩
    · rcases same request holds with held | rendered
      · exact inv.callers step.running held
      · exact rendered
    · exact inv.callers earlier holds
  · intro request succeeded
    rcases sameCalls succeeded with held | earlier
    · exact inv.callers step.running held
    · exact inv.calls earlier

end Step

theorem AllRendered.step {renderers : Renderers} {config next : Config Hash} {label : Nat × Choice}
    (inv : AllRendered renderers config) (permitted : RendersWith renderers config label)
    (stepped : (program hashSchemaText).machine.step? config label = some next) :
    AllRendered renderers next := by
  obtain ⟨before, after, step, transition⟩ := step_transition stepped
  obtain ⟨thread, choice⟩ := label
  obtain ⟨registry, threads⟩ := next
  change Transition hashSchemaText config.shared before choice registry after at transition
  cases transition with
  | notRendered => exact inv.quiet step .inr (by simp [Control.request?])
  | requested _ worked =>
      refine inv.quiet step .inr ?_
      intro request same
      cases same
      obtain ⟨rfl, rfl⟩ := permitted
      obtain ⟨rfl, rfl⟩ := requestDefinition_arguments worked
      exact .inr worked
  | inserted | mismatched | alreadyDefined | blocked | woke | lost | defined | failed =>
      exact inv.quiet step .inr fun _ holds => .inl holds
  | started => exact inv.quiet step (fun succeeded => .inr (succeeded_of_started succeeded)) fun _ holds => .inl holds
  | finished =>
      refine inv.quiet step ?_ fun _ holds => .inl holds
      intro request succeeded
      rcases succeeded_of_finished succeeded with ⟨rfl, _⟩ | earlier
      · exact .inl rfl
      · exact .inr earlier

theorem allRendered_of_run {renderers : Renderers} {threads : Nat} {config : Config Hash}
    (run : (program hashSchemaText).machine.Run (RendersWith renderers) (initial Hash threads) config) :
    AllRendered renderers config := by
  refine run.invariant ⟨?_, ?_⟩ fun inv permitted stepped => inv.step permitted stepped
  · intro thread control request found holds
    cases initial_thread found
    cases holds
  · intro request outstanding
    obtain ⟨outcome, _, member⟩ := outstanding
    cases member

/-- What a receiver that resolves type `topicType` checks for a track published with
the schema, as `publish_data_track` publishes it. -/
def publishedContext (trackName participantIdentity topicType : String) (id : DataTrackSchemaId) :
    InboundSchemaContext :=
  ⟨trackName, participantIdentity, topicType, some id, some (publishedFrameEncoding id)⟩

/-- A definition that was fetched and compared is accepted only if it is the local one. -/
theorem validateDefinition_accepted {renderSchema : String → Option RosMessageSchema}
    {getSchema : DataTrackSchemaId → String → Retrieval} {context : InboundSchemaContext}
    {schemaId : DataTrackSchemaId} :
    validateDefinition hashSchemaText renderSchema getSchema context schemaId = .accepted ↔
      ∃ localSchema, renderSchema context.topicType = some localSchema ∧
        getSchema schemaId context.participantIdentity = .returned (some localSchema.text) ∧
        ((schemaId.encoding = .ros2Msg ∧ localSchema.encoding = "ros2msg") ∨
          (schemaId.encoding = .ros2Idl ∧ localSchema.encoding = "ros2idl")) := by
  unfold validateDefinition
  constructor
  · intro accepted
    split at accepted
    · cases accepted
    · cases accepted
    · cases accepted
    next remoteSchemaText retrieved =>
      split at accepted
      · cases accepted
      next localSchema rendered =>
        split_ifs at accepted with differ other
        simp only [not_or, ne_eq, not_not] at other
        refine ⟨localSchema, rendered, ?_, differ⟩
        rw [retrieved, other.2]
  · intro agreed
    obtain ⟨localSchema, rendered, retrieved, same⟩ := agreed
    simp [retrieved, rendered, same]

theorem validateInboundSchema_ros {renderSchema : String → Option RosMessageSchema}
    {getSchema : DataTrackSchemaId → String → Retrieval} {context : InboundSchemaContext}
    (schemaId : DataTrackSchemaId) (advertised : context.schema = some schemaId)
    (ros : schemaId.encoding = .ros2Msg ∨ schemaId.encoding = .ros2Idl) :
    validateInboundSchema hashSchemaText renderSchema getSchema context = .accepted ↔
      (context.frameEncoding = some .cdr ∨ context.frameEncoding = some .json) ∧
        schemaId.name = context.topicType ∧
        validateDefinition hashSchemaText renderSchema getSchema context schemaId = .accepted := by
  have notJson : schemaId.encoding ≠ .jsonSchema := by
    rcases ros with msg | idl
    · rw [msg]
      decide
    · rw [idl]
      decide
  have supported : ¬ (schemaId.encoding ≠ .ros2Msg ∧ schemaId.encoding ≠ .ros2Idl) := by
    intro neither
    obtain ⟨notMsg, notIdl⟩ := neither
    exact ros.elim notMsg notIdl
  unfold validateInboundSchema
  cases encoded : context.frameEncoding with
  | none => simp
  | some frameEncoding =>
      by_cases known : frameEncoding ≠ .cdr ∧ frameEncoding ≠ .json
      · simp [known]
      · by_cases named : schemaId.name = context.topicType
        · have either : frameEncoding = .cdr ∨ frameEncoding = .json := by
            rw [not_and_or, not_not, not_not] at known
            exact known
          simp only [known, advertised, named, notJson, supported, if_false, ne_eq, not_true,
            Option.some.injEq, either, true_and]
        · simp [known, advertised, named]

theorem validateInboundSchema_json {renderSchema : String → Option RosMessageSchema}
    {getSchema : DataTrackSchemaId → String → Retrieval} {trackName participantIdentity : String}
    (id : DataTrackSchemaId) (json : id.encoding = .jsonSchema)
    (renderable : renderSchema id.name ≠ none) :
    validateInboundSchema hashSchemaText renderSchema getSchema
      (publishedContext trackName participantIdentity id.name id) = .accepted := by
  simp [validateInboundSchema, publishedContext, publishedFrameEncoding, json, renderable]

/-- No ROS definition but the local one is accepted. -/
theorem localSchema_of_accepted {renderSchema : String → Option RosMessageSchema}
    {getSchema : DataTrackSchemaId → String → Retrieval} {context : InboundSchemaContext}
    {schemaId : DataTrackSchemaId} (advertised : context.schema = some schemaId)
    (ros : schemaId.encoding = .ros2Msg ∨ schemaId.encoding = .ros2Idl)
    (accepted : validateInboundSchema hashSchemaText renderSchema getSchema context = .accepted) :
    ∃ localSchema, renderSchema context.topicType = some localSchema ∧
      schemaId.name = context.topicType ∧
      schemaEncodingFromRosDefinition localSchema.encoding = some schemaId.encoding ∧
      getSchema schemaId context.participantIdentity = .returned (some localSchema.text) := by
  obtain ⟨_, named, definition⟩ := (validateInboundSchema_ros schemaId advertised ros).mp accepted
  obtain ⟨localSchema, found, fetched, encodings⟩ := validateDefinition_accepted.mp definition
  refine ⟨localSchema, found, named, ?_, fetched⟩
  rcases encodings with ⟨msg, text⟩ | ⟨idl, text⟩
  · rw [msg, text]
    rfl
  · rw [idl, text]
    rfl

/-- A track published under the ID that `ensureSchemaDefined` returned is accepted by a receiver
with the same renderers, and decoded as JSON exactly when it is sent as JSON. -/
theorem accepted_of_returned {renderers : Renderers} {threads : Nat} {config : Config Hash}
    (run : (program hashSchemaText).machine.Run (RendersWith renderers) (initial Hash threads) config)
    {thread : Nat} {request : DefinitionRequest} {id : DataTrackSchemaId}
    (returned : config.threads[thread]? = some (.returned request (some id)))
    (renderable : renderers.renderSchema request.topicType ≠ none)
    {getSchema : DataTrackSchemaId → String → Retrieval} {participantIdentity : String}
    (retrieved : ∃ defined, Succeeded config.shared.calls defined ∧ defined.schemaId = id ∧
      getSchema id participantIdentity = .returned (some defined.schemaText)) (trackName : String) :
    validateInboundSchema hashSchemaText renderers.renderSchema getSchema
        (publishedContext trackName participantIdentity request.topicType id) = .accepted ∧
      decodesJson (publishedFrameEncoding id) = sendsJson request.encoding := by
  have rendered := allRendered_of_run run
  have mine := rendered.callers returned rfl
  obtain ⟨rfl, _⟩ := (registryInvariant_of_run run).recorded.returned returned
  obtain ⟨defined, succeeded, sameId, fetched⟩ := retrieved
  have theirs := rendered.calls succeeded
  have sameType : defined.topicType = request.topicType := congrArg DataTrackSchemaId.name sameId
  have sameEncoding : defined.schemaEncoding = request.schemaEncoding :=
    congrArg DataTrackSchemaId.encoding sameId
  refine ⟨?_, ?_⟩
  · by_cases json : request.encoding = .jsonSchema
    · exact validateInboundSchema_json request.schemaId (mine.json json) renderable
    · obtain ⟨schema, found, text, known⟩ := mine.ros json
      have definedRos : defined.encoding ≠ .jsonSchema := by
        intro definedJson
        rw [← theirs.schemaEncoding_iff, sameEncoding, mine.schemaEncoding_iff] at definedJson
        exact json definedJson
      obtain ⟨definedSchema, definedFound, definedText, _⟩ := theirs.ros definedRos
      rw [sameType, found, Option.some.injEq] at definedFound
      subst definedFound
      have encodings := schemaEncoding_cases known
      refine (validateInboundSchema_ros request.schemaId rfl ?_).mpr ⟨?_, rfl, ?_⟩
      · exact encodings.elim (fun idl => .inr idl.1) fun msg => .inl msg.1
      · left
        have notJson : request.schemaEncoding ≠ .jsonSchema := by
          rwa [ne_eq, mine.schemaEncoding_iff]
        simp [publishedContext, publishedFrameEncoding, DefinitionRequest.schemaId, notJson]
      · refine validateDefinition_accepted.mpr ⟨schema, found, ?_, ?_⟩
        · rw [← definedText]
          exact fetched
        · exact encodings.elim .inr .inl
  · have same := mine.schemaEncoding_iff
    by_cases json : request.encoding = .jsonSchema
    · simp [decodesJson, sendsJson, publishedFrameEncoding, DefinitionRequest.schemaId, same.mpr json, json]
    · have notJson : request.schemaEncoding ≠ .jsonSchema := by
        rwa [ne_eq, same]
      simp [decodesJson, sendsJson, publishedFrameEncoding, DefinitionRequest.schemaId, notJson, json]

/-- Sender and receiver agree: what is published under a defined schema is accepted and decoded as it
was sent. Conversely, of the ROS definitions only the local one is accepted. -/
theorem schema_agreement (hashSchemaText : String → Hash) :
    (∀ (renderers : Renderers) (threads : Nat) (config : Config Hash),
      (program hashSchemaText).machine.Run (RendersWith renderers) (initial Hash threads) config →
      ∀ (thread : Nat) (request : DefinitionRequest) (id : DataTrackSchemaId),
      config.threads[thread]? = some (.returned request (some id)) →
      renderers.renderSchema request.topicType ≠ none →
      ∀ (getSchema : DataTrackSchemaId → String → Retrieval) (participantIdentity : String),
      (∃ defined, Succeeded config.shared.calls defined ∧ defined.schemaId = id ∧
        getSchema id participantIdentity = .returned (some defined.schemaText)) →
      ∀ trackName, validateInboundSchema hashSchemaText renderers.renderSchema getSchema
          (publishedContext trackName participantIdentity request.topicType id) = .accepted ∧
        decodesJson (publishedFrameEncoding id) = sendsJson request.encoding) ∧
    ∀ (renderSchema : String → Option RosMessageSchema)
      (fetch : DataTrackSchemaId → String → Retrieval) (context : InboundSchemaContext)
      (schemaId : DataTrackSchemaId), context.schema = some schemaId →
      (schemaId.encoding = .ros2Msg ∨ schemaId.encoding = .ros2Idl) →
      validateInboundSchema hashSchemaText renderSchema fetch context = .accepted →
      ∃ localSchema, renderSchema context.topicType = some localSchema ∧
        schemaId.name = context.topicType ∧
        schemaEncodingFromRosDefinition localSchema.encoding = some schemaId.encoding ∧
        fetch schemaId context.participantIdentity = .returned (some localSchema.text) :=
  ⟨fun _ _ _ run _ _ _ returned renderable _ _ retrieved trackName =>
      accepted_of_returned run returned renderable retrieved trackName,
    fun _ _ _ _ advertised ros accepted => localSchema_of_accepted advertised ros accepted⟩

/-- A default request for a type whose definition renders as IDL. -/
theorem schema_agreement_of_idl :
    validateInboundSchema id (fun _ => some ⟨"ros2idl", "struct T"⟩)
        (fun _ _ => .returned (some "struct T"))
        (publishedContext "/t" "robot" "pkg/msg/T" ⟨"pkg/msg/T", .ros2Idl⟩) = .accepted ∧
      decodesJson (publishedFrameEncoding ⟨"pkg/msg/T", .ros2Idl⟩) = sendsJson .ros2Msg := by
  let renderers : Renderers := ⟨fun _ => some ⟨"ros2idl", "struct T"⟩, fun _ => none⟩
  let request : DefinitionRequest := ⟨"pkg/msg/T", .ros2Msg, "struct T", .ros2Idl, "ros2idl"⟩
  obtain ⟨config, run, returned, called⟩ := Machine.Run.exists_of_exec
    (program (id : String → String)).machine (RendersWith renderers) (initial String 1)
    [(0, .call "pkg/msg/T" .ros2Msg none (some ⟨"ros2idl", "struct T"⟩)), (0, .proceed), (0, .proceed),
      (0, .finish (.returned true)), (0, .proceed)]
    (fun config => config.threads[0]? = some (.returned request (some request.schemaId)) ∧
      .finished request (.returned true) ∈ config.shared.calls)
    (by decide +kernel)
  exact (schema_agreement id).1 renderers 1 config run 0 request _ returned (by decide) _ _
    ⟨request, ⟨_, rfl, called⟩, rfl, rfl⟩ "/t"

end RosPortal.Schema
